/-!
# EcdsaCodec.Document

A structured value as it travels in a text document: the form in which names of algorithms and
curves are written and read back.
-/

namespace EcdsaCodec

/-- A structured value. A number is `mantissa / 10 ^ scale`; the keys of a record are distinct. -/
inductive Document where
  | null
  | boolean (b : Bool)
  | number (mantissa : Int) (scale : Nat)
  | text (s : String)
  | list (items : List Document)
  | record (fields : List (String × Document))
  deriving Repr, Inhabited

end EcdsaCodec
