import EcdsaCodec.Algorithm
import EcdsaCodec.Der.Reader
import EcdsaCodec.Der.Writer

/-!
# EcdsaCodec.Diagnostic

What an operation reports to a log beside its result. Diagnostics change no result; an operation
lists its own in the order in which they arose.
-/

namespace EcdsaCodec

inductive Level where
  | trace
  | debug
  | warn
  deriving DecidableEq, Repr

inductive FieldValue where
  | count (n : Nat)
  | text (s : String)
  deriving DecidableEq, Repr

inductive Diagnostic where
  | derRejected (fault : Der.ReadFault)
  /-- A component needs more than the `nominal` width, so both halves have `width` octets. -/
  | widened (width nominal : Nat)
  | concatRejected (fault : Der.WriteFault)
  | lengthMismatch (expected actual : Nat)
  | wrongCurve (requested returned : Curve)
  | generated (curve : Curve)
  deriving DecidableEq, Repr

namespace Diagnostic

def level : Diagnostic → Level
  | derRejected _ => .debug
  | widened _ _ => .warn
  | concatRejected _ => .debug
  | lengthMismatch _ _ => .debug
  | wrongCurve _ _ => .debug
  | generated _ => .trace

def message : Diagnostic → String
  | derRejected _ => "rejecting DER signature"
  | widened _ _ => "DER component wider than the algorithm width; growing concat signature"
  | concatRejected _ => "rejecting concat signature"
  | lengthMismatch _ _ => "concat signature length does not match algorithm"
  | wrongCurve _ _ => "generator returned a key pair on the wrong curve"
  | generated _ => "generated key pair"

def fields : Diagnostic → List (String × FieldValue)
  | derRejected fault => [("reason", .text fault.reason)]
  | widened width nominal => [("raw_len", .count width), ("nominal", .count nominal)]
  | concatRejected fault => [("reason", .text fault.reason)]
  | lengthMismatch expected actual => [("expected", .count expected), ("actual", .count actual)]
  | wrongCurve requested returned =>
    [("requested", .text requested.asn1Name), ("returned", .text returned.asn1Name)]
  | generated curve => [("curve", .text curve.asn1Name)]

end Diagnostic

/-- The result of an operation together with its diagnostics. -/
structure Reported (α : Type) where
  result : Except Error α
  diagnostics : List Diagnostic
  deriving Repr

namespace Reported

variable {α β : Type}

def silent (result : Except Error α) : Reported α := ⟨result, []⟩

def map (f : α → β) (x : Reported α) : Reported β := ⟨x.result.map f, x.diagnostics⟩

/-- Goes on with a result; the diagnostics of both operations stay in order. -/
def andThen (x : Reported α) (next : α → Reported β) : Reported β :=
  match x.result with
  | .error e => ⟨.error e, x.diagnostics⟩
  | .ok a => ⟨(next a).result, x.diagnostics ++ (next a).diagnostics⟩

@[simp] theorem result_silent (result : Except Error α) : (silent result).result = result := rfl

@[simp] theorem result_map (f : α → β) (x : Reported α) : (x.map f).result = x.result.map f := rfl

end Reported
end EcdsaCodec
