/-!
# EcdsaCodec.Error

What an operation on signatures or keys fails with, and the sentence shown for it. The three
causes carry their texts as they are; no text is parsed back.
-/

namespace EcdsaCodec

inductive Error where
  /-- The algorithm is unknown, or it is not an ECDSA one. -/
  | unsupportedAlgorithm (algorithm : String)
  | invalidFormat (context reason : String)
  | keyGeneration (curve message : String)
  deriving DecidableEq, Repr

namespace Error

def message : Error → String
  | unsupportedAlgorithm algorithm => "Unsupported Algorithm: " ++ algorithm
  | invalidFormat context reason =>
    "Invalid ECDSA signature format: " ++ context ++ ": " ++ reason
  | keyGeneration curve text =>
    "Unable to generate Elliptic Curve KeyPair for " ++ curve ++ ": " ++ text

def isFormatError : Error → Bool
  | invalidFormat _ _ => true
  | unsupportedAlgorithm _ => false
  | keyGeneration _ _ => false

end Error
end EcdsaCodec
