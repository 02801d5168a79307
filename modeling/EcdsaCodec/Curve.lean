import EcdsaCodec.Registry

/-!
# EcdsaCodec.Curve

The three elliptic curves of JSON Web Signatures, with their names and sizes in octets. Documents
keep a table of names of their own; `documentName_eq` says that it agrees with the names of JSON Web
Keys.
-/

namespace EcdsaCodec

inductive Curve where
  | p256
  | p384
  | p521
  deriving DecidableEq, Repr

namespace Curve

def all : List Curve := [p256, p384, p521]

/-- The short identifier, as key pairs show it. -/
def identifier : Curve → String
  | p256 => "P256"
  | p384 => "P384"
  | p521 => "P521"

def jwkName : Curve → String
  | p256 => "P-256"
  | p384 => "P-384"
  | p521 => "P-521"

def asn1Name : Curve → String
  | p256 => "secp256r1"
  | p384 => "secp384r1"
  | p521 => "secp521r1"

/-- Octets of a field element, and so of each half of a signature. -/
def fieldSize : Curve → Nat
  | p256 => 32
  | p384 => 48
  | p521 => 66

def signatureLength (c : Curve) : Nat := 2 * c.fieldSize

def declared : List Curve := (List.range 3).map ofNat

def documentName : Curve → String
  | p256 => "P-256"
  | p384 => "P-384"
  | p521 => "P-521"

def registry : Registry Curve := ⟨declared, documentName⟩

theorem mem_all (c : Curve) : c ∈ all := by
  cases c <;> decide

theorem eq_of_signatureLength_eq {a b : Curve} :
    a.signatureLength = b.signatureLength → a = b := by
  cases a <;> cases b <;> decide

theorem mem_declared (c : Curve) : c ∈ declared := by
  cases c <;> decide

theorem eq_of_jwkName_eq {a b : Curve} : a.jwkName = b.jwkName → a = b := by
  cases a <;> cases b <;> decide

theorem documentName_eq (c : Curve) : c.documentName = c.jwkName := by
  cases c <;> rfl

theorem registry_faithful : registry.Faithful where
  listed := mem_declared
  distinct a b h := eq_of_jwkName_eq (by rw [← documentName_eq, ← documentName_eq]; exact h)

end Curve
end EcdsaCodec
