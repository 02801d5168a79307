import EcdsaCodec.Curve
import EcdsaCodec.Error

/-!
# EcdsaCodec.Algorithm

The registered signature algorithms of JSON Web Signatures, and the curve behind those of them that
are ECDSA. Asking any other algorithm for a curve, or for what depends on one, is an error that
names the algorithm.

An algorithm is found by its name in two tables: `names`, for a text by itself, and `registry`, for a
document. `documentName_eq` says that they give the same names.
-/

namespace EcdsaCodec

/-- A signature algorithm, by family: unsecured, HMAC, RSA PKCS #1, ECDSA, RSA PSS. -/
inductive Algorithm where
  | unsecured
  | hs256
  | hs384
  | hs512
  | rs256
  | rs384
  | rs512
  | es256
  | es384
  | es512
  | ps256
  | ps384
  | ps512
  deriving DecidableEq, Repr

namespace Algorithm

def all : List Algorithm :=
  [unsecured, hs256, hs384, hs512, rs256, rs384, rs512, es256, es384, es512, ps256, ps384, ps512]

def name : Algorithm → String
  | unsecured => "none"
  | hs256 => "HS256"
  | hs384 => "HS384"
  | hs512 => "HS512"
  | rs256 => "RS256"
  | rs384 => "RS384"
  | rs512 => "RS512"
  | es256 => "ES256"
  | es384 => "ES384"
  | es512 => "ES512"
  | ps256 => "PS256"
  | ps384 => "PS384"
  | ps512 => "PS512"

def identifier (a : Algorithm) : String := a.name.toLower.capitalize

def index (a : Algorithm) : Nat := all.idxOf a

def isEllipticCurve : Algorithm → Bool
  | es256 | es384 | es512 => true
  | _ => false

def names : Registry Algorithm := ⟨all, name⟩

def declared : List Algorithm := (List.range 13).map ofNat

/-- The name that stands for an algorithm in a document. -/
def documentName : Algorithm → String
  | unsecured => "none"
  | hs256 => "HS256"
  | hs384 => "HS384"
  | hs512 => "HS512"
  | rs256 => "RS256"
  | rs384 => "RS384"
  | rs512 => "RS512"
  | es256 => "ES256"
  | es384 => "ES384"
  | es512 => "ES512"
  | ps256 => "PS256"
  | ps384 => "PS384"
  | ps512 => "PS512"

def registry : Registry Algorithm := ⟨declared, documentName⟩

/-- The algorithm with exactly this name. -/
def parse (text : String) : Except Error Algorithm :=
  match names.find? text with
  | some a => .ok a
  | none => .error (.unsupportedAlgorithm text)

def curve? : Algorithm → Option Curve
  | es256 => some .p256
  | es384 => some .p384
  | es512 => some .p521
  | _ => none

/-- The curve of an algorithm that has to be an ECDSA one. -/
def curve (a : Algorithm) : Except Error Curve :=
  match a.curve? with
  | some c => .ok c
  | none => .error (.unsupportedAlgorithm a.name)

def signatureLength (a : Algorithm) : Except Error Nat := a.curve.map Curve.signatureLength

def curveName (a : Algorithm) : Except Error String := a.curve.map Curve.asn1Name

theorem mem_all (a : Algorithm) : a ∈ all := by
  cases a <;> decide

theorem eq_of_name_eq {a b : Algorithm} : a.name = b.name → a = b := by
  cases a <;> cases b <;> decide

theorem mem_declared (a : Algorithm) : a ∈ declared := by
  cases a <;> decide

theorem documentName_eq (a : Algorithm) : a.documentName = a.name := by
  cases a <;> rfl

theorem names_faithful : names.Faithful := ⟨mem_all, fun _ _ => eq_of_name_eq⟩

theorem registry_faithful : registry.Faithful where
  listed := mem_declared
  distinct a b h := eq_of_name_eq (by rw [← documentName_eq, ← documentName_eq]; exact h)

theorem parse_eq_ok_iff {text : String} {a : Algorithm} : parse text = .ok a ↔ text = a.name := by
  rw [show a.name = names.name a from rfl, ← Registry.find?_eq_some_iff names_faithful]
  unfold parse
  split <;> simp_all

theorem curve?_isSome (a : Algorithm) : a.curve?.isSome = a.isEllipticCurve := by
  cases a <;> rfl

theorem curve?_eq_none_iff {a : Algorithm} : a.curve? = none ↔ a.isEllipticCurve = false := by
  rw [← curve?_isSome, Option.isSome_eq_false_iff, Option.isNone_iff_eq_none]

theorem curve_of_curve?_eq_none {a : Algorithm} (h : a.curve? = none) :
    a.curve = .error (.unsupportedAlgorithm a.name) := by
  rw [curve, h]

theorem curve_of_curve?_eq_some {a : Algorithm} {c : Curve} (h : a.curve? = some c) :
    a.curve = .ok c := by
  rw [curve, h]

end Algorithm

namespace Curve

def algorithm : Curve → Algorithm
  | p256 => .es256
  | p384 => .es384
  | p521 => .es512

@[simp] theorem curve?_algorithm (c : Curve) : c.algorithm.curve? = some c := by
  cases c <;> rfl

@[simp] theorem curve_algorithm (c : Curve) : c.algorithm.curve = .ok c := by
  cases c <;> rfl

end Curve

theorem Algorithm.curve?_eq_some_iff {a : Algorithm} {c : Curve} :
    a.curve? = some c ↔ a = c.algorithm := by
  cases a <;> cases c <;> simp [Algorithm.curve?, Curve.algorithm]

end EcdsaCodec
