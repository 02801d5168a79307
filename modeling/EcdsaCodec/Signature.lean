import EcdsaCodec.Transcoding

/-!
# EcdsaCodec.Signature

The two forms of an ECDSA signature as types of their own. A value of either type may hold any
octets; the conversions look into them, and `ConcatSignature.ofOctetsFor` checks their number
against an algorithm.
-/

namespace EcdsaCodec

/-- Octets taken for a DER signature. -/
structure DerSignature where
  octets : Octets
  deriving DecidableEq, Repr

/-- Octets taken for R and S side by side. -/
structure ConcatSignature where
  octets : Octets
  deriving DecidableEq, Repr

def Octets.decimalText (bs : Octets) : String :=
  "[" ++ String.intercalate ", " (bs.map (fun b => toString b.toNat)) ++ "]"

namespace DerSignature

/-- Both numbers side by side, in `outputLength` octets if they fit. -/
def toConcat (d : DerSignature) (outputLength : Nat) : Reported ConcatSignature :=
  (Transcoding.concatOfDer d.octets outputLength).map ConcatSignature.mk

def toConcatFor (d : DerSignature) (a : Algorithm) : Reported ConcatSignature :=
  match a.signatureLength with
  | .error e => .silent (.error e)
  | .ok length => d.toConcat length

def summary (d : DerSignature) : String := "DerSignature(" ++ d.octets.decimalText ++ ")"

end DerSignature

namespace ConcatSignature

/-- Takes octets for a signature of this algorithm if their number is right. -/
def ofOctetsFor (a : Algorithm) (octets : Octets) : Reported ConcatSignature :=
  match a.signatureLength with
  | .error e => .silent (.error e)
  | .ok expected =>
    if octets.length = expected then
      .silent (.ok ⟨octets⟩)
    else
      ⟨.error (.invalidFormat "concat signature" "length does not match algorithm"),
        [.lengthMismatch expected octets.length]⟩

def toDer (c : ConcatSignature) : Reported DerSignature :=
  (Transcoding.derOfConcat c.octets).map DerSignature.mk

def derOfOctetsFor (a : Algorithm) (octets : Octets) : Reported DerSignature :=
  (ofOctetsFor a octets).andThen toDer

def components (c : ConcatSignature) : Components := Components.ofConcat c.octets

/-- The curve whose signatures have this length. -/
def curve? (c : ConcatSignature) : Option Curve :=
  Curve.all.find? (fun k => k.signatureLength == c.octets.length)

def summary (c : ConcatSignature) : String := "ConcatSignature(" ++ c.octets.decimalText ++ ")"

theorem length_of_curve? {c : ConcatSignature} {k : Curve} (h : c.curve? = some k) :
    k.signatureLength = c.octets.length := by
  unfold curve? at h
  have found := List.find?_some h
  exact eq_of_beq found

theorem curve?_eq_some_iff {c : ConcatSignature} {k : Curve} :
    c.curve? = some k ↔ c.octets.length = k.signatureLength := by
  refine ⟨fun h => (length_of_curve? h).symm, fun h => ?_⟩
  cases hc : c.curve? with
  | none =>
    unfold curve? at hc
    have missing := List.find?_eq_none.1 hc k (Curve.mem_all k)
    exact absurd (beq_iff_eq.2 h.symm) missing
  | some k' => rw [Curve.eq_of_signatureLength_eq ((length_of_curve? hc).trans h)]

end ConcatSignature
end EcdsaCodec
