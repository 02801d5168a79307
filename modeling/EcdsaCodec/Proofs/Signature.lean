import EcdsaCodec.Proofs.Transcoding
import EcdsaCodec.Signature

/-!
# EcdsaCodec.Proofs.Signature

The conversions of typed signatures, each as the conversion of its octets.

* `toConcat_eq_ok_iff`, `toDer_eq_ok_iff`: wrapping adds nothing to a result and takes nothing away.
* `toConcatFor_of_curve`, `ofOctetsFor_of_curve`: an ECDSA algorithm stands for the signature length
  of its curve.
* `toConcatFor_of_no_curve`, `ofOctetsFor_of_no_curve`: any other algorithm is refused by name, before
  the octets are looked at.
-/

namespace EcdsaCodec

open Transcoding

theorem Reported.result_map_eq_ok_iff {α β : Type} {f : α → β} {x : Reported α} {b : β} :
    (x.map f).result = .ok b ↔ ∃ a, x.result = .ok a ∧ f a = b := by
  rw [result_map]
  cases x.result with
  | error e =>
    constructor
    · intro h; cases h
    · rintro ⟨a, h, -⟩; cases h
  | ok a =>
    constructor
    · intro h; cases h; exact ⟨a, rfl, rfl⟩
    · rintro ⟨a', h, rfl⟩; cases h; rfl

namespace Algorithm

theorem signatureLength_of_curve {a : Algorithm} {k : Curve} (h : a.curve? = some k) :
    a.signatureLength = .ok k.signatureLength := by
  rw [signatureLength, curve_of_curve?_eq_some h]
  rfl

theorem signatureLength_of_no_curve {a : Algorithm} (h : a.curve? = none) :
    a.signatureLength = .error (.unsupportedAlgorithm a.name) := by
  rw [signatureLength, curve_of_curve?_eq_none h]
  rfl

end Algorithm

namespace DerSignature

theorem toConcat_eq_ok_iff {d : DerSignature} {c : ConcatSignature} {outputLength : Nat} :
    (d.toConcat outputLength).result = .ok c ↔
      (concatOfDer d.octets outputLength).result = .ok c.octets := by
  rw [toConcat, Reported.result_map_eq_ok_iff]
  constructor
  · rintro ⟨octets, h, rfl⟩
    exact h
  · intro h
    exact ⟨c.octets, h, rfl⟩

theorem toConcatFor_of_curve {a : Algorithm} {k : Curve} (h : a.curve? = some k)
    (d : DerSignature) : d.toConcatFor a = d.toConcat k.signatureLength := by
  rw [toConcatFor, Algorithm.signatureLength_of_curve h]

theorem toConcatFor_of_no_curve {a : Algorithm} (h : a.curve? = none) (d : DerSignature) :
    d.toConcatFor a = .silent (.error (.unsupportedAlgorithm a.name)) := by
  rw [toConcatFor, Algorithm.signatureLength_of_no_curve h]

end DerSignature

namespace ConcatSignature

theorem toDer_eq_ok_iff {c : ConcatSignature} {d : DerSignature} :
    c.toDer.result = .ok d ↔ (derOfConcat c.octets).result = .ok d.octets := by
  rw [toDer, Reported.result_map_eq_ok_iff]
  constructor
  · rintro ⟨octets, h, rfl⟩
    exact h
  · intro h
    exact ⟨d.octets, h, rfl⟩

theorem ofOctetsFor_of_curve {a : Algorithm} {k : Curve} (h : a.curve? = some k)
    (octets : Octets) :
    ofOctetsFor a octets =
      if octets.length = k.signatureLength then
        .silent (.ok ⟨octets⟩)
      else
        ⟨.error (.invalidFormat "concat signature" "length does not match algorithm"),
          [.lengthMismatch k.signatureLength octets.length]⟩ := by
  rw [ofOctetsFor, Algorithm.signatureLength_of_curve h]

theorem ofOctetsFor_of_no_curve {a : Algorithm} (h : a.curve? = none) (octets : Octets) :
    ofOctetsFor a octets = .silent (.error (.unsupportedAlgorithm a.name)) := by
  rw [ofOctetsFor, Algorithm.signatureLength_of_no_curve h]

theorem ofOctetsFor_eq_ok_iff {a : Algorithm} {k : Curve} (h : a.curve? = some k)
    {octets : Octets} {c : ConcatSignature} :
    (ofOctetsFor a octets).result = .ok c ↔ octets.length = k.signatureLength ∧ c = ⟨octets⟩ := by
  rw [ofOctetsFor_of_curve h]
  split
  · rename_i fits
    constructor
    · intro ok; cases ok; exact ⟨fits, rfl⟩
    · rintro ⟨-, rfl⟩; rfl
  · rename_i other
    constructor
    · intro ok; cases ok
    · rintro ⟨fits, -⟩; exact absurd fits other

end ConcatSignature
end EcdsaCodec
