import EcdsaCodec.Proofs.Diagnostics
import EcdsaCodec.Proofs.Octets.Digits
import EcdsaCodec.Proofs.Reading

/-!
# EcdsaCodec.Proofs.Signature.Growth

Halves that had to grow. A number too wide for the field of the curve is not cut: both halves become
wider, and the string is longer than the signatures of the algorithm.

* `length_toConcatFor`: the length of the halves, by the numbers of the signature.
* `DerSignature.growth_visible`: the numbers, the length, the curve of that length, the length check and
  the log all tell the same, so a caller who looks at one of them has looked at all.
-/

namespace EcdsaCodec

open Der Transcoding

theorem Curve.half_signatureLength (k : Curve) : k.signatureLength / 2 = k.fieldSize := by
  rw [signatureLength]
  omega

section

variable {a : Algorithm} {k : Curve} {d : DerSignature} {c : ConcatSignature} {i : Components}

theorem concatOfDer_of_toConcatFor (hk : a.curve? = some k) (ok : (d.toConcatFor a).result = .ok c) :
    (concatOfDer d.octets k.signatureLength).result = .ok c.octets := by
  rw [DerSignature.toConcatFor_of_curve hk] at ok
  exact DerSignature.toConcat_eq_ok_iff.1 ok

/-- Twice the width of the field, or of the wider number. -/
theorem length_toConcatFor (hk : a.curve? = some k) (ok : (d.toConcatFor a).result = .ok c)
    (frames : Frames i d.octets) :
    c.octets.length = 2 * max i.trim.width k.fieldSize := by
  have converted := concatOfDer_of_toConcatFor hk ok
  obtain ⟨j, hread, octets⟩ := concatOfDer_eq_ok_iff.1 converted
  obtain rfl := frames_unique frames (frames_of_read hread).2
  rw [octets, Components.length_join (Nat.le_max_left _ _), Curve.half_signatureLength]

theorem warns_toConcatFor_iff (hk : a.curve? = some k) (ok : (d.toConcatFor a).result = .ok c) :
    (∃ event ∈ (d.toConcatFor a).diagnostics, event.level = .warn) ↔
      2 * k.fieldSize < c.octets.length := by
  have log := readingLog_concatOfDer d.octets k.signatureLength
  have warns := log.warns_iff (concatOfDer_of_toConcatFor hk ok)
  rw [Curve.half_signatureLength] at warns
  rw [← warns, DerSignature.toConcatFor_of_curve hk]
  rfl

theorem fieldSize_lt_of_curve? {k' : Curve} (h : 2 * k.fieldSize < c.octets.length)
    (hk' : c.curve? = some k') : k.fieldSize < k'.fieldSize := by
  have length := ConcatSignature.length_of_curve? hk'
  rw [Curve.signatureLength] at length
  omega

/-- **Growth can be seen.** Whether both numbers fit in the field shows in the length of the halves, in
the curve of that length, in the length check and in the log alike. Halves that have grown are longer
than any signature on this curve or a smaller one. -/
theorem DerSignature.growth_visible (hk : a.curve? = some k)
    (ok : (d.toConcatFor a).result = .ok c) (frames : Frames i d.octets) :
    List.TFAE [
      i.r.value < 256 ^ k.fieldSize ∧ i.s.value < 256 ^ k.fieldSize,
      c.octets.length = 2 * k.fieldSize,
      c.curve? = some k,
      (ConcatSignature.ofOctetsFor a c.octets).result = .ok c,
      ∀ event ∈ (d.toConcatFor a).diagnostics, event.level ≠ .warn] ∧
    (c.octets.length ≠ 2 * k.fieldSize →
      c.octets.length % 2 = 0 ∧ 2 * k.fieldSize < c.octets.length ∧
      (ConcatSignature.ofOctetsFor a c.octets).result =
        .error (.invalidFormat "concat signature" "length does not match algorithm") ∧
      ∀ k', c.curve? = some k' → k.fieldSize < k'.fieldSize) := by
  have length := length_toConcatFor hk ok frames
  constructor
  · tfae_have 1 ↔ 2 := by
      rw [← Components.width_trim_le_iff, length]
      omega
    tfae_have 3 ↔ 2 := ConcatSignature.curve?_eq_some_iff
    tfae_have 4 ↔ 2 := by
      rw [ConcatSignature.ofOctetsFor_eq_ok_iff hk]
      exact and_iff_left rfl
    tfae_have 5 ↔ 2 := by
      have warns := warns_toConcatFor_iff hk ok
      constructor
      · intro silent
        by_contra grown
        obtain ⟨event, member, level⟩ := warns.2 (by omega)
        exact silent event member level
      · intro fits event member level
        have grown := warns.1 ⟨event, member, level⟩
        omega
    tfae_finish
  · intro grown
    have longer : 2 * k.fieldSize < c.octets.length := by omega
    refine ⟨by omega, longer, ?_, ?_⟩
    · rw [ConcatSignature.ofOctetsFor_of_curve hk, Curve.signatureLength, if_neg grown]
    · intro k' hk'
      exact fieldSize_lt_of_curve? longer hk'

end

/-- An R of 48 octets for ES256 gives halves that have the width of another curve, and an R with a sign
octet gives halves as asked for. -/
theorem DerSignature.growth_visible_on_other_width :
    ((DerSignature.toConcatFor
          ⟨[0x30, 0x35, 0x02, 0x30] ++ List.replicate 48 0x7f ++ [0x02, 0x01, 0x05]⟩ .es256).result =
        .ok ⟨List.replicate 48 0x7f ++ (List.replicate 47 0x00 ++ [0x05])⟩ ∧
      ConcatSignature.curve? ⟨List.replicate 48 0x7f ++ (List.replicate 47 0x00 ++ [0x05])⟩ =
        some .p384 ∧
      (ConcatSignature.ofOctetsFor .es256
          (List.replicate 48 0x7f ++ (List.replicate 47 0x00 ++ [0x05]))).result =
        .error (.invalidFormat "concat signature" "length does not match algorithm") ∧
      ¬ Octets.value (List.replicate 48 0x7f) < 256 ^ 32) ∧
    ((DerSignature.toConcatFor ⟨[0x30, 0x07, 0x02, 0x02, 0x00, 0x80, 0x02, 0x01, 0x05]⟩
          .es256).result =
        .ok ⟨List.replicate 31 0x00 ++ [0x80] ++ (List.replicate 31 0x00 ++ [0x05])⟩ ∧
      ∀ event ∈ (DerSignature.toConcatFor
          ⟨[0x30, 0x07, 0x02, 0x02, 0x00, 0x80, 0x02, 0x01, 0x05]⟩ .es256).diagnostics,
        event.level ≠ .warn) := by
  constructor
  · have read : read ([0x30, 0x35, 0x02, 0x30] ++ List.replicate 48 0x7f ++ [0x02, 0x01, 0x05]) =
        .ok ⟨List.replicate 48 0x7f, [0x05]⟩ := rfl
    have ok : (DerSignature.toConcatFor
          ⟨[0x30, 0x35, 0x02, 0x30] ++ List.replicate 48 0x7f ++ [0x02, 0x01, 0x05]⟩ .es256).result =
        .ok ⟨List.replicate 48 0x7f ++ (List.replicate 47 0x00 ++ [0x05])⟩ := rfl
    have hk : Algorithm.curve? .es256 = some .p256 := rfl
    obtain ⟨same, grown⟩ := DerSignature.growth_visible hk ok (frames_of_read read).2
    obtain ⟨-, -, refused, -⟩ := grown (by decide)
    refine ⟨ok, rfl, refused, fun narrow => ?_⟩
    have values_iff := same.out 0 1
    exact absurd (values_iff.1 ⟨narrow, by decide⟩) (by decide)
  · have read : read [0x30, 0x07, 0x02, 0x02, 0x00, 0x80, 0x02, 0x01, 0x05] =
        .ok ⟨[0x00, 0x80], [0x05]⟩ := rfl
    have ok : (DerSignature.toConcatFor ⟨[0x30, 0x07, 0x02, 0x02, 0x00, 0x80, 0x02, 0x01, 0x05]⟩
          .es256).result =
        .ok ⟨List.replicate 31 0x00 ++ [0x80] ++ (List.replicate 31 0x00 ++ [0x05])⟩ := rfl
    have hk : Algorithm.curve? .es256 = some .p256 := rfl
    obtain ⟨same, -⟩ := DerSignature.growth_visible hk ok (frames_of_read read).2
    have silent_iff := same.out 1 4
    exact ⟨ok, silent_iff.1 rfl⟩

end EcdsaCodec
