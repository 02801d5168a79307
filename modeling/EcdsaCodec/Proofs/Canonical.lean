import EcdsaCodec.Proofs.RoundTrip

/-!
# EcdsaCodec.Proofs.Canonical

Canonical signatures, as what is written and as what survives being read and written.

* `canonical_derOfConcat_iff`: the outer form and both contents of a written signature are always
  minimal. The signature is canonical, and can be read, exactly if neither content is longer than
  127 octets. `wide_half_not_canonical` shows a written signature that is neither.
* `derOfConcat_concatOfDer_iff`: reading and writing gives back the same octets exactly for the
  canonical signatures, whatever zeros the output length puts in between.
-/

namespace EcdsaCodec
namespace Transcoding

open Der

/-! ## Written signatures -/

theorem canonical_iff_fits {concat der : Octets} (h : (derOfConcat concat).result = .ok der) :
    Canonical der ↔ FitsShortForm (numbers concat) := by
  obtain ⟨-, hb, rfl⟩ := derOfConcat_eq_ok_iff.1 h
  constructor
  · rintro ⟨i, -, -, frames, -⟩
    exact (fitsShortForm_of_frames hb frames).1
  · exact canonical_frame hb

theorem readable_iff_fits {concat der : Octets} (h : (derOfConcat concat).result = .ok der)
    (outputLength : Nat) :
    (∃ back, (concatOfDer der outputLength).result = .ok back) ↔
      FitsShortForm (numbers concat) := by
  rw [exists_ok_iff]
  constructor
  · rintro ⟨i, hi⟩
    exact ((read_of_derOfConcat h).1 hi).1
  · intro fits
    exact ⟨_, (read_of_derOfConcat h).2 ⟨fits, rfl⟩⟩

/-- **When a written signature is canonical DER.** Its header is always the shortest one and both
contents are always minimal, but it is DER, and can be read back, only if both contents have at most
127 octets. -/
theorem canonical_derOfConcat_iff {concat der : Octets}
    (h : (derOfConcat concat).result = .ok der) :
    (∃ i, MinimalContent i.r ∧ MinimalContent i.s ∧ (body i).length ≤ 255 ∧
        der = header (body i).length ++ body i) ∧
      (Canonical der ↔ FitsShortForm (numbers concat)) ∧
      ∀ outputLength, (∃ back, (concatOfDer der outputLength).result = .ok back) ↔
        FitsShortForm (numbers concat) := by
  refine ⟨?_, canonical_iff_fits h, readable_iff_fits h⟩
  obtain ⟨-, hb, rfl⟩ := derOfConcat_eq_ok_iff.1 h
  exact ⟨contents (numbers concat), minimalContent_content_trim _, minimalContent_content_trim _,
    hb, rfl⟩

/-- Two halves of 66 octets with their top bits set need both sign octets and the long outer form. -/
theorem canonical_derOfConcat_iff_full_halves :
    (derOfConcat (List.replicate 66 0xff ++ List.replicate 66 0x80)).result =
        .ok ([0x30, 0x81, 0x8a, 0x02, 0x43, 0x00] ++ List.replicate 66 0xff ++
          [0x02, 0x43, 0x00] ++ List.replicate 66 0x80) ∧
      Canonical ([0x30, 0x81, 0x8a, 0x02, 0x43, 0x00] ++ List.replicate 66 0xff ++
        [0x02, 0x43, 0x00] ++ List.replicate 66 0x80) ∧
      ∀ outputLength, ∃ back,
        (concatOfDer ([0x30, 0x81, 0x8a, 0x02, 0x43, 0x00] ++ List.replicate 66 0xff ++
          [0x02, 0x43, 0x00] ++ List.replicate 66 0x80) outputLength).result = .ok back := by
  have written : (derOfConcat (List.replicate 66 0xff ++ List.replicate 66 0x80)).result =
      .ok ([0x30, 0x81, 0x8a, 0x02, 0x43, 0x00] ++ List.replicate 66 0xff ++
        [0x02, 0x43, 0x00] ++ List.replicate 66 0x80) :=
    derOfConcat_eq_ok_iff.2 ⟨by decide +kernel, by decide +kernel, by decide +kernel⟩
  have fits : FitsShortForm (numbers (List.replicate 66 0xff ++ List.replicate 66 0x80)) := by
    decide +kernel
  obtain ⟨-, canonical, readable⟩ := canonical_derOfConcat_iff written
  exact ⟨written, canonical.2 fits, fun outputLength => (readable outputLength).2 fits⟩

/-- A half of 128 octets is written under the length octet 0x80. -/
theorem wide_half_not_canonical :
    (derOfConcat (List.replicate 128 1 ++ List.replicate 128 0)).result =
        .ok ([0x30, 0x81, 0x85, 0x02, 0x80] ++ List.replicate 128 1 ++ [0x02, 0x01, 0x00]) ∧
      ¬ Canonical ([0x30, 0x81, 0x85, 0x02, 0x80] ++ List.replicate 128 1 ++ [0x02, 0x01, 0x00]) ∧
      ∀ outputLength, ¬ ∃ back,
        (concatOfDer ([0x30, 0x81, 0x85, 0x02, 0x80] ++ List.replicate 128 1 ++ [0x02, 0x01, 0x00])
          outputLength).result = .ok back := by
  have written : (derOfConcat (List.replicate 128 1 ++ List.replicate 128 0)).result =
      .ok ([0x30, 0x81, 0x85, 0x02, 0x80] ++ List.replicate 128 1 ++ [0x02, 0x01, 0x00]) :=
    derOfConcat_eq_ok_iff.2 ⟨by decide +kernel, by decide +kernel, by decide +kernel⟩
  have wide : ¬ FitsShortForm (numbers (List.replicate 128 1 ++ List.replicate 128 0)) := by
    decide +kernel
  refine ⟨written, ?_, fun outputLength => ?_⟩
  · exact fun canonical => wide ((canonical_iff_fits written).1 canonical)
  · exact fun readable => wide ((readable_iff_fits written outputLength).1 readable)

/-! ## Reading and writing again -/

/-- Zeros in front of a number, however many, leave no trace in what is written for it. -/
theorem derOfConcat_join_eq_ok_iff {c : Components} {width : Nat} {der : Octets}
    (h : c.width ≤ width) :
    (derOfConcat (c.join width)).result = .ok der ↔
      (body (contents c.trim)).length ≤ 255 ∧ der = frame (contents c.trim) := by
  rw [derOfConcat_eq_ok_iff, numbers_join h]
  exact and_iff_right (Components.length_join_mod_two h)

/-- **Reading and writing again changes exactly what is not canonical.** -/
theorem derOfConcat_concatOfDer_iff {der concat : Octets} {outputLength : Nat}
    (h : (concatOfDer der outputLength).result = .ok concat) :
    (derOfConcat concat).result = .ok der ↔ Canonical der := by
  obtain ⟨i, hread, rfl⟩ := concatOfDer_eq_ok_iff.1 h
  obtain ⟨-, frames⟩ := read_eq_ok_iff.1 hread
  rw [derOfConcat_join_eq_ok_iff (Nat.le_max_left _ _), Components.trim_trim,
    canonical_iff_of_frames frames]
  constructor
  · intro written
    obtain ⟨hb, written⟩ := written
    rw [written] at hread
    have same := ((read_frame_eq_ok_iff hb).1 hread).2
    exact ⟨same.symm, by rw [written, ← same]⟩
  · intro canonical
    obtain ⟨same, hd⟩ := canonical
    rw [same]
    exact ⟨length_body_le_of_frames frames, hd⟩

/-- One signature that comes back, and one that does not: R is padded, S is empty and the outer form
is longer than it has to be. -/
theorem derOfConcat_concatOfDer_iff_both_ways :
    ((concatOfDer [0x30, 0x07, 0x02, 0x01, 0x05, 0x02, 0x02, 0x00, 0x80] 6).result =
        .ok [0x00, 0x00, 0x05, 0x00, 0x00, 0x80] ∧
      Canonical [0x30, 0x07, 0x02, 0x01, 0x05, 0x02, 0x02, 0x00, 0x80]) ∧
    ((concatOfDer [0x30, 0x81, 0x06, 0x02, 0x02, 0x00, 0x05, 0x02, 0x00] 6).result =
        .ok [0x00, 0x00, 0x05, 0x00, 0x00, 0x00] ∧
      ¬ Canonical [0x30, 0x81, 0x06, 0x02, 0x02, 0x00, 0x05, 0x02, 0x00]) := by
  constructor
  · have read : (concatOfDer [0x30, 0x07, 0x02, 0x01, 0x05, 0x02, 0x02, 0x00, 0x80] 6).result =
        .ok [0x00, 0x00, 0x05, 0x00, 0x00, 0x80] := rfl
    exact ⟨read, (derOfConcat_concatOfDer_iff read).1 rfl⟩
  · have read : (concatOfDer [0x30, 0x81, 0x06, 0x02, 0x02, 0x00, 0x05, 0x02, 0x00] 6).result =
        .ok [0x00, 0x00, 0x05, 0x00, 0x00, 0x00] := rfl
    refine ⟨read, fun canonical => ?_⟩
    have written := (derOfConcat_concatOfDer_iff read).2 canonical
    have other : (derOfConcat [0x00, 0x00, 0x05, 0x00, 0x00, 0x00]).result =
        .ok [0x30, 0x06, 0x02, 0x01, 0x05, 0x02, 0x01, 0x00] := rfl
    rw [other] at written
    injection written with written
    exact absurd written (by decide)

end Transcoding
end EcdsaCodec
