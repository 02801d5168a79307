import EcdsaCodec.Proofs.Transcoding

/-!
# EcdsaCodec.Proofs.RoundTrip

From two halves to DER and back. Writing never looks at the lengths of the INTEGERs one by one, so a
number that needs more than 127 content octets is written all the same, under a length octet that
reading refuses. `concatOfDer_derOfConcat` says that this is the only thing that can go wrong, and
`fitsShortForm_of_length_le` that halves of up to 126 octets are safe.
-/

namespace EcdsaCodec
namespace Transcoding

open Der

theorem fitsShortForm_of_length_le {concat : Octets} (h : concat.length ≤ 252)
    (even : concat.length % 2 = 0) : FitsShortForm (numbers concat) := by
  have hr := contentLength_trim_le (Components.ofConcat concat).r
  have hs := contentLength_trim_le (Components.ofConcat concat).s
  rw [Components.length_ofConcat_r] at hr
  rw [Components.length_ofConcat_s] at hs
  constructor
  · exact Nat.le_trans hr (by omega)
  · exact Nat.le_trans hs (by omega)

theorem read_of_derOfConcat {concat der : Octets} (h : (derOfConcat concat).result = .ok der)
    {i : Components} :
    read der = .ok i ↔ FitsShortForm (numbers concat) ∧ i = contents (numbers concat) := by
  obtain ⟨-, hb, rfl⟩ := derOfConcat_eq_ok_iff.1 h
  exact read_frame_eq_ok_iff hb

theorem concatOfDer_of_fits {concat der : Octets} (h : (derOfConcat concat).result = .ok der)
    (fits : FitsShortForm (numbers concat)) (outputLength : Nat) :
    (concatOfDer der outputLength).result =
      .ok ((numbers concat).join (max (numbers concat).width (outputLength / 2))) := by
  have hread := (read_of_derOfConcat h).2 ⟨fits, rfl⟩
  rw [concatOfDer_eq_ok_iff]
  refine ⟨_, hread, ?_⟩
  rw [trim_contents, trim_numbers]

theorem concatOfDer_own_length {concat der : Octets} (h : (derOfConcat concat).result = .ok der)
    (fits : FitsShortForm (numbers concat)) :
    (concatOfDer der concat.length).result = .ok concat := by
  obtain ⟨even, -, -⟩ := derOfConcat_eq_ok_iff.1 h
  rw [concatOfDer_of_fits h fits, Nat.max_eq_right (width_numbers_le even), join_numbers even]

/-- **Halves survive the way to DER and back** exactly if neither number needs more than 127 content
octets. They come back without the zeros in front that the output length does not ask for, so the
length of the string itself brings back the string itself. -/
theorem concatOfDer_derOfConcat {concat der : Octets}
    (h : (derOfConcat concat).result = .ok der) :
    (contentLength (numbers concat).r ≤ 127 ∧ contentLength (numbers concat).s ≤ 127 →
      (∀ outputLength, ∃ back, (concatOfDer der outputLength).result = .ok back ∧
        Components.ofConcat back =
          ⟨(numbers concat).r.padTo (max (numbers concat).width (outputLength / 2)),
            (numbers concat).s.padTo (max (numbers concat).width (outputLength / 2))⟩) ∧
      (concatOfDer der concat.length).result = .ok concat) ∧
    (128 ≤ contentLength (numbers concat).r ∨ 128 ≤ contentLength (numbers concat).s →
      ∃ reason, ∀ outputLength,
        (concatOfDer der outputLength).result = .error (.invalidFormat "DER to concat" reason)) ∧
    (concat.length ≤ 252 →
      contentLength (numbers concat).r ≤ 127 ∧ contentLength (numbers concat).s ≤ 127) := by
  obtain ⟨even, -, -⟩ := derOfConcat_eq_ok_iff.1 h
  refine ⟨?_, ?_, fun hl => fitsShortForm_of_length_le hl even⟩
  · intro fits
    have answer := concatOfDer_of_fits h fits
    refine ⟨fun outputLength => ⟨_, answer outputLength, ?_⟩, concatOfDer_own_length h fits⟩
    exact Components.ofConcat_join (Nat.le_max_left _ _)
  · intro wide
    refine exists_reason fun i hi => ?_
    obtain ⟨⟨hr, hs⟩, -⟩ := (read_of_derOfConcat h).1 hi
    omega

/-- Both sides of the condition: two octets a half, and a first half that fills 128 octets. -/
theorem concatOfDer_derOfConcat_narrow_and_wide :
    ((derOfConcat [0x00, 0x80, 0xff, 0x00]).result =
        .ok [0x30, 0x09, 0x02, 0x02, 0x00, 0x80, 0x02, 0x03, 0x00, 0xff, 0x00] ∧
      (∀ outputLength, ∃ back,
        (concatOfDer [0x30, 0x09, 0x02, 0x02, 0x00, 0x80, 0x02, 0x03, 0x00, 0xff, 0x00]
          outputLength).result = .ok back ∧
        Components.ofConcat back =
          ⟨Octets.padTo (max 2 (outputLength / 2)) [0x80],
            Octets.padTo (max 2 (outputLength / 2)) [0xff, 0x00]⟩) ∧
      (concatOfDer [0x30, 0x09, 0x02, 0x02, 0x00, 0x80, 0x02, 0x03, 0x00, 0xff, 0x00] 4).result =
        .ok [0x00, 0x80, 0xff, 0x00]) ∧
    ((derOfConcat (List.replicate 128 1 ++ List.replicate 128 0)).result =
        .ok ([0x30, 0x81, 0x85, 0x02, 0x80] ++ List.replicate 128 1 ++ [0x02, 0x01, 0x00]) ∧
      ∃ reason, ∀ outputLength,
        (concatOfDer ([0x30, 0x81, 0x85, 0x02, 0x80] ++ List.replicate 128 1 ++ [0x02, 0x01, 0x00])
          outputLength).result = .error (.invalidFormat "DER to concat" reason)) := by
  constructor
  · have written : (derOfConcat [0x00, 0x80, 0xff, 0x00]).result =
        .ok [0x30, 0x09, 0x02, 0x02, 0x00, 0x80, 0x02, 0x03, 0x00, 0xff, 0x00] := rfl
    obtain ⟨readable, -, narrow⟩ := concatOfDer_derOfConcat written
    exact ⟨written, readable (narrow (by decide))⟩
  · have written : (derOfConcat (List.replicate 128 1 ++ List.replicate 128 0)).result =
        .ok ([0x30, 0x81, 0x85, 0x02, 0x80] ++ List.replicate 128 1 ++ [0x02, 0x01, 0x00]) :=
      derOfConcat_eq_ok_iff.2 ⟨by decide +kernel, by decide +kernel, by decide +kernel⟩
    obtain ⟨-, unreadable, -⟩ := concatOfDer_derOfConcat written
    exact ⟨written, unreadable (.inl (by decide +kernel))⟩

end Transcoding
end EcdsaCodec
