import EcdsaCodec.Proofs.Octets.Digits
import EcdsaCodec.Proofs.Transcoding

/-!
# EcdsaCodec.Proofs.Halves

The halves that are read from a signature, as numbers of a width.

* `value_halves`: joined numbers have their own values in both halves.
* `concatOfDer_values`: so the values of a signature come out as they are, in halves of the least width
  that is not below the one asked for.
-/

namespace EcdsaCodec

namespace Components

theorem value_halves {width : Nat} {c : Components} (h : c.width ≤ width) :
    Octets.value ((c.join width).take width) = c.r.value ∧
      Octets.value ((c.join width).drop width) = c.s.value := by
  rw [take_join h, drop_join h, Octets.value_padTo, Octets.value_padTo]
  exact ⟨rfl, rfl⟩

end Components

namespace Transcoding

open Der Octets

theorem twice_max_half_eq_iff {outputLength width : Nat} :
    2 * max width (outputLength / 2) = outputLength ↔
      outputLength % 2 = 0 ∧ width ≤ outputLength / 2 := by
  omega

/-- **Reading keeps both values.** The halves are as wide as was asked for, or as wide as the larger
value needs, and hold the values of the two INTEGERs taken as unsigned numbers. -/
theorem concatOfDer_values {der : Octets}
    (accepted : ∃ outputLength concat, (concatOfDer der outputLength).result = .ok concat) :
    ∃ i a b, (∀ j, Frames j der ↔ j = i) ∧
      IsLeast {width | i.r.value < 256 ^ width} a ∧ IsLeast {width | i.s.value < 256 ^ width} b ∧
      ∀ outputLength, ∃ concat width, (concatOfDer der outputLength).result = .ok concat ∧
        width = max (outputLength / 2) (max a b) ∧
        concat.length = 2 * width ∧
        value (concat.take width) = i.r.value ∧ value (concat.drop width) = i.s.value ∧
        (concat.length = outputLength ↔ outputLength % 2 = 0 ∧
          i.r.value < 256 ^ (outputLength / 2) ∧ i.s.value < 256 ^ (outputLength / 2)) := by
  obtain ⟨i, hread⟩ := exists_read accepted
  have frames := (frames_of_read hread).2
  have only (j : Components) : Frames j der ↔ j = i :=
    ⟨fun other => frames_unique other frames, fun same => same ▸ frames⟩
  refine ⟨i, octetCount i.r.value, octetCount i.s.value, only, isLeast_octetCount _,
    isLeast_octetCount _, fun outputLength => ?_⟩
  have wide : i.trim.width ≤ max i.trim.width (outputLength / 2) := Nat.le_max_left _ _
  have length := Components.length_join wide
  obtain ⟨r, s⟩ := Components.value_halves wide
  refine ⟨_, _, concatOfDer_eq_ok_iff.2 ⟨i, hread, rfl⟩, ?_, length, ?_, ?_, ?_⟩
  · rw [Nat.max_comm, Components.width_trim]
  · rw [r, Components.trim_r, value_trim]
  · rw [s, Components.trim_s, value_trim]
  · rw [length, twice_max_half_eq_iff, Components.width_trim_le_iff]

/-- A padded R with its top bit set, beside an S of no octets: one octet a half, or as many as asked
for. -/
theorem concatOfDer_values_padded_and_empty :
    (concatOfDer [0x30, 0x81, 0x07, 0x02, 0x03, 0x00, 0x00, 0x80, 0x02, 0x00] 1).result =
        .ok [0x80, 0x00] ∧
      ∀ outputLength, ∃ concat,
        (concatOfDer [0x30, 0x81, 0x07, 0x02, 0x03, 0x00, 0x00, 0x80, 0x02, 0x00]
          outputLength).result = .ok concat ∧
        concat.length = 2 * max (outputLength / 2) 1 ∧
        value (concat.take (max (outputLength / 2) 1)) = 128 ∧
        value (concat.drop (max (outputLength / 2) 1)) = 0 := by
  have hread : read [0x30, 0x81, 0x07, 0x02, 0x03, 0x00, 0x00, 0x80, 0x02, 0x00] =
      .ok ⟨[0x00, 0x00, 0x80], []⟩ := rfl
  have shortest : (concatOfDer [0x30, 0x81, 0x07, 0x02, 0x03, 0x00, 0x00, 0x80, 0x02, 0x00]
      1).result = .ok [0x80, 0x00] := rfl
  refine ⟨shortest, fun outputLength => ?_⟩
  obtain ⟨i, a, b, only, leastR, leastS, halves⟩ := concatOfDer_values ⟨1, _, shortest⟩
  obtain rfl := (only _).1 (frames_of_read hread).2
  obtain rfl : a = 1 := leastR.unique (isLeast_octetCount 128)
  obtain rfl : b = 0 := leastS.unique (isLeast_octetCount 0)
  obtain ⟨concat, width, ok, rfl, length, r, s, -⟩ := halves outputLength
  exact ⟨concat, ok, length, r, s⟩

end Transcoding
end EcdsaCodec
