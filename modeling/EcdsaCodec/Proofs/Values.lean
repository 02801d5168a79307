import EcdsaCodec.Proofs.Octets.Digits
import EcdsaCodec.Proofs.Transcoding

/-!
# EcdsaCodec.Proofs.Values

What is written for two halves depends on their unsigned values and on nothing else about them.

* `derOfConcat_congr`: halves of equal values get the same answer and the same diagnostics.
* `derOfConcat_zeros`: so zeros in front of both halves change nothing.
* `derOfConcat_eq_iff`: different values never share a signature, not even where an INTEGER is too
  long to be read back.
-/

namespace EcdsaCodec
namespace Transcoding

open Der

theorem derOfConcat_congr {c c' : Octets} (parity : c.length % 2 = c'.length % 2)
    (values : (Components.ofConcat c).values = (Components.ofConcat c').values) :
    derOfConcat c = derOfConcat c' := by
  have same : magnitudes c = magnitudes c' := by
    rw [magnitudes, magnitudes, parity, Components.trim_eq_trim_iff.2 values]
  rw [derOfConcat, derOfConcat, same]

theorem derOfConcat_zeros (c : Octets) (count : Nat) :
    derOfConcat (List.replicate count 0 ++ (Components.ofConcat c).r ++
      (List.replicate count 0 ++ (Components.ofConcat c).s)) = derOfConcat c := by
  have hr := Components.length_ofConcat_r c
  have hs := Components.length_ofConcat_s c
  have half : (List.replicate count 0 ++ (Components.ofConcat c).r ++
      (List.replicate count 0 ++ (Components.ofConcat c).s)).length / 2 =
        (List.replicate count 0 ++ (Components.ofConcat c).r).length := by
    simp only [List.length_append, List.length_replicate]
    omega
  apply derOfConcat_congr
  · simp only [List.length_append, List.length_replicate]
    omega
  · rw [Components.ofConcat_append half]
    simp only [Components.values, Octets.value_replicate_zero_append]

theorem numbers_eq_iff {c c' : Octets} :
    numbers c = numbers c' ↔
      (Components.ofConcat c).values = (Components.ofConcat c').values :=
  Components.trim_eq_trim_iff

theorem contents_numbers_injective {c c' : Octets}
    (h : contents (numbers c) = contents (numbers c')) : numbers c = numbers c' := by
  have trimmed := congrArg Components.trim h
  rwa [trim_contents, trim_contents, trim_numbers, trim_numbers] at trimmed

/-- **Two strings of halves share a signature exactly if they stand for the same two numbers.** -/
theorem derOfConcat_eq_iff {c c' der der' : Octets} (h : (derOfConcat c).result = .ok der)
    (h' : (derOfConcat c').result = .ok der') :
    (der = der' ↔
      (Components.ofConcat c).r.value = (Components.ofConcat c').r.value ∧
        (Components.ofConcat c).s.value = (Components.ofConcat c').s.value) ∧
      ∀ count, (derOfConcat (List.replicate count 0 ++ (Components.ofConcat c).r ++
        (List.replicate count 0 ++ (Components.ofConcat c).s))).result = .ok der := by
  obtain ⟨-, hb, rfl⟩ := derOfConcat_eq_ok_iff.1 h
  obtain ⟨-, hb', rfl⟩ := derOfConcat_eq_ok_iff.1 h'
  refine ⟨?_, ?_⟩
  · rw [← Prod.mk.injEq]
    constructor
    · intro same
      exact numbers_eq_iff.1 (contents_numbers_injective (frame_injective hb hb' same))
    · intro values
      rw [numbers_eq_iff.2 values]
  · intro count
    rw [derOfConcat_zeros]
    exact h

/-- Two strings that differ in the last octet only, both with an R of 128 octets. -/
theorem derOfConcat_eq_iff_wide_halves :
    (derOfConcat (List.replicate 128 1 ++ List.replicate 128 0)).result =
        .ok ([0x30, 0x81, 0x85, 0x02, 0x80] ++ List.replicate 128 1 ++ [0x02, 0x01, 0x00]) ∧
      (derOfConcat (List.replicate 128 1 ++ (List.replicate 127 0 ++ [1]))).result =
        .ok ([0x30, 0x81, 0x85, 0x02, 0x80] ++ List.replicate 128 1 ++ [0x02, 0x01, 0x01]) ∧
      [0x30, 0x81, 0x85, 0x02, 0x80] ++ List.replicate 128 1 ++ [0x02, 0x01, 0x00] ≠
        [0x30, 0x81, 0x85, 0x02, 0x80] ++ List.replicate 128 1 ++ [0x02, 0x01, (0x01 : UInt8)] ∧
      ∀ count, (derOfConcat (List.replicate count 0 ++ List.replicate 128 1 ++
        (List.replicate count 0 ++ List.replicate 128 0))).result =
          .ok ([0x30, 0x81, 0x85, 0x02, 0x80] ++ List.replicate 128 1 ++ [0x02, 0x01, 0x00]) := by
  have zero : (derOfConcat (List.replicate 128 1 ++ List.replicate 128 0)).result =
      .ok ([0x30, 0x81, 0x85, 0x02, 0x80] ++ List.replicate 128 1 ++ [0x02, 0x01, 0x00]) :=
    derOfConcat_eq_ok_iff.2 ⟨by decide +kernel, by decide +kernel, by decide +kernel⟩
  have one : (derOfConcat (List.replicate 128 1 ++ (List.replicate 127 0 ++ [1]))).result =
      .ok ([0x30, 0x81, 0x85, 0x02, 0x80] ++ List.replicate 128 1 ++ [0x02, 0x01, 0x01]) :=
    derOfConcat_eq_ok_iff.2 ⟨by decide +kernel, by decide +kernel, by decide +kernel⟩
  have halves : Components.ofConcat (List.replicate 128 1 ++ List.replicate 128 0) =
      ⟨List.replicate 128 1, List.replicate 128 0⟩ :=
    Components.ofConcat_append (by decide +kernel)
  have halves' : Components.ofConcat (List.replicate 128 1 ++ (List.replicate 127 0 ++ [1])) =
      ⟨List.replicate 128 1, List.replicate 127 0 ++ [1]⟩ :=
    Components.ofConcat_append (by decide +kernel)
  obtain ⟨same, padded⟩ := derOfConcat_eq_iff zero one
  rw [halves, halves'] at same
  rw [halves] at padded
  refine ⟨zero, one, ?_, padded⟩
  intro shared
  exact absurd (same.1 shared).2 (by decide +kernel)

end Transcoding
end EcdsaCodec
