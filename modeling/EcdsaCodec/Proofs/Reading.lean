import EcdsaCodec.Proofs.Octets.Digits
import EcdsaCodec.Proofs.Transcoding

/-!
# EcdsaCodec.Proofs.Reading

What is read from a signature depends on its two unsigned values and on nothing else about it.

* `concatOfDer_congr`: signatures of equal values get the same halves and the same diagnostics.
* `values_eq_of_same_halves`: halves tell the values apart, whatever widths they were asked for in.
* `concatOfDer_eq_iff`: so what framed the values is forgotten, and nothing besides.
-/

namespace EcdsaCodec
namespace Transcoding

open Der

section

variable {d d' concat : Octets} {i j : Components} {outputLength outputLength' : Nat}

theorem concatOfDer_congr (hi : read d = .ok i) (hj : read d' = .ok j)
    (values : i.values = j.values) (outputLength : Nat) :
    concatOfDer d outputLength = concatOfDer d' outputLength := by
  rw [concatOfDer_of_ok hi, concatOfDer_of_ok hj, Components.trim_eq_trim_iff.2 values]

theorem exists_halves (hi : read d = .ok i) (outputLength : Nat) :
    ∃ concat, (concatOfDer d outputLength).result = .ok concat ∧ numbers concat = i.trim := by
  refine ⟨_, concatOfDer_eq_ok_iff.2 ⟨i, hi, rfl⟩, ?_⟩
  rw [numbers_join (Nat.le_max_left _ _), Components.trim_trim]

theorem values_eq_of_same_halves (hi : read d = .ok i) (hj : read d' = .ok j)
    (same : (concatOfDer d outputLength).result = (concatOfDer d' outputLength').result) :
    i.values = j.values := by
  obtain ⟨concat, h, numbers_i⟩ := exists_halves hi outputLength
  obtain ⟨concat', h', numbers_j⟩ := exists_halves hj outputLength'
  rw [h, h'] at same
  injection same with same
  rw [← Components.trim_eq_trim_iff, ← numbers_i, ← numbers_j, same]

theorem values_padded (zerosR zerosS : Nat) (c : Components) :
    Components.values ⟨List.replicate zerosR 0 ++ c.r, List.replicate zerosS 0 ++ c.s⟩ =
      c.values := by
  simp [Components.values]

/-- **Reading forgets the framing and nothing else.** Two readable signatures are answered alike
exactly if their values agree. Zeros in front of a content, so also a sign octet or a zero with no
octet, and the outer form make no difference. -/
theorem concatOfDer_eq_iff
    (accepted : ∃ outputLength concat, (concatOfDer d outputLength).result = .ok concat)
    (accepted' : ∃ outputLength concat, (concatOfDer d' outputLength).result = .ok concat)
    (frames : Frames i d) (frames' : Frames j d') :
    (∀ outputLength,
      ((concatOfDer d outputLength).result = (concatOfDer d' outputLength).result ↔
        i.r.value = j.r.value ∧ i.s.value = j.s.value)) ∧
    (∀ outputLength outputLength',
      (concatOfDer d outputLength).result = (concatOfDer d' outputLength').result →
        i.r.value = j.r.value ∧ i.s.value = j.s.value) ∧
    (∀ zerosR zerosS, i = ⟨List.replicate zerosR 0 ++ j.r, List.replicate zerosS 0 ++ j.s⟩ →
      ∀ outputLength, concatOfDer d outputLength = concatOfDer d' outputLength) := by
  have hi := read_of_accepted accepted frames
  have hj := read_of_accepted accepted' frames'
  rw [← Prod.mk.injEq]
  refine ⟨?_, ?_, ?_⟩
  · intro outputLength
    constructor
    · exact values_eq_of_same_halves hi hj
    · intro values
      rw [concatOfDer_congr hi hj values]
  · intro outputLength outputLength' same
    exact values_eq_of_same_halves hi hj same
  · intro zerosR zerosS padded outputLength
    refine concatOfDer_congr hi hj ?_ outputLength
    rw [padded, values_padded]

end

/-- A padded R and an empty S under a long outer form, against the canonical signature of the same
values, and against another S. -/
theorem concatOfDer_eq_iff_padded :
    (∀ outputLength,
      (concatOfDer [0x30, 0x81, 0x08, 0x02, 0x04, 0x00, 0x00, 0x01, 0x80, 0x02, 0x00]
          outputLength).result =
        (concatOfDer [0x30, 0x07, 0x02, 0x02, 0x01, 0x80, 0x02, 0x01, 0x00]
          outputLength).result) ∧
    ∀ outputLength outputLength',
      (concatOfDer [0x30, 0x81, 0x08, 0x02, 0x04, 0x00, 0x00, 0x01, 0x80, 0x02, 0x00]
          outputLength).result ≠
        (concatOfDer [0x30, 0x07, 0x02, 0x02, 0x01, 0x80, 0x02, 0x01, 0x01]
          outputLength').result := by
  have padded : read [0x30, 0x81, 0x08, 0x02, 0x04, 0x00, 0x00, 0x01, 0x80, 0x02, 0x00] =
      .ok ⟨[0x00, 0x00, 0x01, 0x80], []⟩ := rfl
  have canonical : read [0x30, 0x07, 0x02, 0x02, 0x01, 0x80, 0x02, 0x01, 0x00] =
      .ok ⟨[0x01, 0x80], [0x00]⟩ := rfl
  have other : read [0x30, 0x07, 0x02, 0x02, 0x01, 0x80, 0x02, 0x01, 0x01] =
      .ok ⟨[0x01, 0x80], [0x01]⟩ := rfl
  constructor
  · intro outputLength
    have same := concatOfDer_eq_iff ⟨0, _, rfl⟩ ⟨0, _, rfl⟩ (frames_of_read padded).2
      (frames_of_read canonical).2
    exact (same.1 outputLength).2 ⟨rfl, rfl⟩
  · intro outputLength outputLength' shared
    have apart := concatOfDer_eq_iff ⟨0, _, rfl⟩ ⟨0, _, rfl⟩ (frames_of_read padded).2
      (frames_of_read other).2
    have values := apart.2.1 outputLength outputLength' shared
    exact absurd values.2 (by decide)

end Transcoding
end EcdsaCodec
