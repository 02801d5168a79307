import EcdsaCodec.Proofs.Der.Frame
import EcdsaCodec.Transcoding

/-!
# EcdsaCodec.Proofs.Transcoding

What the two conversions answer, said with frames and numbers only. Every later result about a
conversion starts from one of these:

* `derOfConcat_eq_ok_iff`: the frame of the contents of both numbers.
* `concatOfDer_eq_ok_iff`: the numbers of the contents that were read, in halves of one width.
* `concatOfDer_cases`, `derOfConcat_cases`: the whole answer, a refusal or a result.
* `exists_reason`, `exists_read`: what cannot be read is refused for one reason, and what can be read is
  converted, whatever the output length.
* `numbers_join`, `join_numbers`: numbers survive being joined, and halves are their numbers joined.
-/

namespace EcdsaCodec
namespace Transcoding

open Der

/-- The numbers in both halves of a string, without leading zeros. -/
def numbers (concat : Octets) : Components := (Components.ofConcat concat).trim

/-! ## Halves -/

@[simp] theorem trim_numbers (concat : Octets) : (numbers concat).trim = numbers concat :=
  Components.trim_trim _

theorem numbers_join {width : Nat} {c : Components} (h : c.width ≤ width) :
    numbers (c.join width) = c.trim := by
  rw [numbers, Components.ofConcat_join h]
  simp [Components.trim]

theorem width_numbers_le {concat : Octets} (even : concat.length % 2 = 0) :
    (numbers concat).width ≤ concat.length / 2 := by
  have hr := Octets.length_trim_le (Components.ofConcat concat).r
  have hs := Octets.length_trim_le (Components.ofConcat concat).s
  rw [Components.length_ofConcat_r] at hr
  rw [Components.length_ofConcat_s] at hs
  exact Nat.max_le.2 ⟨hr, Nat.le_trans hs (by omega)⟩

theorem join_numbers {concat : Octets} (even : concat.length % 2 = 0) :
    (numbers concat).join (concat.length / 2) = concat := by
  have hr := Components.length_ofConcat_r concat
  have hs := Components.length_ofConcat_s concat
  have half : concat.length - concat.length / 2 = concat.length / 2 := by omega
  rw [half] at hs
  rw [Components.join, numbers, Components.trim_r, Components.trim_s,
    Octets.padTo_trim (Nat.le_of_eq hr), Octets.padTo_trim (Nat.le_of_eq hs),
    Octets.padTo_of_le (Nat.le_of_eq hr.symm), Octets.padTo_of_le (Nat.le_of_eq hs.symm)]
  exact Components.append_ofConcat concat

/-! ## To DER -/

theorem magnitudes_of_even {concat : Octets} (even : concat.length % 2 = 0) :
    magnitudes concat = .ok (numbers concat) := by
  simp [magnitudes, numbers, even]

theorem derOfConcat_eq_ok_iff {concat der : Octets} :
    (derOfConcat concat).result = .ok der ↔
      concat.length % 2 = 0 ∧ (body (contents (numbers concat))).length ≤ 255 ∧
        der = frame (contents (numbers concat)) := by
  rw [← write_eq_ok_iff]
  by_cases even : concat.length % 2 = 0
  · rw [derOfConcat, magnitudes_of_even even]
    cases hw : write (numbers concat) with
    | error fault => simp [refuseConcat, hw]
    | ok written => simp [even, hw]
  · rw [derOfConcat_of_odd even]
    simp [refuseConcat, even]

theorem derOfConcat_of_long {concat : Octets} (even : concat.length % 2 = 0)
    (long : 255 < (body (contents (numbers concat))).length) :
    derOfConcat concat = refuseConcat .contentTooLong := by
  have tooLong : longFormOneOctetMax < sequenceLength (numbers concat) := by
    rwa [length_body_contents] at long
  rw [derOfConcat, magnitudes_of_even even]
  simp only []
  rw [write, if_pos tooLong]

theorem derOfConcat_cases (concat : Octets) :
    (∃ fault, derOfConcat concat = refuseConcat fault) ∨
      ∃ der, derOfConcat concat = .silent (.ok der) := by
  unfold derOfConcat
  split
  · exact .inl ⟨_, rfl⟩
  · split
    · exact .inl ⟨_, rfl⟩
    · exact .inr ⟨_, rfl⟩

theorem isFormatError_of_derOfConcat {concat : Octets} {e : Error}
    (h : (derOfConcat concat).result = .error e) : e.isFormatError = true := by
  rcases derOfConcat_cases concat with ⟨fault, answer⟩ | ⟨der, answer⟩
  · rw [answer] at h
    cases h
    rfl
  · rw [answer] at h
    cases h

/-! ## From DER -/

theorem concatOfDer_eq_ok_iff {der concat : Octets} {outputLength : Nat} :
    (concatOfDer der outputLength).result = .ok concat ↔
      ∃ i, read der = .ok i ∧ concat = i.trim.join (max i.trim.width (outputLength / 2)) := by
  cases hr : read der with
  | error fault =>
    rw [concatOfDer_of_error hr]
    constructor
    · intro h; cases h
    · rintro ⟨i, h, -⟩; cases h
  | ok i =>
    rw [concatOfDer_of_ok hr]
    constructor
    · intro h; cases h; exact ⟨i, rfl, rfl⟩
    · rintro ⟨j, h, rfl⟩; cases h; rfl

theorem concatOfDer_cases (der : Octets) (outputLength : Nat) :
    (∃ fault, concatOfDer der outputLength = refuseDer fault) ∨
      ∃ i, read der = .ok i ∧ concatOfDer der outputLength = layOut (outputLength / 2) i.trim := by
  cases hr : read der with
  | error fault => exact .inl ⟨fault, concatOfDer_of_error hr outputLength⟩
  | ok i => exact .inr ⟨i, rfl, concatOfDer_of_ok hr outputLength⟩

theorem isFormatError_of_concatOfDer {der : Octets} {outputLength : Nat} {e : Error}
    (h : (concatOfDer der outputLength).result = .error e) : e.isFormatError = true := by
  rcases concatOfDer_cases der outputLength with ⟨fault, answer⟩ | ⟨i, -, answer⟩
  · rw [answer] at h
    cases h
    rfl
  · rw [answer] at h
    cases h

theorem exists_reason {der : Octets} (h : ∀ i, read der ≠ .ok i) :
    ∃ reason, ∀ outputLength,
      (concatOfDer der outputLength).result = .error (.invalidFormat "DER to concat" reason) := by
  cases hr : read der with
  | error fault =>
    refine ⟨fault.reason, fun outputLength => ?_⟩
    rw [concatOfDer_of_error hr]
    rfl
  | ok i => exact absurd hr (h i)

theorem exists_ok_iff {der : Octets} {outputLength : Nat} :
    (∃ concat, (concatOfDer der outputLength).result = .ok concat) ↔ ∃ i, read der = .ok i := by
  constructor
  · rintro ⟨concat, h⟩
    obtain ⟨i, hr, -⟩ := concatOfDer_eq_ok_iff.1 h
    exact ⟨i, hr⟩
  · rintro ⟨i, hr⟩
    exact ⟨_, concatOfDer_eq_ok_iff.2 ⟨i, hr, rfl⟩⟩

/-- What is converted at one output length can be read, and then it is converted at each. -/
theorem exists_read {der : Octets}
    (accepted : ∃ outputLength concat, (concatOfDer der outputLength).result = .ok concat) :
    ∃ i, read der = .ok i := by
  obtain ⟨outputLength, readable⟩ := accepted
  exact exists_ok_iff.1 readable

theorem read_of_accepted {der : Octets} {i : Components}
    (accepted : ∃ outputLength concat, (concatOfDer der outputLength).result = .ok concat)
    (frames : Frames i der) : read der = .ok i := by
  obtain ⟨j, hread⟩ := exists_read accepted
  obtain rfl := frames_unique frames (read_eq_ok_iff.1 hread).2
  exact hread

end Transcoding
end EcdsaCodec
