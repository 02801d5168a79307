import EcdsaCodec.Der.Grammar
import EcdsaCodec.Der.Writer

/-!
# EcdsaCodec.Proofs.Der.Content

INTEGER contents as the writer makes them. A number gets one zero in front where its top bit is set,
or where it has no octet at all, and stays as it is otherwise.

* `minimalContent_iff`: a content is minimal exactly if it is the one written for its own value.
* `contentLength_trim_le`: a number of `n` octets never needs more than `n + 1`.
* `contentLength_trim_le_of_nonNegative`: where `n` octets left the sign bit clear, it needs no more
  than `n`, or one for no octets at all.
-/

namespace EcdsaCodec
namespace Der

theorem content_nil : content [] = [0] := rfl

theorem content_of_signBit {b : UInt8} (h : signBit ≤ b) (bs : Octets) :
    content (b :: bs) = 0 :: b :: bs := by
  have extra : bs.length + 2 - (b :: bs).length = 1 := by
    rw [List.length_cons]; omega
  simp only [content, contentLength, Octets.padTo]
  rw [if_pos h, extra]
  rfl

theorem content_of_not_signBit {b : UInt8} (h : ¬ signBit ≤ b) (bs : Octets) :
    content (b :: bs) = b :: bs := by
  simp only [content, contentLength]
  rw [if_neg h]
  exact Octets.padTo_of_le (Nat.le_of_eq (List.length_cons).symm)

@[simp] theorem trim_content (magnitude : Octets) : (content magnitude).trim = magnitude.trim :=
  Octets.trim_padTo _ _

theorem ne_zero_of_signBit_le {b : UInt8} (h : signBit ≤ b) : b ≠ 0 := by
  rintro rfl
  exact absurd h (by decide)

theorem minimalContent_content_trim (bs : Octets) : MinimalContent (content bs.trim) := by
  rcases Octets.trim_eq_nil_or_cons bs with hm | ⟨b, m, hb, hm⟩
  · rw [hm, content_nil]
    decide
  · rw [hm]
    by_cases hs : signBit ≤ b
    · rw [content_of_signBit hs]
      exact ⟨by decide, fun _ => hs⟩
    · rw [content_of_not_signBit hs]
      have positive : b < signBit := UInt8.not_le.1 hs
      cases m with
      | nil => exact positive
      | cons b' m => exact ⟨positive, fun h => absurd h hb⟩

theorem content_trim_of_minimal {bs : Octets} (h : MinimalContent bs) : content bs.trim = bs := by
  match bs, h with
  | [b], positive =>
    by_cases hb : b = 0
    · subst hb; rfl
    · rw [Octets.trim_cons_of_ne hb]
      exact content_of_not_signBit (UInt8.not_le.2 positive) []
  | b :: b' :: tail, ⟨positive, padded⟩ =>
    by_cases hb : b = 0
    · subst hb
      have hs : signBit ≤ b' := padded rfl
      rw [Octets.trim_zero_cons, Octets.trim_cons_of_ne (ne_zero_of_signBit_le hs),
        content_of_signBit hs]
    · rw [Octets.trim_cons_of_ne hb]
      exact content_of_not_signBit (UInt8.not_le.2 positive) _

theorem MinimalContent.ne_nil {bs : Octets} (h : MinimalContent bs) : bs ≠ [] := by
  rintro rfl
  exact h

theorem MinimalContent.nonNegative {bs : Octets} (h : MinimalContent bs) :
    NonNegativeContent bs := by
  match bs, h with
  | [_], clear => exact clear
  | _ :: _ :: _, ⟨clear, _⟩ => exact clear

theorem minimalContent_iff {bs : Octets} : MinimalContent bs ↔ content bs.trim = bs := by
  constructor
  · exact content_trim_of_minimal
  · intro h
    rw [← h]
    exact minimalContent_content_trim bs

theorem contentLength_le (magnitude : Octets) :
    contentLength magnitude ≤ magnitude.length + 1 := by
  cases magnitude with
  | nil => exact Nat.le_refl 1
  | cons b bs =>
    simp only [contentLength, List.length_cons]
    split <;> omega

theorem contentLength_trim_le (bs : Octets) : contentLength bs.trim ≤ bs.length + 1 :=
  Nat.le_trans (contentLength_le _) (Nat.succ_le_succ (Octets.length_trim_le bs))

theorem contentLength_trim_le_of_nonNegative {bs : Octets} (h : NonNegativeContent bs) :
    contentLength bs.trim ≤ max 1 bs.length := by
  cases bs with
  | nil => exact Nat.le_refl 1
  | cons b bs =>
    by_cases hb : b = 0
    · subst hb
      have room := contentLength_trim_le bs
      rw [Octets.trim_zero_cons, List.length_cons]
      omega
    · have clear : ¬ signBit ≤ b := UInt8.not_le.2 h
      rw [Octets.trim_cons_of_ne hb, contentLength, if_neg clear, List.length_cons]
      exact Nat.le_max_right _ _

theorem contentLength_trim_le_length {bs : Octets} (nonempty : bs ≠ [])
    (h : NonNegativeContent bs) : contentLength bs.trim ≤ bs.length := by
  have pos := List.length_pos_iff.2 nonempty
  have room := contentLength_trim_le_of_nonNegative h
  omega

/-- Octets are the content for their own value if they are as many. -/
theorem content_trim_of_length_eq {bs : Octets} (h : contentLength bs.trim = bs.length) :
    content bs.trim = bs := by
  rw [content, h, Octets.padTo_trim (Nat.le_refl _), Octets.padTo_of_le (Nat.le_refl _)]

end Der
end EcdsaCodec
