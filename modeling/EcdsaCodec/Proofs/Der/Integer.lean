import EcdsaCodec.Proofs.Octets.Digits
import EcdsaCodec.Proofs.Word.Transcoding

/-!
# EcdsaCodec.Proofs.Der.Integer

The content of an INTEGER as a number in two's complement.

* `ShortestContent v bs` — `bs` reads as `v`, and no fewer octets do.
* `shortestContent_iff`: the contents that the grammar calls minimal, by a look at two octets, are
  the shortest ones of the numbers without a sign.
* `appendInteger_shortest`: the INTEGER that is put behind a buffer has such a content, and the buffer
  stays as it is.
-/

namespace EcdsaCodec
namespace Der

open Octets

/-- The content of the shortest INTEGER for a number. No INTEGER has an empty content. -/
structure ShortestContent (v : Nat) (bs : Octets) : Prop where
  nonempty : bs ≠ []
  signedValue_eq : signedValue bs = v
  length_le : ∀ other, other ≠ [] → signedValue other = v → bs.length ≤ other.length

variable {v : Nat} {bs : Octets}

theorem signedValue_eq_natCast_iff :
    signedValue bs = v ↔ NonNegativeContent bs ∧ bs.value = v := by
  cases bs with
  | nil =>
    have clear : NonNegativeContent [] := trivial
    exact Nat.cast_inj.trans (and_iff_right clear).symm
  | cons b bs =>
    by_cases clear : b < 0x80
    · rw [signedValue_cons_of_lt clear, Nat.cast_inj]
      exact (and_iff_right clear).symm
    · have negative := signedValue_cons_lt_zero (UInt8.not_lt.1 clear) bs
      constructor
      · intro same
        omega
      · rintro ⟨nonNegative, -⟩
        exact absurd nonNegative clear

/-! ## Shortest contents -/

theorem shortest_of_minimal (h : MinimalContent bs) : ShortestContent bs.value bs where
  nonempty := h.ne_nil
  signedValue_eq := signedValue_eq_natCast_iff.2 ⟨h.nonNegative, rfl⟩
  length_le := by
    intro other nonempty same
    obtain ⟨nonNegative, values⟩ := signedValue_eq_natCast_iff.1 same
    have room := contentLength_trim_le_length nonempty nonNegative
    rwa [trim_eq_trim_iff.2 values, ← length_content, content_trim_of_minimal h] at room

theorem minimal_of_shortest (h : ShortestContent v bs) : MinimalContent bs := by
  obtain ⟨nonNegative, values⟩ := signedValue_eq_natCast_iff.1 h.signedValue_eq
  have written := shortest_of_minimal (minimalContent_content_trim bs)
  rw [value_content, value_trim, values] at written
  have shorter := h.length_le _ written.nonempty written.signedValue_eq
  rw [length_content] at shorter
  have room := contentLength_trim_le_length h.nonempty nonNegative
  exact minimalContent_iff.2 (content_trim_of_length_eq (Nat.le_antisymm room shorter))

theorem shortestContent_iff : ShortestContent v bs ↔ MinimalContent bs ∧ bs.value = v := by
  constructor
  · intro h
    exact ⟨minimal_of_shortest h, (signedValue_eq_natCast_iff.1 h.signedValue_eq).2⟩
  · rintro ⟨minimal, rfl⟩
    exact shortest_of_minimal minimal

/-! ## Writing -/

/-- **The INTEGER that is written for a number is its shortest.** The number loses its leading zeros
and nothing else; behind what is already written come a tag, a length octet that holds the whole
length, and the shortest content that reads as the number. In words of 64 bits it is the same, as
long as memory lasts. -/
theorem appendInteger_shortest (short : contentLength bs.trim ≤ 255) :
    (∀ m, m = bs.trim ↔ m <:+ bs ∧ m.value = bs.value ∧ m.head? ≠ some 0) ∧
    (bs.trim = [] ↔ bs.value = 0) ∧
    ∃ size octets, size.toNat = contentLength bs.trim ∧ octets.length = contentLength bs.trim ∧
      ShortestContent bs.value octets ∧
      (∀ written, appendInteger written bs.trim = written ++ [0x02, size] ++ octets) ∧
      Word.trim? bs = some bs.trim ∧ Word.contentLength? bs.trim = some octets.length ∧
      ∀ written, written.length < 2 ^ 63 →
        Word.appendInteger? written bs.trim octets.length =
          some (written ++ [0x02, size] ++ octets) := by
  have values : (content bs.trim).value = bs.value := by
    rw [value_content, value_trim]
  have magnitude : bs.trim.length + 1 < Word.limit := by
    have within := length_le_contentLength bs.trim
    rw [Word.limit]
    omega
  refine ⟨?_, trim_eq_nil_iff, _, content bs.trim, toNat_ofNat_of_le short, length_content _,
    shortestContent_iff.2 ⟨minimalContent_content_trim bs, values⟩,
    fun written => appendInteger_eq written bs.trim, Word.trim?_eq bs, ?_, ?_⟩
  · intro m
    constructor
    · rintro rfl
      exact ⟨trim_suffix bs, eq_trim_iff.1 rfl⟩
    · rintro ⟨-, h⟩
      exact eq_trim_iff.2 h
  · rw [length_content, Word.contentLength?_eq magnitude]
  · intro written memory
    have room : written.length + 512 < Word.limit := by
      rw [Word.limit]
      omega
    rw [length_content, Word.appendInteger?_eq (Nat.lt_succ_of_le short) room, appendInteger_eq]
    rfl

/-- A number with its top bit set, zero, and the longest one with its top bit set whose content length
is still an octet. -/
theorem appendInteger_shortest_up_to_the_limit :
    (appendInteger [0x30, 0x08] (trim [0x00, 0x00, 0xff, 0x23]) =
        [0x30, 0x08, 0x02, 0x03, 0x00, 0xff, 0x23] ∧
      ShortestContent 0xff23 [0x00, 0xff, 0x23]) ∧
    (appendInteger [] (trim [0x00, 0x00]) = [0x02, 0x01, 0x00] ∧ ShortestContent 0 [0x00]) ∧
    contentLength (trim (List.replicate 254 0xff)) = 255 ∧
    ShortestContent (value (List.replicate 254 0xff)) (0x00 :: List.replicate 254 0xff) := by
  have content_shortest {bs octets : Octets} {size : UInt8} (short : contentLength bs.trim ≤ 255)
      (written : appendInteger [] bs.trim = 0x02 :: size :: octets) :
      ShortestContent bs.value octets := by
    obtain ⟨-, -, _, _, -, -, shortest, shape, -⟩ := appendInteger_shortest short
    rw [shape] at written
    cases written
    exact shortest
  refine ⟨⟨by decide, ?_⟩, ⟨by decide, ?_⟩, by decide +kernel, ?_⟩
  · exact @content_shortest [0x00, 0x00, 0xff, 0x23] _ _ (by decide) rfl
  · exact @content_shortest [0x00, 0x00] _ _ (by decide) rfl
  · exact @content_shortest (List.replicate 254 0xff) _ 0xff (by decide +kernel) (by decide +kernel)

end Der
end EcdsaCodec
