import EcdsaCodec.Proofs.Octets.Digits
import EcdsaCodec.Proofs.Values

/-!
# EcdsaCodec.Proofs.Writing

The signature of two numbers by arithmetic alone, without a look at octets or at leading zeros.

* `Der.integerWidth`       — the content octets of the INTEGER for a number, from the count of its bits.
* `Der.signatureOfNumbers` — the header and both INTEGERs, each number in so many big-endian octets.

`frame_contents_trim` says that the contents written for two strings are those of their values, and
`derOfConcat_of_values` what this makes of the conversion: when it succeeds, what it writes, and why
it refuses otherwise.
-/

namespace EcdsaCodec

namespace Der

open Octets

/-- The content octets of the INTEGER for a number: all its bits, and a clear one for the sign. -/
def integerWidth (v : Nat) : Nat := v.size / 8 + 1

/-- The content octets of the SEQUENCE of two INTEGERs. -/
def sequenceWidth (r s : Nat) : Nat := 4 + integerWidth r + integerWidth s

def integerOfNumber (v : Nat) : Octets :=
  [0x02, UInt8.ofNat (integerWidth v)] ++ Octets.ofNat (integerWidth v) v

def signatureOfNumbers (r s : Nat) : Octets :=
  (if sequenceWidth r s ≤ 127 then [0x30, UInt8.ofNat (sequenceWidth r s)]
    else [0x30, 0x81, UInt8.ofNat (sequenceWidth r s)]) ++
    integerOfNumber r ++ integerOfNumber s

/-! ## Widths -/

theorem integerWidth_le_iff {v n : Nat} : integerWidth v ≤ n + 1 ↔ v < 128 * 256 ^ n := by
  have bits : 128 * 256 ^ n = 2 ^ (8 * n + 7) := by
    rw [pow_add, pow_mul]
    ring
  rw [bits, ← Nat.size_le, integerWidth]
  omega

theorem lt_pow_integerWidth (v : Nat) : v < 256 ^ integerWidth v := by
  have room := integerWidth_le_iff.1 (Nat.le_refl (v.size / 8 + 1))
  rw [integerWidth, pow_succ]
  omega

theorem integerWidth_of_signBit {b : UInt8} (h : signBit ≤ b) (bs : Octets) :
    integerWidth (value (b :: bs)) = bs.length + 2 := by
  have sign : 128 ≤ b.toNat := h
  have above := mul_le_value_cons sign bs
  have below : value (b :: bs) < 128 * 256 ^ (bs.length + 1) := by
    have bound := value_cons_lt_mul b.toNat_lt bs
    rw [pow_succ]
    omega
  have upper := integerWidth_le_iff.2 below
  have lower := integerWidth_le_iff.not.2 (Nat.not_lt.2 above)
  omega

theorem integerWidth_of_not_signBit {b : UInt8} (h : ¬ signBit ≤ b) (nonzero : b ≠ 0)
    (bs : Octets) : integerWidth (value (b :: bs)) = bs.length + 1 := by
  have sign : b.toNat < 128 := Nat.not_le.1 h
  have first : 0 < b.toNat := Nat.pos_of_ne_zero fun zero => nonzero (UInt8.toNat_inj.1 zero)
  have above := mul_le_value_cons first bs
  have upper := integerWidth_le_iff.2 (value_cons_lt_mul sign bs)
  cases hn : bs.length with
  | zero =>
    rw [hn] at upper
    exact Nat.le_antisymm upper (Nat.succ_pos _)
  | succ n =>
    rw [hn] at above upper
    rw [pow_succ] at above
    have shorter : 128 * 256 ^ n ≤ value (b :: bs) := by omega
    have lower := integerWidth_le_iff.not.2 (Nat.not_lt.2 shorter)
    omega

theorem contentLength_trim (bs : Octets) : contentLength bs.trim = integerWidth bs.value := by
  rw [← value_trim]
  rcases trim_eq_nil_or_cons bs with ht | ⟨b, m, nonzero, ht⟩
  · rw [ht]
    rfl
  · rw [ht, contentLength]
    by_cases sign : signBit ≤ b
    · rw [if_pos sign, integerWidth_of_signBit sign]
    · rw [if_neg sign, integerWidth_of_not_signBit sign nonzero]

/-! ## Contents -/

theorem content_trim (bs : Octets) :
    content bs.trim = Octets.ofNat (integerWidth bs.value) bs.value := by
  have written := ofNat_value (content bs.trim)
  rw [length_content, contentLength_trim, value_content, value_trim] at written
  exact written.symm

variable {i : Components} {r s : Nat}

theorem length_body_contents_trim (values : i.values = (r, s)) :
    (body (contents i.trim)).length = sequenceWidth r s := by
  cases values
  rw [length_body_contents, Components.trim_r, Components.trim_s, contentLength_trim,
    contentLength_trim]
  rfl

theorem frame_contents_trim (values : i.values = (r, s)) :
    frame (contents i.trim) = signatureOfNumbers r s := by
  rw [frame, length_body_contents_trim values]
  cases values
  rw [body, contents_r, contents_s, length_content, length_content, Components.trim_r,
    Components.trim_s, contentLength_trim, contentLength_trim, content_trim, content_trim]
  simp only [signatureOfNumbers, integerOfNumber, List.append_assoc]
  rfl

end Der

namespace Transcoding

open Der Octets

variable {concat : Octets} {r s : Nat}

theorem toNat_ofNat_sequenceWidth (short : sequenceWidth r s ≤ 255) :
    (UInt8.ofNat (integerWidth r)).toNat = integerWidth r ∧
      (UInt8.ofNat (integerWidth s)).toNat = integerWidth s ∧
      (UInt8.ofNat (sequenceWidth r s)).toNat = sequenceWidth r s := by
  have whole := short
  rw [sequenceWidth] at whole
  exact ⟨toNat_ofNat_of_le (by omega), toNat_ofNat_of_le (by omega), toNat_ofNat_of_le short⟩

theorem value_ofNat_integerWidth (v : Nat) : value (Octets.ofNat (integerWidth v) v) = v := by
  rw [value_ofNat]
  exact Nat.mod_eq_of_lt (lt_pow_integerWidth v)

/-- **What is written is decided by two numbers.** The conversion succeeds if the halves are of one
width and both numbers, each with its sign bit, fit in the longest SEQUENCE. Then it writes the
signature of the two numbers, whatever the width of the halves, and cuts neither a number nor a
length. -/
theorem derOfConcat_of_values (halves : (Components.ofConcat concat).values = (r, s)) :
    ((∃ der, (derOfConcat concat).result = .ok der) ↔
        concat.length % 2 = 0 ∧ sequenceWidth r s ≤ 255) ∧
    (∀ der, (derOfConcat concat).result = .ok der → der = signatureOfNumbers r s ∧
        (UInt8.ofNat (integerWidth r)).toNat = integerWidth r ∧
        (UInt8.ofNat (integerWidth s)).toNat = integerWidth s ∧
        (UInt8.ofNat (sequenceWidth r s)).toNat = sequenceWidth r s ∧
        value (Octets.ofNat (integerWidth r) r) = r ∧
        value (Octets.ofNat (integerWidth s) s) = s) ∧
    (concat.length % 2 ≠ 0 → (derOfConcat concat).result =
        .error (.invalidFormat "concat to DER" "odd signature length")) ∧
    (concat.length % 2 = 0 → 255 < sequenceWidth r s → (derOfConcat concat).result =
        .error (.invalidFormat "concat to DER" "SEQUENCE content longer than 255 bytes")) ∧
    ∀ other, concat.length % 2 = other.length % 2 → (Components.ofConcat other).values = (r, s) →
      derOfConcat other = derOfConcat concat := by
  have length := length_body_contents_trim halves
  have written : ∀ {der}, (derOfConcat concat).result = .ok der ↔
      concat.length % 2 = 0 ∧ sequenceWidth r s ≤ 255 ∧ der = signatureOfNumbers r s := by
    intro der
    rw [derOfConcat_eq_ok_iff, numbers, length, frame_contents_trim halves]
  refine ⟨?_, ?_, ?_, ?_, ?_⟩
  · constructor
    · rintro ⟨der, ok⟩
      obtain ⟨even, short, -⟩ := written.1 ok
      exact ⟨even, short⟩
    · rintro ⟨even, short⟩
      exact ⟨_, written.2 ⟨even, short, rfl⟩⟩
  · intro der ok
    obtain ⟨-, short, same⟩ := written.1 ok
    obtain ⟨a, b, l⟩ := toNat_ofNat_sequenceWidth short
    exact ⟨same, a, b, l, value_ofNat_integerWidth r, value_ofNat_integerWidth s⟩
  · intro odd
    rw [derOfConcat_of_odd odd]
    rfl
  · intro even long
    rw [← length] at long
    rw [derOfConcat_of_long even long]
    rfl
  · intro other parity values
    exact derOfConcat_congr parity.symm (values.trans halves.symm)

/-- Two numbers with their top bits set, the longest halves without one that still have a form, and
halves of one octet more. -/
theorem derOfConcat_of_values_up_to_the_limit :
    (signatureOfNumbers 0x80 0xff00 =
        [0x30, 0x09, 0x02, 0x02, 0x00, 0x80, 0x02, 0x03, 0x00, 0xff, 0x00] ∧
      (derOfConcat [0x00, 0x80, 0xff, 0x00]).result = .ok (signatureOfNumbers 0x80 0xff00)) ∧
    (∃ der, (derOfConcat (List.replicate 250 0x7f)).result = .ok der) ∧
    (derOfConcat (List.replicate 252 0x7f)).result =
      .error (.invalidFormat "concat to DER" "SEQUENCE content longer than 255 bytes") ∧
    (derOfConcat [0x00, 0x80, 0xff]).result =
      .error (.invalidFormat "concat to DER" "odd signature length") := by
  have width (n : Nat) : integerWidth (value (0x7f :: List.replicate n 0x7f)) = n + 1 := by
    rw [integerWidth_of_not_signBit (by decide) (by decide), List.length_replicate]
  refine ⟨⟨?_, ?_⟩, ?_, ?_, ?_⟩
  · decide
  · have halves : (Components.ofConcat [0x00, 0x80, 0xff, 0x00]).values = (0x80, 0xff00) := rfl
    obtain ⟨possible, written, -⟩ := derOfConcat_of_values halves
    obtain ⟨der, ok⟩ := possible.2 (by decide)
    rw [← (written der ok).1]
    exact ok
  · have halves : (Components.ofConcat (List.replicate 250 0x7f)).values =
        (value (0x7f :: List.replicate 124 0x7f), value (0x7f :: List.replicate 124 0x7f)) := by
      decide +kernel
    refine (derOfConcat_of_values halves).1.2 ⟨by decide +kernel, ?_⟩
    rw [sequenceWidth, width]
    decide
  · have halves : (Components.ofConcat (List.replicate 252 0x7f)).values =
        (value (0x7f :: List.replicate 125 0x7f), value (0x7f :: List.replicate 125 0x7f)) := by
      decide +kernel
    refine (derOfConcat_of_values halves).2.2.2.1 (by decide +kernel) ?_
    rw [sequenceWidth, width]
    decide
  · have halves : (Components.ofConcat [0x00, 0x80, 0xff]).values = (0x00, 0x80ff) := rfl
    exact (derOfConcat_of_values halves).2.2.1 (by decide)

end Transcoding
end EcdsaCodec
