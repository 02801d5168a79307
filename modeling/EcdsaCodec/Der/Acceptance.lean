import EcdsaCodec.Der.Grammar
import EcdsaCodec.Der.Reader

/-!
# EcdsaCodec.Der.Acceptance

Reading a DER signature accepts exactly the grammar: `read d` is `c` just when `d` has at least eight
octets and frames `c` (`read_eq_ok_iff`). So a string frames at most one pair of contents. Octets behind
a signature are refused because the lengths no longer agree (`read_append`). The names of tags and
limits that the reader goes by meet the numbers of the grammar here and nowhere later.
-/

namespace EcdsaCodec
namespace Der

/-! ## Bodies -/

theorem toNat_ofNat_of_le {n : Nat} (h : n ≤ 255) : (UInt8.ofNat n).toNat = n := by
  simp only [UInt8.toNat_ofNat']
  omega

theorem not_longFormBit_le_iff {b : UInt8} : ¬ longFormBit ≤ b ↔ b.toNat ≤ 127 := by
  rw [UInt8.le_iff_toNat_le]
  exact Nat.not_le.trans Nat.lt_succ_iff

/-- Both length octets are found at their places whatever follows the body, so what follows can only
fail the comparison of the lengths. -/
theorem readBody_append {c : Components} (hr : c.r.length ≤ 127) (hs : c.s.length ≤ 127)
    (declared : Nat) (extra : Octets) :
    readBody declared (body c ++ extra) =
      if declared ≠ (body c ++ extra).length then .error .remainingLength
      else if declared ≠ (body c).length then .error .integerLengths
      else .ok ⟨c.r, c.s ++ extra⟩ := by
  obtain ⟨r, s⟩ := c
  have er : (UInt8.ofNat r.length).toNat = r.length :=
    toNat_ofNat_of_le (Nat.le_trans hr (by omega))
  have es : (UInt8.ofNat s.length).toNat = s.length :=
    toNat_ofNat_of_le (Nat.le_trans hs (by omega))
  have fr : ¬ longFormBit ≤ UInt8.ofNat r.length := not_longFormBit_le_iff.2 (er.symm ▸ hr)
  have fs : ¬ longFormBit ≤ UInt8.ofNat s.length := not_longFormBit_le_iff.2 (es.symm ▸ hs)
  have total : 2 * integerHeaderLength + r.length + s.length = (body ⟨r, s⟩).length :=
    (length_body ⟨r, s⟩).symm
  simp only [body, List.cons_append, List.nil_append, List.append_assoc, readBody] at total ⊢
  rw [if_neg fr, er, List.drop_left]
  simp only []
  rw [if_neg fs, es, total, List.take_left]
  simp [integerTag]

theorem readBody_body {c : Components} (hr : c.r.length ≤ 127) (hs : c.s.length ≤ 127) :
    readBody (body c).length (body c) = .ok c := by
  simpa using readBody_append hr hs (body c).length []

/-- All that reading a body has checked once it succeeds. -/
theorem checks_of_readBody {declared : Nat} {bs : Octets} {c : Components}
    (h : readBody declared bs = .ok c) :
    ∃ rLength sLength rest s, bs = 0x02 :: rLength :: rest ∧
      rest.drop rLength.toNat = 0x02 :: sLength :: s ∧
      rLength.toNat ≤ 127 ∧ sLength.toNat ≤ 127 ∧ declared = bs.length ∧
      declared = 4 + rLength.toNat + sLength.toNat ∧
      c = ⟨rest.take rLength.toNat, s⟩ := by
  unfold readBody at h
  split at h
  · rename_i rTag rLength rest
    split at h
    · cases h
    · rename_i hr
      split at h
      · rename_i sTag sLength s hdrop
        split at h
        · cases h
        · rename_i hs
          split at h
          · cases h
          · rename_i remaining
            split at h
            · cases h
            · rename_i integers
              split at h
              · cases h
              · rename_i tags
                cases h
                simp only [not_or, Decidable.not_not, ne_eq] at remaining integers tags
                obtain ⟨rfl, rfl⟩ := tags
                exact ⟨rLength, sLength, rest, s, rfl, hdrop, not_longFormBit_le_iff.1 hr,
                  not_longFormBit_le_iff.1 hs, remaining, integers, rfl⟩
      · cases h
  · cases h

theorem eq_body_of_readBody {declared : Nat} {bs : Octets} {c : Components}
    (h : readBody declared bs = .ok c) :
    bs = body c ∧ declared = (body c).length ∧
      c.r.length ≤ 127 ∧ c.s.length ≤ 127 := by
  obtain ⟨rLength, sLength, rest, s, rfl, hdrop, hr, hs, remaining, integers, rfl⟩ :=
    checks_of_readBody h
  have behind := congrArg List.length hdrop
  simp only [List.length_drop, List.length_cons] at behind remaining integers
  have rFits : (rest.take rLength.toNat).length = rLength.toNat := by
    rw [List.length_take]; omega
  have sFits : s.length = sLength.toNat := by omega
  refine ⟨?_, ?_, by rw [rFits]; exact hr, by rw [sFits]; exact hs⟩
  · simp only [body, rFits, sFits, List.cons_append, List.nil_append, List.append_assoc,
      UInt8.ofNat_toNat]
    rw [← hdrop, List.take_append_drop]
  · simp only [length_body, rFits, sFits]
    omega

/-! ## Headers -/

theorem readHeader_short {length : Nat} (pos : 0 < length) (h : length ≤ 127) (rest : Octets) :
    readHeader (0x30 :: UInt8.ofNat length :: rest) = .ok (length, rest) := by
  have e : (UInt8.ofNat length).toNat = length := toNat_ofNat_of_le (Nat.le_trans h (by omega))
  have notLong : UInt8.ofNat length ≠ longFormOneOctet := by
    intro same
    have value : length = longFormOneOctet.toNat := by rw [← same, e]
    have long : longFormOneOctet.toNat = 129 := rfl
    omega
  have supported : ¬ (UInt8.ofNat length = 0 ∨ shortFormMax < (UInt8.ofNat length).toNat) := by
    rw [e]
    rintro (zero | large)
    · have value : length = (0 : UInt8).toNat := by rw [← zero, e]
      rw [UInt8.toNat_zero] at value
      omega
    · exact absurd h (Nat.not_le.2 large)
  have isSequence : ¬ (0x30 : UInt8) ≠ sequenceTag := by decide
  unfold readHeader
  dsimp only
  rw [if_neg isSequence, if_neg notLong, if_neg supported, e]

theorem readHeader_long {length : Nat} (h : length ≤ 255) (rest : Octets) :
    readHeader (0x30 :: 0x81 :: UInt8.ofNat length :: rest) = .ok (length, rest) := by
  simp [readHeader, sequenceTag, longFormOneOctet, toNat_ofNat_of_le h]

theorem eq_of_readHeader {d rest : Octets} {declared : Nat} (h : readHeader d = .ok (declared, rest)) :
    (declared ≤ 127 ∧ d = 0x30 :: UInt8.ofNat declared :: rest) ∨
      (declared ≤ 255 ∧ d = 0x30 :: 0x81 :: UInt8.ofNat declared :: rest) := by
  unfold readHeader at h
  split at h
  · rename_i tag form tail
    split at h
    · cases h
    · rename_i isSequence
      rw [Decidable.not_not.1 isSequence]
      split at h
      · rename_i isLong
        subst isLong
        split at h
        · rename_i length body
          cases h
          exact .inr ⟨Nat.le_of_lt_succ length.toNat_lt, by simp [sequenceTag, longFormOneOctet]⟩
        · cases h
      · split at h
        · cases h
        · rename_i supported
          cases h
          exact .inl ⟨Nat.le_of_not_lt fun hl => supported (.inr hl), by simp [sequenceTag]⟩
  · cases h

/-! ## Signatures -/

theorem readHeader_append {c : Components} {d : Octets} (h : Frames c d) (extra : Octets) :
    readHeader (d ++ extra) = .ok ((body c).length, body c ++ extra) := by
  cases h with
  | short hr hs hb =>
    have pos : 0 < (body c).length := by
      rw [length_body]; omega
    exact readHeader_short pos hb _
  | long hr hs hb => exact readHeader_long hb _

theorem readHeader_of_frames {c : Components} {d : Octets} (h : Frames c d) :
    readHeader d = .ok ((body c).length, body c) := by
  simpa using readHeader_append h []

theorem length_le_of_frames {c : Components} {d : Octets} (h : Frames c d) :
    c.r.length ≤ 127 ∧ c.s.length ≤ 127 := by
  cases h with
  | short hr hs _ => exact ⟨hr, hs⟩
  | long hr hs _ => exact ⟨hr, hs⟩

theorem read_of_frames {c : Components} {d : Octets} (hl : 8 ≤ d.length)
    (h : Frames c d) : read d = .ok c := by
  obtain ⟨hr, hs⟩ := length_le_of_frames h
  have enough : ¬ d.length < minSignatureLength := Nat.not_lt.2 hl
  rw [read, if_neg enough, readHeader_of_frames h]
  exact readBody_body hr hs

/-- The header tells where a signature ends, so nothing can follow it. -/
theorem read_append {c : Components} {d extra : Octets} (hl : 8 ≤ d.length)
    (h : Frames c d) (nonempty : extra ≠ []) : read (d ++ extra) = .error .remainingLength := by
  obtain ⟨hr, hs⟩ := length_le_of_frames h
  have enough : ¬ (d ++ extra).length < minSignatureLength := by
    rw [minSignatureLength, List.length_append]; omega
  have longer : (body c).length ≠ (body c ++ extra).length := by
    have pos : 0 < extra.length := List.length_pos_iff.2 nonempty
    rw [List.length_append]; omega
  rw [read, if_neg enough, readHeader_append h]
  simp only []
  rw [readBody_append hr hs, if_pos longer]

theorem frames_of_read {c : Components} {d : Octets} (h : read d = .ok c) :
    8 ≤ d.length ∧ Frames c d := by
  unfold read at h
  split at h
  · cases h
  · rename_i hl
    refine ⟨Nat.le_of_not_lt hl, ?_⟩
    split at h
    · cases h
    · rename_i declared rest hh
      obtain ⟨rfl, rfl, hr, hs⟩ := eq_body_of_readBody h
      rcases eq_of_readHeader hh with ⟨hb, rfl⟩ | ⟨hb, rfl⟩
      · exact .short hr hs hb
      · exact .long hr hs hb

theorem read_eq_ok_iff {c : Components} {d : Octets} :
    read d = .ok c ↔ 8 ≤ d.length ∧ Frames c d :=
  ⟨frames_of_read, fun h => read_of_frames h.1 h.2⟩

end Der
end EcdsaCodec
