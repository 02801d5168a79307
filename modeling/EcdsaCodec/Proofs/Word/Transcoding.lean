import EcdsaCodec.Octets.Value
import EcdsaCodec.Proofs.Transcoding
import EcdsaCodec.Proofs.Word.Positions

/-!
# EcdsaCodec.Proofs.Word.Transcoding

The conversions in words of 64 bits never leave their bounds, and so have the answers of
`EcdsaCodec.Transcoding`. Each operation has an equation that holds as long as the words have room for
its operands; the strings are shorter than half of all words, which leaves room for all that is added.

* `concatOfDer_eq`: what was read is at most 127 octets long, so halves of half the output length, or
  of 127 octets, have a length that is a word.
* `write?_eq`: only the sum of both content lengths is checked, and with it each of them is an octet.
-/

namespace EcdsaCodec
namespace Word

open Der

section

variable {der concat written magnitude : Octets} {c : Components} {nominal outputLength : Nat}

/-! ## Numbers -/

theorem drop_findIdx (bs : Octets) : bs.drop (bs.findIdx (fun b => b != 0)) = bs.trim := by
  induction bs with
  | nil => rfl
  | cons b bs ih =>
    by_cases h : b = 0
    · subst h
      simpa [List.findIdx_cons] using ih
    · have first : (b != 0) = true := bne_iff_ne.2 h
      simp [List.findIdx_cons, first, Octets.trim_cons_of_ne h]

theorem trim?_eq (bs : Octets) : trim? bs = some bs.trim := by
  rw [trim?, slice?_of_le List.findIdx_le_length (Nat.le_refl _), List.take_length, drop_findIdx]

/-! ## Halves -/

theorem overwrite?_first_half {width : Nat} {bs : Octets} (h : bs.length ≤ width) :
    overwrite? (List.replicate (2 * width) 0) (width - bs.length) width bs =
      some (bs.padTo width ++ List.replicate width 0) := by
  have front : min (width - bs.length) (2 * width) = width - bs.length := by omega
  have behind : 2 * width - width = width := by omega
  rw [overwrite?_of_le (by omega) (by rw [List.length_replicate]; omega) (by omega),
    List.take_replicate, List.drop_replicate, front, behind, Octets.padTo]

theorem overwrite?_second_half {width : Nat} {front bs : Octets} (hf : front.length = width)
    (h : bs.length ≤ width) :
    overwrite? (front ++ List.replicate width 0) (2 * width - bs.length) (2 * width) bs =
      some (front ++ bs.padTo width) := by
  have start : 2 * width - bs.length = front.length + (width - bs.length) := by omega
  have stop : 2 * width = (front ++ List.replicate width (0 : UInt8)).length := by
    simp; omega
  rw [overwrite?_of_le (by omega) (by omega) (by omega)]
  rw [start, List.take_length_add_append, List.take_replicate, Nat.min_eq_left (by omega)]
  rw [stop, List.drop_length, List.append_nil, List.append_assoc, Octets.padTo]

theorem fill_eq (room : 2 * max c.width nominal < limit) :
    fill nominal c = some (Transcoding.layOut nominal c) := by
  have hr : c.r.length ≤ max c.width nominal :=
    Nat.le_trans (Nat.le_max_left _ _) (Nat.le_max_left _ _)
  have hs : c.s.length ≤ max c.width nominal :=
    Nat.le_trans (Nat.le_max_right _ _) (Nat.le_max_left _ _)
  have half : (c.r.padTo (max c.width nominal)).length = max c.width nominal := by
    rw [Octets.length_padTo]; omega
  have hs' : c.s.length ≤ 2 * max c.width nominal := by omega
  unfold fill
  dsimp only
  rw [bind_of_eq_some (mul?_of_lt room), bind_of_eq_some (sub?_of_le hr),
    bind_of_eq_some (overwrite?_first_half hr), bind_of_eq_some (sub?_of_le hs'),
    bind_of_eq_some (overwrite?_second_half half hs)]
  rfl

theorem concatOfDer_eq (hd : der.length + 512 < limit) (ho : outputLength < limit) :
    concatOfDer der outputLength = some (Transcoding.concatOfDer der outputLength) := by
  have finds := locate_finds hd
  unfold concatOfDer
  generalize hread : Der.read der = contents at finds
  generalize locate der = found at finds ⊢
  cases finds with
  | fault fault =>
    rw [Transcoding.concatOfDer_of_error hread]
    rfl
  | @marked c p hr hs =>
    obtain ⟨rShort, sShort⟩ := length_le_of_frames (frames_of_read hread).2
    have rTrim := Octets.length_trim_le c.r
    have sTrim := Octets.length_trim_le c.s
    have narrow : c.trim.width ≤ 127 :=
      Nat.max_le.2 ⟨Nat.le_trans rTrim rShort, Nat.le_trans sTrim sShort⟩
    have room : 2 * max c.trim.width (outputLength / 2) < limit := by omega
    rw [bind_of_eq_some rfl]
    dsimp only
    rw [bind_of_eq_some hr, bind_of_eq_some (trim?_eq c.r), bind_of_eq_some hs,
      bind_of_eq_some (trim?_eq c.s), Transcoding.concatOfDer_of_ok hread]
    exact fill_eq room

/-! ## INTEGERs -/

theorem contentLength?_eq (room : magnitude.length + 1 < limit) :
    contentLength? magnitude = some (contentLength magnitude) := by
  cases magnitude with
  | nil => rfl
  | cons b bs =>
    simp only [contentLength?, contentLength, List.head?_cons, List.length_cons]
    split
    · exact add?_of_lt room
    · rfl

theorem appendInteger?_eq (short : contentLength magnitude < 256)
    (room : written.length + 512 < limit) :
    appendInteger? written magnitude (contentLength magnitude) =
      some (appendInteger written magnitude) := by
  have wide := length_le_contentLength magnitude
  have opened : (written ++ [integerTag, UInt8.ofNat (contentLength magnitude)]).length =
      written.length + 2 := by
    rw [List.length_append]
    rfl
  have zeros : written.length + 2 + contentLength magnitude - magnitude.length -
      (written.length + 2) = contentLength magnitude - magnitude.length := by omega
  unfold appendInteger?
  rw [bind_of_eq_some (octet?_of_lt short)]
  dsimp only
  rw [opened, bind_of_eq_some (add?_of_lt (by omega)), bind_of_eq_some (sub?_of_le (by omega)),
    resize_of_le (by rw [opened]; omega), opened, zeros, appendInteger_eq, content, Octets.padTo,
    List.append_assoc _ (List.replicate _ _)]

theorem sequenceHeader?_eq {length : Nat} (short : length ≤ longFormOneOctetMax)
    (room : 512 < limit) : sequenceHeader? length = some (sequenceHeader length) := by
  rw [longFormOneOctetMax] at short
  have reserved : (if shortFormMax < length then 3 else 2) + length < limit := by
    split <;> omega
  unfold sequenceHeader? sequenceHeader
  rw [bind_of_eq_some (add?_of_lt reserved), bind_of_eq_some (octet?_of_lt (by omega))]
  by_cases long : shortFormMax < length
  · simp [long, Nat.not_le.2 long]
  · simp [long, Nat.not_lt.1 long]

theorem length_sequenceHeader_le (length : Nat) : (sequenceHeader length).length ≤ 3 := by
  unfold sequenceHeader
  split <;> simp

theorem write?_eq (room : c.r.length + c.s.length + 1024 < limit) : write? c = some (write c) := by
  have rWide := contentLength_le c.r
  have sWide := contentLength_le c.s
  have headers : mul? 2 integerHeaderLength = some (2 * integerHeaderLength) :=
    mul?_of_lt (show 4 < limit by omega)
  have withR : add? (2 * integerHeaderLength) (contentLength c.r) =
      some (2 * integerHeaderLength + contentLength c.r) :=
    add?_of_lt (show 4 + contentLength c.r < limit by omega)
  have withS : add? (2 * integerHeaderLength + contentLength c.r) (contentLength c.s) =
      some (sequenceLength c) :=
    add?_of_lt (show 4 + contentLength c.r + contentLength c.s < limit by omega)
  unfold write? write
  rw [bind_of_eq_some (contentLength?_eq (by omega)),
    bind_of_eq_some (contentLength?_eq (by omega)), bind_of_eq_some headers,
    bind_of_eq_some withR, bind_of_eq_some withS]
  by_cases long : longFormOneOctetMax < sequenceLength c
  · rw [if_pos long, if_pos long]
  · have short := Nat.not_lt.1 long
    have header := length_sequenceHeader_le (sequenceLength c)
    rw [if_neg long, if_neg long, bind_of_eq_some (sequenceHeader?_eq short (by omega))]
    -- both contents are short now, although only their sum was looked at
    rw [sequenceLength, integerHeaderLength, longFormOneOctetMax] at short
    have opened : (appendInteger (sequenceHeader (sequenceLength c)) c.r).length + 512 < limit := by
      rw [appendInteger, List.length_append, length_integer, length_content, integerHeaderLength]
      omega
    rw [bind_of_eq_some (appendInteger?_eq (by omega) (by omega)),
      bind_of_eq_some (appendInteger?_eq (by omega) opened)]

theorem derOfConcat_eq (hc : concat.length + 1024 < limit) :
    derOfConcat concat = some (Transcoding.derOfConcat concat) := by
  by_cases odd : concat.length % 2 ≠ 0
  · rw [derOfConcat, if_pos odd, Transcoding.derOfConcat_of_odd odd]
  · have first : slice? concat 0 (concat.length / 2) = some (Components.ofConcat concat).r :=
      slice?_of_le (Nat.zero_le _) (by omega)
    have second : slice? concat (concat.length / 2) concat.length =
        some (Components.ofConcat concat).s := by
      rw [slice?_of_le (by omega) (Nat.le_refl _), List.take_length]
      rfl
    have halves : write? ⟨(Components.ofConcat concat).r.trim, (Components.ofConcat concat).s.trim⟩ =
        some (write (Components.ofConcat concat).trim) := by
      have hr := Octets.length_trim_le (Components.ofConcat concat).r
      have hs := Octets.length_trim_le (Components.ofConcat concat).s
      rw [Components.length_ofConcat_r] at hr
      rw [Components.length_ofConcat_s] at hs
      exact write?_eq (by simp only []; omega)
    unfold derOfConcat Transcoding.derOfConcat Transcoding.magnitudes
    rw [if_neg odd, if_neg odd]
    rw [bind_of_eq_some first, bind_of_eq_some (trim?_eq _), bind_of_eq_some second,
      bind_of_eq_some (trim?_eq _), bind_of_eq_some halves]
    dsimp only
    cases write (Components.ofConcat concat).trim with
    | error fault => rfl
    | ok der => rfl

end

/-- **Words of 64 bits are enough.** As long as memory lasts, every position is inside its buffer, no
difference goes below zero, no sum or product leaves the words and no octet loses bits. So there is
always an answer, and a refusal is one of a malformed signature. -/
theorem conversions_within_bounds {octets : Octets} {outputLength : Nat}
    (short : octets.length < 2 ^ 63) (word : outputLength < 2 ^ 64) :
    (concatOfDer octets outputLength = some (Transcoding.concatOfDer octets outputLength) ∧
      ∀ e, (Transcoding.concatOfDer octets outputLength).result = .error e →
        e.isFormatError = true) ∧
    (derOfConcat octets = some (Transcoding.derOfConcat octets) ∧
      ∀ e, (Transcoding.derOfConcat octets).result = .error e → e.isFormatError = true) := by
  have room : octets.length + 1024 < limit := by
    rw [limit]
    omega
  refine ⟨⟨concatOfDer_eq (by omega) word, ?_⟩, derOfConcat_eq room, ?_⟩
  · intro e refused
    exact Transcoding.isFormatError_of_concatOfDer refused
  · intro e refused
    exact Transcoding.isFormatError_of_derOfConcat refused

/-- At the widest output length: an R that is said to end behind the last octet, and a signature that
is read. -/
theorem conversions_within_bounds_widest :
    concatOfDer [0x30, 0x06, 0x02, 0x7f, 0x05, 0x02, 0x01, 0x80] (2 ^ 64 - 1) =
        some (Transcoding.refuseDer .rExceedsSignature) ∧
      concatOfDer [0x30, 0x06, 0x02, 0x01, 0x05, 0x02, 0x01, 0x80] (2 ^ 64 - 1) =
        some (Transcoding.layOut (2 ^ 63 - 1) ⟨[0x05], [0x80]⟩) ∧
      derOfConcat [0x05, 0x80] =
        some (.silent (.ok [0x30, 0x07, 0x02, 0x01, 0x05, 0x02, 0x02, 0x00, 0x80])) := by
  have beyond := @conversions_within_bounds [0x30, 0x06, 0x02, 0x7f, 0x05, 0x02, 0x01, 0x80]
    (2 ^ 64 - 1) (by decide) (by decide)
  have inside := @conversions_within_bounds [0x30, 0x06, 0x02, 0x01, 0x05, 0x02, 0x01, 0x80]
    (2 ^ 64 - 1) (by decide) (by decide)
  have halves := @conversions_within_bounds [0x05, 0x80] 0 (by decide) (by decide)
  exact ⟨beyond.1.1, inside.1.1, halves.2.1⟩

end Word
end EcdsaCodec
