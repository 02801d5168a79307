import EcdsaCodec.Der.Acceptance
import EcdsaCodec.Proofs.Der.Content

/-!
# EcdsaCodec.Proofs.Der.Frame

The framing of two INTEGER contents. A signature frames at most one pair (`frames_unique`), and
`frame` is the signature that frames a pair under the shorter outer form.

* `write_eq_ok_iff`: what is written is the frame of the contents of both numbers, if they fill at
  most 255 octets together with their headers.
* `read_frame_eq_ok_iff`: a frame is read back exactly if both contents fit in short form. Past that
  the length octet of an INTEGER has its top bit set, and reading stops there.
* `canonical_iff_of_frames`: the canonical signatures are those frames of contents that are the
  ones written for their own values.
-/

namespace EcdsaCodec
namespace Der

/-- The contents that are written for two numbers without leading zeros. -/
def contents (c : Components) : Components := ⟨content c.r, content c.s⟩

/-- The signature with these contents, under the shorter outer form that does. -/
def frame (i : Components) : Octets := header (body i).length ++ body i

/-- Both numbers, without leading zeros, have contents whose length short form can announce. -/
def FitsShortForm (c : Components) : Prop :=
  contentLength c.r ≤ 127 ∧ contentLength c.s ≤ 127

instance (c : Components) : Decidable (FitsShortForm c) :=
  inferInstanceAs (Decidable (_ ∧ _))

@[simp] theorem contents_r (c : Components) : (contents c).r = content c.r := rfl

@[simp] theorem contents_s (c : Components) : (contents c).s = content c.s := rfl

@[simp] theorem trim_contents (c : Components) : (contents c).trim = c.trim := by
  simp [contents, Components.trim]

/-! ## Bodies -/

theorem length_body_pos (i : Components) : 0 < (body i).length := by
  rw [length_body]; omega

theorem length_body_contents (c : Components) :
    (body (contents c)).length = 4 + contentLength c.r + contentLength c.s := by
  rw [length_body, contents_r, contents_s, length_content, length_content]

theorem body_injective {i j : Components} (hi : i.r.length ≤ 255)
    (hj : j.r.length ≤ 255) (h : body i = body j) : i = j := by
  obtain ⟨r, s⟩ := i
  obtain ⟨r', s'⟩ := j
  simp only [body, List.cons_append, List.nil_append, List.append_assoc, List.cons.injEq,
    true_and] at h
  obtain ⟨octet, rest⟩ := h
  have length : r.length = r'.length := by
    rw [← toNat_ofNat_of_le hi, ← toNat_ofNat_of_le hj, octet]
  obtain ⟨rfl, behind⟩ := List.append_inj rest length
  simp only [List.cons.injEq, true_and] at behind
  rw [behind.2]

/-! ## Lengths -/

theorem length_frame (i : Components) :
    (frame i).length = (if (body i).length ≤ 127 then 2 else 3) + (body i).length := by
  rw [frame, List.length_append, header]
  split <;> rfl

theorem length_frame_le_of_frames {i j : Components} {d : Octets} (h : Frames j d)
    (shorter : (body i).length ≤ (body j).length) : (frame i).length ≤ d.length := by
  rw [length_frame]
  cases h with
  | short _ _ hb =>
    rw [if_pos (Nat.le_trans shorter hb), List.length_append, List.length_cons, List.length_singleton]
    omega
  | long _ _ hb =>
    rw [List.length_append, List.length_cons, List.length_cons, List.length_singleton]
    split <;> omega

/-! ## Signatures that frame a pair -/

/-- Behind one header stands one pair of contents. -/
theorem eq_of_same_header {i j : Components} {d : Octets}
    (hi : readHeader d = .ok ((body i).length, body i))
    (hj : readHeader d = .ok ((body j).length, body j))
    (ri : i.r.length ≤ 255) (rj : j.r.length ≤ 255) : i = j := by
  rw [hi] at hj
  injection hj with behind
  injection behind with _ bodies
  exact body_injective ri rj bodies

theorem length_r_le_of_frames {i : Components} {d : Octets} (h : Frames i d) :
    i.r.length ≤ 255 :=
  Nat.le_trans (length_le_of_frames h).1 (by omega)

theorem length_body_le_of_frames {i : Components} {d : Octets} (h : Frames i d) :
    (body i).length ≤ 255 := by
  cases h with
  | short _ _ hb => exact Nat.le_trans hb (by omega)
  | long _ _ hb => exact hb

theorem frames_unique {i j : Components} {d : Octets} (hi : Frames i d) (hj : Frames j d) :
    i = j :=
  eq_of_same_header (readHeader_of_frames hi) (readHeader_of_frames hj)
    (length_r_le_of_frames hi) (length_r_le_of_frames hj)

theorem readHeader_frame {i : Components} (hb : (body i).length ≤ 255) :
    readHeader (frame i) = .ok ((body i).length, body i) := by
  unfold frame header
  split
  · rename_i short
    exact readHeader_short (length_body_pos i) short _
  · exact readHeader_long hb _

theorem frames_frame {i : Components} (hr : i.r.length ≤ 127)
    (hs : i.s.length ≤ 127) (hb : (body i).length ≤ 255) :
    Frames i (frame i) := by
  unfold frame header
  split
  · rename_i short
    exact .short hr hs short
  · exact .long hr hs hb

theorem length_r_le_of_body {i : Components} (hb : (body i).length ≤ 255) :
    i.r.length ≤ 255 := by
  rw [length_body] at hb
  omega

theorem eq_of_frames_frame {i j : Components} (hb : (body j).length ≤ 255)
    (h : Frames i (frame j)) : i = j :=
  eq_of_same_header (readHeader_of_frames h) (readHeader_frame hb) (length_r_le_of_frames h)
    (length_r_le_of_body hb)

theorem frame_injective {i j : Components} (hi : (body i).length ≤ 255)
    (hj : (body j).length ≤ 255) (h : frame i = frame j) : i = j := by
  have header := readHeader_frame hi
  rw [h] at header
  exact eq_of_same_header header (readHeader_frame hj) (length_r_le_of_body hi)
    (length_r_le_of_body hj)

theorem contents_trim_eq_iff {i : Components} :
    contents i.trim = i ↔ MinimalContent i.r ∧ MinimalContent i.s := by
  obtain ⟨r, s⟩ := i
  rw [minimalContent_iff, minimalContent_iff, contents, Components.mk.injEq]
  rfl

/-- A signature of given contents is canonical if it is what is written for their values. -/
theorem canonical_iff_of_frames {i : Components} {d : Octets} (h : Frames i d) :
    Canonical d ↔ contents i.trim = i ∧ d = frame i := by
  rw [contents_trim_eq_iff, and_assoc]
  constructor
  · intro canonical
    obtain ⟨j, hr, hs, hj, hd⟩ := canonical
    rw [frames_unique h hj]
    exact ⟨hr, hs, hd⟩
  · intro minimal
    obtain ⟨hr, hs, hd⟩ := minimal
    exact ⟨i, hr, hs, h, hd⟩

/-! ## Writing and reading back -/

theorem appendInteger_eq_frame (c : Components) :
    appendInteger (appendInteger (sequenceHeader (sequenceLength c)) c.r) c.s =
      frame (contents c) := by
  rw [frame, length_body_contents, body, contents_r, contents_s, length_content, length_content,
    appendInteger_eq, appendInteger_eq]
  simp only [List.append_assoc]
  rfl

theorem write_eq_ok_iff {c : Components} {d : Octets} :
    write c = .ok d ↔ (body (contents c)).length ≤ 255 ∧ d = frame (contents c) := by
  rw [length_body_contents, write, appendInteger_eq_frame]
  by_cases hl : longFormOneOctetMax < sequenceLength c
  · rw [if_pos hl]
    constructor
    · intro h; cases h
    · rintro ⟨hle, -⟩; exact absurd hl (Nat.not_lt.2 hle)
  · rw [if_neg hl]
    constructor
    · intro h; cases h; exact ⟨Nat.not_lt.1 hl, rfl⟩
    · rintro ⟨-, rfl⟩; rfl

theorem le_length_frame (c : Components) : 8 ≤ (frame (contents c)).length := by
  have hr := contentLength_pos c.r
  have hs := contentLength_pos c.s
  have behind := length_body_contents c
  rw [length_frame]
  split <;> omega

theorem fitsShortForm_iff {c : Components} :
    FitsShortForm c ↔ (contents c).r.length ≤ 127 ∧ (contents c).s.length ≤ 127 := by
  rw [FitsShortForm, contents_r, contents_s, length_content, length_content]

theorem frames_contents {c : Components} (hb : (body (contents c)).length ≤ 255)
    (fits : FitsShortForm c) : Frames (contents c) (frame (contents c)) := by
  obtain ⟨hr, hs⟩ := fitsShortForm_iff.1 fits
  exact frames_frame hr hs hb

theorem canonical_frame {c : Components}
    (hb : (body (contents c.trim)).length ≤ 255) (fits : FitsShortForm c.trim) :
    Canonical (frame (contents c.trim)) :=
  ⟨contents c.trim, minimalContent_content_trim _, minimalContent_content_trim _,
    frames_contents hb fits, rfl⟩

theorem fitsShortForm_of_frames {c i : Components}
    (hb : (body (contents c)).length ≤ 255) (h : Frames i (frame (contents c))) :
    FitsShortForm c ∧ i = contents c := by
  obtain rfl := eq_of_frames_frame hb h
  exact ⟨fitsShortForm_iff.2 (length_le_of_frames h), rfl⟩

theorem read_frame_eq_ok_iff {c i : Components}
    (hb : (body (contents c)).length ≤ 255) :
    read (frame (contents c)) = .ok i ↔ FitsShortForm c ∧ i = contents c := by
  rw [read_eq_ok_iff]
  constructor
  · rintro ⟨-, h⟩
    exact fitsShortForm_of_frames hb h
  · rintro ⟨fits, rfl⟩
    exact ⟨le_length_frame c, frames_contents hb fits⟩

end Der
end EcdsaCodec
