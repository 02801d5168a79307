import EcdsaCodec.Proofs.Canonical

/-!
# EcdsaCodec.Proofs.NormalForm

The canonical form of a signature that can be read. Writing what was read never runs into a limit if
no INTEGER is negative: `fits_of_nonNegative` says that every length which reading has accepted is
large enough for the shortest contents of the same values.

* `exists_normalForm`: reading and writing gives one canonical signature whatever the output length,
  and that signature cannot be told from the first by reading it.
-/

namespace EcdsaCodec
namespace Transcoding

open Der

section

variable {i : Components} {der : Octets}

theorem fits_of_nonNegative (frames : Frames i der) (hr : NonNegativeContent i.r)
    (hs : NonNegativeContent i.s) :
    FitsShortForm i.trim ∧ (body (contents i.trim)).length ≤ 255 := by
  obtain ⟨rShort, sShort⟩ := length_le_of_frames frames
  have whole := length_body_le_of_frames frames
  have r := contentLength_trim_le_of_nonNegative hr
  have s := contentLength_trim_le_of_nonNegative hs
  rw [length_body] at whole
  rw [FitsShortForm, length_body_contents, Components.trim_r, Components.trim_s]
  -- an empty content grows by one octet, and then the other one is at most 127 octets long
  omega

theorem length_body_contents_le (hr : NonNegativeContent i.r) (hs : NonNegativeContent i.s)
    (rSome : i.r ≠ []) (sSome : i.s ≠ []) :
    (body (contents i.trim)).length ≤ (body i).length := by
  have r := contentLength_trim_le_length rSome hr
  have s := contentLength_trim_le_length sSome hs
  rw [length_body_contents, length_body, Components.trim_r, Components.trim_s]
  omega

/-- **A readable signature without negative INTEGERs has a canonical form**, which is not longer
unless an INTEGER was empty. -/
theorem exists_normalForm
    (accepted : ∃ outputLength concat, (concatOfDer der outputLength).result = .ok concat)
    (frames : Frames i der) (hr : NonNegativeContent i.r) (hs : NonNegativeContent i.s) :
    ∃ normal, (∀ outputLength, ∃ concat, (concatOfDer der outputLength).result = .ok concat ∧
        (derOfConcat concat).result = .ok normal) ∧
      Canonical normal ∧
      (∀ outputLength, concatOfDer normal outputLength = concatOfDer der outputLength) ∧
      (i.r ≠ [] → i.s ≠ [] → normal.length ≤ der.length) := by
  have hread := read_of_accepted accepted frames
  obtain ⟨fits, hb⟩ := fits_of_nonNegative frames hr hs
  refine ⟨frame (contents i.trim), ?_, canonical_frame hb fits, ?_, ?_⟩
  · intro outputLength
    refine ⟨_, concatOfDer_eq_ok_iff.2 ⟨i, hread, rfl⟩, ?_⟩
    rw [derOfConcat_join_eq_ok_iff (Nat.le_max_left _ _), Components.trim_trim]
    exact ⟨hb, rfl⟩
  · intro outputLength
    have back := (read_frame_eq_ok_iff hb).2 ⟨fits, rfl⟩
    rw [concatOfDer_of_ok back, concatOfDer_of_ok hread, trim_contents, Components.trim_trim]
  · intro rSome sSome
    exact length_frame_le_of_frames frames (length_body_contents_le hr hs rSome sSome)

end

/-- An R of 127 octets, the longest there is, and a zero that is padded up to the longest body. -/
theorem exists_normalForm_of_longest :
    Frames ⟨0 :: List.replicate 126 0x80, List.replicate 124 0⟩
        ([0x30, 0x81, 0xff, 0x02, 0x7f, 0x00] ++ List.replicate 126 0x80 ++
          [0x02, 0x7c] ++ List.replicate 124 0) ∧
      (∀ outputLength, ∃ concat,
        (concatOfDer ([0x30, 0x81, 0xff, 0x02, 0x7f, 0x00] ++ List.replicate 126 0x80 ++
          [0x02, 0x7c] ++ List.replicate 124 0) outputLength).result = .ok concat ∧
        (derOfConcat concat).result =
          .ok ([0x30, 0x81, 0x84, 0x02, 0x7f, 0x00] ++ List.replicate 126 0x80 ++
            [0x02, 0x01, 0x00])) ∧
      Canonical ([0x30, 0x81, 0x84, 0x02, 0x7f, 0x00] ++ List.replicate 126 0x80 ++
        [0x02, 0x01, 0x00]) := by
  have framed : frame ⟨0 :: List.replicate 126 0x80, List.replicate 124 0⟩ =
      ([0x30, 0x81, 0xff, 0x02, 0x7f, 0x00] ++ List.replicate 126 0x80 ++
        [0x02, 0x7c] ++ List.replicate 124 0 : Octets) := by decide +kernel
  have frames := frames_frame (i := ⟨0 :: List.replicate 126 0x80, List.replicate 124 0⟩)
    (by decide +kernel) (by decide +kernel) (by decide +kernel)
  rw [framed] at frames
  have hread := read_of_frames (by decide +kernel) frames
  obtain ⟨normal, recoded, canonical, -, -⟩ :=
    exists_normalForm ⟨0, exists_ok_iff.2 ⟨_, hread⟩⟩ frames (by decide) (by decide +kernel)
  have written : normal = [0x30, 0x81, 0x84, 0x02, 0x7f, 0x00] ++ List.replicate 126 0x80 ++
      [0x02, 0x01, 0x00] := by
    obtain ⟨concat, first, second⟩ := recoded 0
    obtain ⟨i, hi, rfl⟩ := concatOfDer_eq_ok_iff.1 first
    obtain rfl := frames_unique frames (read_eq_ok_iff.1 hi).2
    rw [(derOfConcat_eq_ok_iff.1 second).2.2]
    decide +kernel
  rw [written] at recoded canonical
  exact ⟨frames, recoded, canonical⟩

end Transcoding
end EcdsaCodec
