import EcdsaCodec.Proofs.Transcoding

/-!
# EcdsaCodec.Proofs.Language

The language of DER signatures that the conversion accepts.

* `accepts_iff_frames`: it is the grammar `Frames`, cut off below eight octets: nothing malformed gets
  in, and no well-formed signature is refused, not even one with empty INTEGERs or a long outer form
  that was not needed.
* `accepted_prefixFree`: no signature is the start of another, so a string that was cut short or that
  goes on behind its end is refused.
-/

namespace EcdsaCodec
namespace Transcoding

open Der

/-- A string is converted exactly if it has at least eight octets and frames contents of at most 127
octets each. It frames no other pair, and every other string is refused as a malformed signature. -/
theorem accepts_iff_frames (der : Octets) (outputLength : Nat) :
    ((∃ concat, (concatOfDer der outputLength).result = .ok concat) ↔
        8 ≤ der.length ∧ ∃ i, Frames i der) ∧
      (∀ i j, Frames i der → Frames j der → i = j) ∧
      (¬ (8 ≤ der.length ∧ ∃ i, Frames i der) → ∃ reason,
        (concatOfDer der outputLength).result = .error (.invalidFormat "DER to concat" reason)) := by
  have readable : (∃ i, read der = .ok i) ↔
      8 ≤ der.length ∧ ∃ i, Frames i der := by
    simp only [read_eq_ok_iff, exists_and_left]
  refine ⟨exists_ok_iff.trans readable, fun i j hi hj => frames_unique hi hj, ?_⟩
  intro other
  obtain ⟨reason, refused⟩ := exists_reason fun i hi => other (readable.1 ⟨i, hi⟩)
  exact ⟨reason, refused outputLength⟩

/-! ## Where a signature ends -/

theorem refused_of_longer {der extra : Octets}
    (accepted : ∃ outputLength concat, (concatOfDer der outputLength).result = .ok concat)
    (nonempty : extra ≠ []) : read (der ++ extra) = .error .remainingLength := by
  obtain ⟨i, hread⟩ := exists_read accepted
  obtain ⟨hl, frames⟩ := read_eq_ok_iff.1 hread
  exact read_append hl frames nonempty

/-- **No signature is the start of another.** What follows a signature is noticed as an excess over the
declared length and never read as a different split. What lacks octets at its end is refused as well. -/
theorem accepted_prefixFree {der : Octets}
    (accepted : ∃ outputLength concat, (concatOfDer der outputLength).result = .ok concat) :
    (∀ extra, extra ≠ [] → ∀ outputLength,
      (concatOfDer (der ++ extra) outputLength).result =
        .error (.invalidFormat "DER to concat" "SEQUENCE length does not match remaining bytes")) ∧
    ∀ start, start <+: der → start ≠ der → ∃ reason, ∀ outputLength,
      (concatOfDer start outputLength).result = .error (.invalidFormat "DER to concat" reason) := by
  constructor
  · intro extra nonempty outputLength
    rw [concatOfDer_of_error (refused_of_longer accepted nonempty)]
    rfl
  · rintro start ⟨extra, rfl⟩ shorter
    have nonempty : extra ≠ [] := by
      rintro rfl
      exact shorter (List.append_nil start).symm
    refine exists_reason fun i hread => ?_
    -- if the start were a signature, the whole would go on behind its end
    have refused := refused_of_longer ⟨0, exists_ok_iff.2 ⟨i, hread⟩⟩ nonempty
    obtain ⟨j, whole⟩ := exists_read accepted
    rw [refused] at whole
    cases whole

/-- A signature whose R holds the octets of an INTEGER, with a copy of that INTEGER behind its end, and
with S cut off. -/
theorem accepted_prefixFree_nested :
    (concatOfDer [0x30, 0x09, 0x02, 0x04, 0x02, 0x02, 0x01, 0x05, 0x02, 0x01, 0x07] 0).result =
        .ok [0x02, 0x02, 0x01, 0x05, 0x00, 0x00, 0x00, 0x07] ∧
      (∀ outputLength,
        (concatOfDer ([0x30, 0x09, 0x02, 0x04, 0x02, 0x02, 0x01, 0x05, 0x02, 0x01, 0x07] ++
          [0x02, 0x02, 0x01, 0x05]) outputLength).result =
          .error (.invalidFormat "DER to concat" "SEQUENCE length does not match remaining bytes")) ∧
      ∃ reason, ∀ outputLength,
        (concatOfDer [0x30, 0x09, 0x02, 0x04, 0x02, 0x02, 0x01, 0x05] outputLength).result =
          .error (.invalidFormat "DER to concat" reason) := by
  have read : (concatOfDer [0x30, 0x09, 0x02, 0x04, 0x02, 0x02, 0x01, 0x05, 0x02, 0x01, 0x07]
      0).result = .ok [0x02, 0x02, 0x01, 0x05, 0x00, 0x00, 0x00, 0x07] := rfl
  obtain ⟨longer, shorter⟩ := accepted_prefixFree ⟨0, _, read⟩
  refine ⟨read, longer _ (by decide), ?_⟩
  exact shorter _ ⟨[0x02, 0x01, 0x07], rfl⟩ (by decide)

end Transcoding
end EcdsaCodec
