import EcdsaCodec.Octets.Value
import EcdsaCodec.Proofs.Transcoding
import EcdsaCodec.Proofs.Word.Positions

/-!
# EcdsaCodec.Proofs.Padding

What the output length can change about the halves that are read from a signature: the zeros in
front of them, and nothing else.

* `layOut_pads`: the same numbers in two nominal widths.
* `concatOfDer_pads`: the same string at two output lengths, read at both or refused at both.
-/

namespace EcdsaCodec
namespace Transcoding

open Der

theorem layOut_pads {narrow wide : Nat} (h : narrow ≤ wide) (c : Components) :
    ∃ concat concat',
      (layOut narrow c).result = .ok concat ∧ (layOut wide c).result = .ok concat' ∧
      concat.length = 2 * max c.width narrow ∧ concat'.length = 2 * max c.width wide ∧
      concat'.take (max c.width wide) =
        List.replicate (max c.width wide - max c.width narrow) 0 ++
          concat.take (max c.width narrow) ∧
      concat'.drop (max c.width wide) =
        List.replicate (max c.width wide - max c.width narrow) 0 ++
          concat.drop (max c.width narrow) := by
  have fits : c.width ≤ max c.width narrow := Nat.le_max_left _ _
  have wider : max c.width narrow ≤ max c.width wide := by omega
  exact ⟨_, _, rfl, rfl, Components.length_join fits,
    Components.length_join (Nat.le_trans fits wider), Components.halves_join_of_le fits wider⟩

/-- **The output length only pads.** What is no signature is refused at both lengths with the same
error and the same diagnostic, by checks that are not told the output length and come before a
buffer is set aside. What is one has, as long as memory lasts, the same halves at both lengths but
for the zeros in front of each, as many as the difference of the widths: a width is what the numbers
need or half of the output length. -/
theorem concatOfDer_pads {outputLength outputLength' : Nat} (h : outputLength ≤ outputLength')
    (der : Octets) :
    ((∃ fault, (der.length < 2 ^ 63 → Word.locate der = some (.error fault)) ∧
        concatOfDer der outputLength = refuseDer fault ∧
        concatOfDer der outputLength' = refuseDer fault) ∨
      ∃ concat concat' needed width width',
        (concatOfDer der outputLength).result = .ok concat ∧
        (concatOfDer der outputLength').result = .ok concat' ∧
        width = max needed (outputLength / 2) ∧ width' = max needed (outputLength' / 2) ∧
        concat.length = 2 * width ∧ concat'.length = 2 * width' ∧
        concat'.take width' = List.replicate (width' - width) 0 ++ concat.take width ∧
        concat'.drop width' = List.replicate (width' - width) 0 ++ concat.drop width) ∧
    (outputLength / 2 = outputLength' / 2 →
      concatOfDer der outputLength = concatOfDer der outputLength') := by
  cases hread : read der with
  | error fault =>
    rw [concatOfDer_of_error hread, concatOfDer_of_error hread]
    refine ⟨.inl ⟨fault, fun short => ?_, rfl, rfl⟩, fun _ => rfl⟩
    have room : der.length + 512 < Word.limit := by
      rw [Word.limit]
      omega
    exact Word.locate_of_read_eq_error room hread
  | ok i =>
    rw [concatOfDer_of_ok hread, concatOfDer_of_ok hread]
    obtain ⟨concat, concat', ok, ok', halves⟩ := layOut_pads (Nat.div_le_div_right h) i.trim
    refine ⟨.inr ⟨concat, concat', i.trim.width, _, _, ok, ok', rfl, rfl, halves⟩,
      fun same => ?_⟩
    rw [same]

/-- An R that is said to end behind the last octet, asked for in as many octets as there can be, and
a signature that needs two octets a half, asked for in none and in 64. -/
theorem concatOfDer_pads_refused_and_grown :
    concatOfDer [0x30, 0x06, 0x02, 0x7f, 0x05, 0x02, 0x01, 0x80] (2 ^ 64 - 1) =
        refuseDer .rExceedsSignature ∧
      ∃ concat, (concatOfDer [0x30, 0x08, 0x02, 0x02, 0x01, 0x80, 0x02, 0x02, 0x00, 0x05]
          64).result = .ok concat ∧
        concat.take 32 = List.replicate 30 0 ++ [0x01, 0x80] ∧
        concat.drop 32 = List.replicate 30 0 ++ [0x00, 0x05] := by
  constructor
  · have refused : concatOfDer [0x30, 0x06, 0x02, 0x7f, 0x05, 0x02, 0x01, 0x80] 0 =
        refuseDer .rExceedsSignature := rfl
    rcases (concatOfDer_pads (Nat.zero_le (2 ^ 64 - 1))
        [0x30, 0x06, 0x02, 0x7f, 0x05, 0x02, 0x01, 0x80]).1 with
      ⟨fault, -, answer, answer'⟩ | ⟨concat, _, _, _, _, ok, -⟩
    · rw [answer', ← answer, refused]
    · rw [refused] at ok
      cases ok
  · have grown : (concatOfDer [0x30, 0x08, 0x02, 0x02, 0x01, 0x80, 0x02, 0x02, 0x00, 0x05]
        0).result = .ok [0x01, 0x80, 0x00, 0x05] := rfl
    rcases (concatOfDer_pads (Nat.zero_le 64)
        [0x30, 0x08, 0x02, 0x02, 0x01, 0x80, 0x02, 0x02, 0x00, 0x05]).1 with
      ⟨fault, -, answer, -⟩ |
        ⟨concat, concat', needed, width, width', ok, ok', narrow, wide, length, -, r, s⟩
    · rw [answer] at grown
      cases grown
    · rw [grown] at ok
      cases ok
      have four : 4 = 2 * width := length
      obtain rfl : width = 2 := by omega
      obtain rfl : width' = 32 := by omega
      exact ⟨concat', ok', r, s⟩

end Transcoding
end EcdsaCodec
