import EcdsaCodec.Proofs.Signature

/-!
# EcdsaCodec.Proofs.Diagnostics

Diagnostics tell what the result tells, no more and no less. Each of the three relations lists the
answers that an operation may give, a result beside its diagnostics:

* `ReadingLog n x` — a refusal with its reason, halves wider than `n` asked for under one warning, or
  halves as asked for in silence.
* `WritingLog x`   — a refusal with its reason, or a signature in silence.
* `LengthLog n bs x` — a refusal with both lengths, which differ, or the octets themselves in silence.

`diagnostics_agree` says that the conversions give no other answers, and that the typed ones add
nothing of their own.
-/

namespace EcdsaCodec

open Transcoding

inductive ReadingLog (outputLength : Nat) : Reported Octets → Prop where
  | refused {context reason : String} {event : Diagnostic} : event.level = .debug →
      event.fields = [("reason", .text reason)] →
      ReadingLog outputLength ⟨.error (.invalidFormat context reason), [event]⟩
  | widened {concat : Octets} {width : Nat} {event : Diagnostic} :
      2 * (outputLength / 2) < concat.length → concat.length = 2 * width → event.level = .warn →
      event.fields = [("raw_len", .count width), ("nominal", .count (outputLength / 2))] →
      ReadingLog outputLength ⟨.ok concat, [event]⟩
  | asAsked {concat : Octets} : concat.length = 2 * (outputLength / 2) →
      ReadingLog outputLength ⟨.ok concat, []⟩

inductive WritingLog : Reported Octets → Prop where
  | refused {context reason : String} {event : Diagnostic} : event.level = .debug →
      event.fields = [("reason", .text reason)] →
      WritingLog ⟨.error (.invalidFormat context reason), [event]⟩
  | written {der : Octets} : WritingLog ⟨.ok der, []⟩

inductive LengthLog (expected : Nat) (octets : Octets) : Reported ConcatSignature → Prop where
  | mismatch {context reason : String} {event : Diagnostic} : expected ≠ octets.length →
      event.level = .debug →
      event.fields = [("expected", .count expected), ("actual", .count octets.length)] →
      LengthLog expected octets ⟨.error (.invalidFormat context reason), [event]⟩
  | fits : octets.length = expected → LengthLog expected octets ⟨.ok ⟨octets⟩, []⟩

section

variable {octets concat : Octets} {outputLength : Nat} {x : Reported Octets}

theorem readingLog_layOut (outputLength : Nat) (c : Components) :
    ReadingLog outputLength (layOut (outputLength / 2) c) := by
  have length : (c.join (max c.width (outputLength / 2))).length =
      2 * max c.width (outputLength / 2) := Components.length_join (Nat.le_max_left _ _)
  unfold layOut
  by_cases wide : outputLength / 2 < max c.width (outputLength / 2)
  · simp only [if_pos wide]
    exact .widened (by omega) length rfl rfl
  · simp only [if_neg wide]
    exact .asAsked (by omega)

theorem readingLog_concatOfDer (octets : Octets) (outputLength : Nat) :
    ReadingLog outputLength (concatOfDer octets outputLength) := by
  rcases concatOfDer_cases octets outputLength with ⟨fault, answer⟩ | ⟨i, -, answer⟩
  · rw [answer]
    exact .refused rfl rfl
  · rw [answer]
    exact readingLog_layOut outputLength i.trim

theorem ReadingLog.warns_iff (log : ReadingLog outputLength x) (ok : x.result = .ok concat) :
    (∃ event ∈ x.diagnostics, event.level = .warn) ↔ 2 * (outputLength / 2) < concat.length := by
  cases log with
  | refused => cases ok
  | widened grown _ level =>
    cases ok
    simp [level, grown]
  | asAsked length =>
    cases ok
    simp [length]

theorem writingLog_derOfConcat (octets : Octets) : WritingLog (derOfConcat octets) := by
  rcases derOfConcat_cases octets with ⟨fault, answer⟩ | ⟨der, answer⟩
  · rw [answer]
    exact .refused rfl rfl
  · rw [answer]
    exact .written

theorem lengthLog_ofOctetsFor {a : Algorithm} {k : Curve} (hk : a.curve? = some k)
    (octets : Octets) :
    LengthLog k.signatureLength octets (ConcatSignature.ofOctetsFor a octets) := by
  rw [ConcatSignature.ofOctetsFor_of_curve hk]
  by_cases fits : octets.length = k.signatureLength
  · rw [if_pos fits]
    exact .fits fits
  · rw [if_neg fits]
    exact .mismatch (Ne.symm fits) rfl rfl

end

/-- **Diagnostics agree with results**, whatever is converted and however it ends. -/
theorem diagnostics_agree (octets : Octets) (outputLength : Nat) (a : Algorithm) :
    ReadingLog outputLength (concatOfDer octets outputLength) ∧
    WritingLog (derOfConcat octets) ∧
    (DerSignature.toConcat ⟨octets⟩ outputLength).diagnostics =
      (concatOfDer octets outputLength).diagnostics ∧
    (ConcatSignature.toDer ⟨octets⟩).diagnostics = (derOfConcat octets).diagnostics ∧
    (∀ k, a.curve? = some k →
      (DerSignature.toConcatFor ⟨octets⟩ a).diagnostics =
        (concatOfDer octets k.signatureLength).diagnostics ∧
      LengthLog k.signatureLength octets (ConcatSignature.ofOctetsFor a octets)) ∧
    (a.curve? = none →
      (DerSignature.toConcatFor ⟨octets⟩ a).diagnostics = [] ∧
      (ConcatSignature.ofOctetsFor a octets).diagnostics = []) := by
  refine ⟨readingLog_concatOfDer octets outputLength, writingLog_derOfConcat octets, rfl, rfl, ?_, ?_⟩
  · intro k hk
    refine ⟨?_, lengthLog_ofOctetsFor hk octets⟩
    rw [DerSignature.toConcatFor_of_curve hk]
    rfl
  · intro hk
    rw [DerSignature.toConcatFor_of_no_curve hk, ConcatSignature.ofOctetsFor_of_no_curve hk]
    exact ⟨rfl, rfl⟩

/-- Two octets that are asked for in no octets, and a signature taken for halves: too short for ES256,
and not looked at for HS256. -/
theorem diagnostics_agree_widened_and_mismatch :
    (ReadingLog 0 ⟨.ok [0x05, 0x80], [.widened 1 0]⟩ ∧
      LengthLog 64 [0x30, 0x06, 0x02, 0x01, 0x05, 0x02, 0x01, 0x80]
        ⟨.error (.invalidFormat "concat signature" "length does not match algorithm"),
          [.lengthMismatch 64 8]⟩) ∧
    (ConcatSignature.ofOctetsFor .hs256 [0x30]).diagnostics = [] := by
  have short := diagnostics_agree [0x30, 0x06, 0x02, 0x01, 0x05, 0x02, 0x01, 0x80] 0 .es256
  have unsupported := diagnostics_agree [0x30] 0 .hs256
  obtain ⟨reading, -, -, -, supported, -⟩ := short
  exact ⟨⟨reading, (supported .p256 rfl).2⟩, (unsupported.2.2.2.2.2 rfl).2⟩

end EcdsaCodec
