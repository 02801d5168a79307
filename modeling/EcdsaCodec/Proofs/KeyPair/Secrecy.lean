import EcdsaCodec.Proofs.KeyPair.Generation
import Mathlib.Data.List.Forall2

/-!
# EcdsaCodec.Proofs.KeyPair.Secrecy

Two runs of key pair generation that differ in the secret keys look the same to anyone who is not
shown those keys.

* `SameButSecret`    — two answers of a generator that differ in the secret key at most.
* `Indistinguishable` — two reports that differ in the secret key at most, in their texts as well.
* `vet_indistinguishable`, `generateFor_indistinguishable`: one verdict and one call keep the
  secret.
* `generateAll_indistinguishable`: so does a run of any length.
-/

namespace EcdsaCodec

/-- Answers that agree on all but the secret key. Whether there is one is not taken for a secret. -/
inductive SameButSecret : Except Error KeyPair → Except Error KeyPair → Prop where
  | error {e : Error} : SameButSecret (.error e) (.error e)
  | pair {p q : KeyPair} : p.curve = q.curve → p.publicKey = q.publicKey →
      (p.secretKey = [] ↔ q.secretKey = []) → SameButSecret (.ok p) (.ok q)

/-- Reports that agree on all that is shown of them: the error and so its message, the diagnostics,
the curve, the public key and both summaries. -/
inductive Indistinguishable : Reported KeyPair → Reported KeyPair → Prop where
  | refused {e : Error} {events : List Diagnostic} :
      Indistinguishable ⟨.error e, events⟩ ⟨.error e, events⟩
  | passed {p q : KeyPair} {events : List Diagnostic} : p.curve = q.curve →
      p.publicKey = q.publicKey → p.summary = q.summary → p.longSummary = q.longSummary →
      Indistinguishable ⟨.ok p, events⟩ ⟨.ok q, events⟩

def Generator.SameButSecrets {σ : Type} (g g' : Generator σ) : Prop :=
  ∀ curve state, SameButSecret (g.generate curve state).1 (g'.generate curve state).1 ∧
    (g.generate curve state).2 = (g'.generate curve state).2

theorem vet_indistinguishable {requested : Curve} {answer answer' : Except Error KeyPair}
    (same : SameButSecret answer answer') :
    Indistinguishable (vet requested answer) (vet requested answer') := by
  cases same with
  | @error e =>
    cases e with
    | unsupportedAlgorithm algorithm => exact .refused
    | invalidFormat context reason => exact .refused
    | keyGeneration curve text => exact .refused
  | @pair p q sameCurve samePublic sameEmpty =>
    -- the one look at the secret keys: whether they are empty
    have sameFault :
        p.publicKey = [] ∨ p.secretKey = [] ↔ q.publicKey = [] ∨ q.secretKey = [] :=
      or_congr (by rw [samePublic]) sameEmpty
    rw [vet, vet, sameCurve]
    by_cases other : q.curve ≠ requested
    · rw [if_pos other, if_pos other]
      exact .refused
    · rw [if_neg other, if_neg other]
      by_cases empty : p.publicKey = [] ∨ p.secretKey = []
      · rw [if_pos empty, if_pos (sameFault.1 empty)]
        exact .refused
      · obtain ⟨summary, longSummary⟩ :=
          KeyPair.summary_congr sameCurve (congrArg List.length samePublic)
        rw [if_neg empty, if_neg (mt sameFault.2 empty)]
        exact .passed sameCurve samePublic summary longSummary

section

variable {σ : Type} {g g' : Generator σ}

theorem generateFor_indistinguishable (same : g.SameButSecrets g') (a : Algorithm) (state : σ) :
    Indistinguishable (generateFor g a state).1 (generateFor g' a state).1 ∧
      (generateFor g a state).2 = (generateFor g' a state).2 := by
  rcases generateFor_cases a with ⟨-, refused⟩ | ⟨k, -, answered⟩
  · rw [refused, refused]
    exact ⟨.refused, rfl⟩
  · obtain ⟨answers, states⟩ := same k state
    rw [answered, answered]
    exact ⟨vet_indistinguishable answers, states⟩

theorem generateAll_indistinguishable (same : g.SameButSecrets g') (as : List Algorithm)
    (state : σ) :
    List.Forall₂ Indistinguishable (generateAll g as state).1 (generateAll g' as state).1 ∧
      (generateAll g as state).2 = (generateAll g' as state).2 := by
  induction as generalizing state with
  | nil => exact ⟨.nil, rfl⟩
  | cons a as ih =>
    obtain ⟨report, states⟩ := generateFor_indistinguishable same a state
    obtain ⟨reports, last⟩ := ih (generateFor g a state).2
    rw [generateAll_cons, generateAll_cons, ← states]
    exact ⟨.cons report reports, last⟩

/-- **Secret keys do not leak.** Whatever is asked for in a row, generators that differ in secret
keys only get reports that tell nothing apart, and leave the same random source after every
call. -/
theorem secrets_not_revealed (same : g.SameButSecrets g') (as : List Algorithm) (state : σ) :
    List.Forall₂ Indistinguishable (generateAll g as state).1 (generateAll g' as state).1 ∧
      ∀ calls,
        (generateAll g (as.take calls) state).2 = (generateAll g' (as.take calls) state).2 :=
  ⟨(generateAll_indistinguishable same as state).1,
    fun calls => (generateAll_indistinguishable same (as.take calls) state).2⟩

end

/-- Secret keys of one and of two octets: a pair that gets through, an algorithm without a curve,
and a pair on another curve than the one asked for. -/
theorem secrets_not_revealed_of_two_lengths :
    List.Forall₂ Indistinguishable
      [⟨.ok ⟨.p256, [0x04], [0x01]⟩, [.generated .p256]⟩,
        ⟨.error (.unsupportedAlgorithm "HS256"), []⟩,
        ⟨.error (.keyGeneration "secp384r1" "generator returned a key pair on another curve"),
          [.wrongCurve .p384 .p256]⟩]
      [⟨.ok ⟨.p256, [0x04], [0xaa, 0xbb]⟩, [.generated .p256]⟩,
        ⟨.error (.unsupportedAlgorithm "HS256"), []⟩,
        ⟨.error (.keyGeneration "secp384r1" "generator returned a key pair on another curve"),
          [.wrongCurve .p384 .p256]⟩] := by
  have same : Generator.SameButSecrets
      (⟨fun _ count => (.ok ⟨.p256, [0x04], [0x01]⟩, count + 1)⟩ : Generator Nat)
      ⟨fun _ count => (.ok ⟨.p256, [0x04], [0xaa, 0xbb]⟩, count + 1)⟩ :=
    fun _ _ => ⟨.pair rfl rfl (by simp), rfl⟩
  exact (secrets_not_revealed same [.es256, .hs256, .es384] 0).1

end EcdsaCodec
