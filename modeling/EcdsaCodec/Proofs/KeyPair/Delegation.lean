import EcdsaCodec.Proofs.KeyPair.Generation
import Mathlib.Logic.Function.Iterate

/-!
# EcdsaCodec.Proofs.KeyPair.Delegation

Generators that stand behind other generators. A validated generator vets its own answers, and a
caller vets them again.

* `result_vet_result`: what was vetted once is let through as it is, a pair or an error.
* `Generator.behind`: a generator behind any number of layers, validated or lent.
* `generateFor_iterate_validated`: so no number of layers changes what a caller gets.
-/

namespace EcdsaCodec

theorem result_vet_result (requested : Curve) (answer : Except Error KeyPair) :
    (vet requested (vet requested answer).result).result = (vet requested answer).result := by
  have verdict := verdict_vet requested answer
  generalize vet requested answer = report at verdict ⊢
  cases verdict with
  | accepted same publicKey secretKey _ _ =>
    exact (verdict_vet requested _).result_eq_ok_iff.2 ⟨rfl, same, publicKey, secretKey⟩
  -- whatever went wrong, the error is one about key generation by now, and is passed on
  | ownError => rfl
  | otherError _ => rfl
  | wrongCurve _ _ _ => rfl
  | emptyKey _ _ => rfl

section

variable {σ : Type} (g : Generator σ)

theorem Generator.generate_validated (k : Curve) (state : σ) :
    g.validated.generate k state =
      ((vet k (g.generate k state).1).result, (g.generate k state).2) := by
  simp only [Generator.validated]
  rw [generateFor_of_curve (Curve.curve_algorithm k)]

theorem generateFor_validated (a : Algorithm) (state : σ) :
    (generateFor g.validated a state).1.result = (generateFor g a state).1.result ∧
      (generateFor g.validated a state).2 = (generateFor g a state).2 := by
  rcases generateFor_cases a with ⟨-, refused⟩ | ⟨k, -, answered⟩
  · rw [refused, refused]
    exact ⟨rfl, rfl⟩
  · rw [answered, answered, g.generate_validated]
    exact ⟨result_vet_result k _, rfl⟩

/-! ## Layers -/

/-- What may stand between a caller and a generator. -/
inductive Generator.Layer where
  | validated
  | lent
  deriving DecidableEq, Repr

def Generator.behind : List Generator.Layer → Generator σ
  | [] => g
  | .validated :: layers => (Generator.behind layers).validated
  | .lent :: layers => (Generator.behind layers).lent

theorem Generator.behind_eq (layers : List Generator.Layer) :
    g.behind layers = Generator.validated^[layers.count .validated] g := by
  induction layers with
  | nil => rfl
  | cons layer layers ih =>
    cases layer with
    | validated =>
      rw [List.count_cons_self, Function.iterate_succ_apply', ← ih]
      rfl
    | lent =>
      rw [List.count_cons_of_ne (by decide), ← ih]
      rfl

/-- **Validation is idempotent.** Behind any number of validations a generator gives the same pair
or the same error, which is never wrapped again, and leaves the same random source. Borrowers may
stand before it, behind it and in between: only the validations count. -/
theorem generateFor_iterate_validated (depth : Nat) (a : Algorithm) (state : σ) :
    (generateFor (Generator.validated^[depth] g) a state).1.result =
        (generateFor g a state).1.result ∧
      (generateFor (Generator.validated^[depth] g) a state).2 = (generateFor g a state).2 ∧
      ∀ layers : List Generator.Layer,
        g.behind layers = Generator.validated^[layers.count .validated] g := by
  have outcome : (generateFor (Generator.validated^[depth] g) a state).1.result =
      (generateFor g a state).1.result ∧
      (generateFor (Generator.validated^[depth] g) a state).2 = (generateFor g a state).2 := by
    induction depth with
    | zero => exact ⟨rfl, rfl⟩
    | succ depth ih =>
      obtain ⟨result, left⟩ := generateFor_validated (Generator.validated^[depth] g) a state
      rw [Function.iterate_succ_apply']
      exact ⟨result.trans ih.1, left.trans ih.2⟩
  exact ⟨outcome.1, outcome.2, g.behind_eq⟩

end

/-- A provider that is busy at every call: three validations wrap its error once and ask it once. -/
example : generateFor (Generator.validated^[3]
    (⟨fun _ calls => (.error (.invalidFormat "provider" "busy"), calls + 1)⟩ : Generator Nat))
    .es256 0 =
      (⟨.error (.keyGeneration "secp256r1" "Invalid ECDSA signature format: provider: busy"),
        []⟩, 1) :=
  rfl

end EcdsaCodec
