import EcdsaCodec.KeyPair.Generation

/-!
# EcdsaCodec.Proofs.KeyPair.Generation

What a caller gets from a generator that may answer anything, call after call on one random source.

* `Verdict`          — the reports that an answer of the generator may lead to, one constructor for
  each kind of answer.
* `generateAll_append`, `generateAll_recorded` — a run is its calls put together, and asks the
  generator once for each ECDSA algorithm, for its curve.
* `generateAll_admits` — each call of a run, wherever it stands: only a pair of two keys on the curve
  that was asked for gets through, and the random source is left to the next call as the generator
  left it.
-/

namespace EcdsaCodec

/-- What becomes of an answer when the generator was asked for `requested`. -/
inductive Verdict (requested : Curve) : Except Error KeyPair → Reported KeyPair → Prop where
  | accepted {pair : KeyPair} {event : Diagnostic} : pair.curve = requested →
      pair.publicKey ≠ [] → pair.secretKey ≠ [] → event.level = .trace →
      event.fields = [("curve", .text requested.asn1Name)] →
      Verdict requested (.ok pair) ⟨.ok pair, [event]⟩
  | ownError {curve text : String} :
      Verdict requested (.error (.keyGeneration curve text))
        ⟨.error (.keyGeneration curve text), []⟩
  | otherError {e : Error} : (∀ curve text, e ≠ .keyGeneration curve text) →
      Verdict requested (.error e) ⟨.error (.keyGeneration requested.asn1Name e.message), []⟩
  /-- The curve is looked at before the keys. -/
  | wrongCurve {pair : KeyPair} {event : Diagnostic} : pair.curve ≠ requested →
      event.level = .debug →
      event.fields = [("requested", .text requested.asn1Name),
        ("returned", .text pair.curve.asn1Name)] →
      Verdict requested (.ok pair)
        ⟨.error (.keyGeneration requested.asn1Name
          "generator returned a key pair on another curve"), [event]⟩
  | emptyKey {pair : KeyPair} : pair.curve = requested →
      pair.publicKey = [] ∨ pair.secretKey = [] →
      Verdict requested (.ok pair)
        ⟨.error (.keyGeneration requested.asn1Name "generator returned an empty key"), []⟩

section

variable {requested : Curve} {answer : Except Error KeyPair} {report : Reported KeyPair}

theorem verdict_vet (requested : Curve) (answer : Except Error KeyPair) :
    Verdict requested answer (vet requested answer) := by
  cases answer with
  | error e =>
    cases e with
    | unsupportedAlgorithm algorithm => exact .otherError (fun _ _ h => by cases h)
    | invalidFormat context reason => exact .otherError (fun _ _ h => by cases h)
    | keyGeneration curve text => exact .ownError
  | ok pair =>
    rw [vet]
    by_cases other : pair.curve ≠ requested
    · rw [if_pos other]
      exact .wrongCurve other rfl rfl
    · have same : pair.curve = requested := Decidable.not_not.1 other
      rw [if_neg other]
      by_cases empty : pair.publicKey = [] ∨ pair.secretKey = []
      · rw [if_pos empty]
        exact .emptyKey same empty
      · obtain ⟨publicKey, secretKey⟩ := not_or.1 empty
        rw [if_neg empty]
        exact .accepted same publicKey secretKey rfl rfl

/-- A pair gets through unchanged, and only one without a fault. -/
theorem Verdict.result_eq_ok_iff (verdict : Verdict requested answer report) {pair : KeyPair} :
    report.result = .ok pair ↔ answer = .ok pair ∧ pair.curve = requested ∧
      pair.publicKey ≠ [] ∧ pair.secretKey ≠ [] := by
  constructor
  · intro ok
    cases verdict with
    | accepted same publicKey secretKey _ _ =>
      cases ok
      exact ⟨rfl, same, publicKey, secretKey⟩
    | ownError => cases ok
    | otherError _ => cases ok
    | wrongCurve _ _ _ => cases ok
    | emptyKey _ _ => cases ok
  · rintro ⟨rfl, same, publicKey, secretKey⟩
    cases verdict with
    | accepted _ _ _ _ _ => rfl
    | wrongCurve other _ _ => exact absurd same other
    | emptyKey _ empty => exact absurd empty (not_or.2 ⟨publicKey, secretKey⟩)

end

section

variable {σ : Type} (g : Generator σ)

/-! ## Calls -/

theorem generateFor_cases (a : Algorithm) :
    (a.curve? = none ∧ ∀ {σ : Type} (g : Generator σ) (state : σ),
      generateFor g a state = (.silent (.error (.unsupportedAlgorithm a.name)), state)) ∨
    ∃ k, a.curve? = some k ∧ ∀ {σ : Type} (g : Generator σ) (state : σ),
      generateFor g a state = (vet k (g.generate k state).1, (g.generate k state).2) := by
  cases hk : a.curve? with
  | none => exact .inl ⟨rfl, generateFor_of_error (Algorithm.curve_of_curve?_eq_none hk)⟩
  | some k => exact .inr ⟨k, rfl, generateFor_of_curve (Algorithm.curve_of_curve?_eq_some hk)⟩

/-- Recording changes neither an answer nor the random source, and notes down the curve of an ECDSA
algorithm once. -/
theorem generateFor_recorded (a : Algorithm) (state : σ) (asked : List Curve) :
    generateFor g.recorded a (state, asked) =
      ((generateFor g a state).1, (generateFor g a state).2, asked ++ a.curve?.toList) := by
  rcases generateFor_cases a with ⟨hk, refused⟩ | ⟨k, hk, answered⟩
  · rw [refused, refused, hk]
    simp
  · rw [answered, answered, hk]
    rfl

/-! ## Runs -/

theorem generateAll_cons (a : Algorithm) (as : List Algorithm) (state : σ) :
    generateAll g (a :: as) state =
      ((generateFor g a state).1 :: (generateAll g as (generateFor g a state).2).1,
        (generateAll g as (generateFor g a state).2).2) := rfl

theorem generateAll_append (as bs : List Algorithm) (state : σ) :
    generateAll g (as ++ bs) state =
      ((generateAll g as state).1 ++ (generateAll g bs (generateAll g as state).2).1,
        (generateAll g bs (generateAll g as state).2).2) := by
  induction as generalizing state with
  | nil => rfl
  | cons a as ih =>
    rw [List.cons_append, generateAll_cons, generateAll_cons, ih]
    rfl

theorem filterMap_curve?_cons (a : Algorithm) (as : List Algorithm) :
    (a :: as).filterMap Algorithm.curve? = a.curve?.toList ++ as.filterMap Algorithm.curve? := by
  cases hk : a.curve? with
  | none =>
    rw [List.filterMap_cons_none hk]
    rfl
  | some k =>
    rw [List.filterMap_cons_some hk]
    rfl

theorem generateAll_recorded (as : List Algorithm) (state : σ) (asked : List Curve) :
    generateAll g.recorded as (state, asked) =
      ((generateAll g as state).1, (generateAll g as state).2,
        asked ++ as.filterMap Algorithm.curve?) := by
  induction as generalizing state asked with
  | nil => simp [generateAll]
  | cons a as ih =>
    rw [generateAll_cons, generateAll_cons, generateFor_recorded, ih, filterMap_curve?_cons,
      List.append_assoc]

/-- **A run admits only what was asked for.** Whatever the generator answers, each call of a run starts
on the random source as the calls before it left it. For an algorithm without a curve it changes
nothing. For any other it asks the generator once, for the curve of that algorithm, leaves the random
source as the generator did, and passes on no pair but one of two keys on that curve. -/
theorem generateAll_admits (earlier later : List Algorithm) (a : Algorithm) (state : σ) :
    ∃ before asked report after,
      before = (generateAll g earlier state).2 ∧
      generateAll g (earlier ++ a :: later) state =
        ((generateAll g earlier state).1 ++ report :: (generateAll g later after).1,
          (generateAll g later after).2) ∧
      generateAll g.recorded (earlier ++ a :: later) (state, []) =
        ((generateAll g earlier state).1 ++ report :: (generateAll g later after).1,
          (generateAll g later after).2,
          earlier.filterMap Algorithm.curve? ++ asked ++ later.filterMap Algorithm.curve?) ∧
      (a.isEllipticCurve = false → asked = [] ∧ after = before ∧
        report = ⟨.error (.unsupportedAlgorithm a.name), []⟩) ∧
      ∀ k, a = k.algorithm → asked = [k] ∧ after = (g.generate k before).2 ∧
        (∀ pair, report.result = .ok pair ↔ (g.generate k before).1 = .ok pair ∧
          pair.curve = k ∧ pair.publicKey ≠ [] ∧ pair.secretKey ≠ []) ∧
        Verdict k (g.generate k before).1 report := by
  obtain ⟨before, start⟩ : ∃ before, before = (generateAll g earlier state).2 := ⟨_, rfl⟩
  refine ⟨before, a.curve?.toList, (generateFor g a before).1, (generateFor g a before).2, start,
    ?_, ?_, ?_, ?_⟩
  · rw [generateAll_append, generateAll_cons, start]
  · rw [generateAll_recorded, generateAll_append, generateAll_cons, start, List.filterMap_append,
      filterMap_curve?_cons, List.nil_append, List.append_assoc]
  · intro other
    have hk := Algorithm.curve?_eq_none_iff.2 other
    rw [generateFor_of_error (Algorithm.curve_of_curve?_eq_none hk), hk]
    exact ⟨rfl, rfl, rfl⟩
  · rintro k rfl
    have verdict := verdict_vet k (g.generate k before).1
    rw [generateFor_of_curve (Curve.curve_algorithm k), Curve.curve?_algorithm]
    exact ⟨rfl, rfl, fun pair => verdict.result_eq_ok_iff, verdict⟩

end

/-- A generator that counts its calls and knows one curve only. -/
example : generateAll (⟨fun _ count => (.ok ⟨.p256, [0x04], [0x01]⟩, count + 1)⟩ : Generator Nat)
    [.hs256, .es384, .es256] 0 =
      ([⟨.error (.unsupportedAlgorithm "HS256"), []⟩,
        ⟨.error (.keyGeneration "secp384r1" "generator returned a key pair on another curve"),
          [.wrongCurve .p384 .p256]⟩,
        ⟨.ok ⟨.p256, [0x04], [0x01]⟩, [.generated .p256]⟩], 2) := rfl

end EcdsaCodec
