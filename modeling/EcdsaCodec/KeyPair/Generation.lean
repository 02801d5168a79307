import EcdsaCodec.Diagnostic
import EcdsaCodec.KeyPair

/-!
# EcdsaCodec.KeyPair.Generation

Key pair generation for an algorithm through a generator that is not trusted.

* `Generator`   — from a curve and the state of a random source to a key pair or an error, and the
  state that it leaves behind.
* `vet`         — what becomes of a generator's answer: only a pair of two keys on the requested
  curve is let through.
* `generateFor` — asks a generator for the curve of an algorithm and vets its answer.
* `generateAll` — several such calls, one after the other, on one random source.

Generators are built from others by lending (`Generator.lent`), by validation
(`Generator.validated`) and by recording what they are asked (`Generator.recorded`).
-/

namespace EcdsaCodec

variable {σ : Type}

/-- A maker of key pairs that draws from a random source with states `σ`. -/
structure Generator (σ : Type) where
  generate : Curve → σ → Except Error KeyPair × σ

/-- The verdict on what a generator answered when asked for a curve. -/
def vet (requested : Curve) : Except Error KeyPair → Reported KeyPair
  | .error (.keyGeneration curve text) => .silent (.error (.keyGeneration curve text))
  | .error e => .silent (.error (.keyGeneration requested.asn1Name e.message))
  | .ok pair =>
    if pair.curve ≠ requested then
      ⟨.error (.keyGeneration requested.asn1Name "generator returned a key pair on another curve"),
        [.wrongCurve requested pair.curve]⟩
    else if pair.publicKey = [] ∨ pair.secretKey = [] then
      .silent (.error (.keyGeneration requested.asn1Name "generator returned an empty key"))
    else
      ⟨.ok pair, [.generated requested]⟩

/-- Asks the generator for a key pair of the algorithm's strength, and vets its answer. -/
def generateFor (g : Generator σ) (a : Algorithm) (state : σ) : Reported KeyPair × σ :=
  match a.curve with
  | .error e => (.silent (.error e), state)
  | .ok curve =>
    match g.generate curve state with
    | (answer, state') => (vet curve answer, state')

def defaultAlgorithm : Algorithm := .es512

def generateAll (g : Generator σ) : List Algorithm → σ → List (Reported KeyPair) × σ
  | [], state => ([], state)
  | a :: as, state =>
    match generateFor g a state with
    | (report, state') =>
      match generateAll g as state' with
      | (reports, last) => (report :: reports, last)

namespace Generator

/-- A generator in the hands of a borrower answers as it does in its owner's. -/
def lent (g : Generator σ) : Generator σ := ⟨fun curve state => g.generate curve state⟩

/-- The generator whose every answer has been vetted. -/
def validated (g : Generator σ) : Generator σ where
  generate curve state :=
    match generateFor g curve.algorithm state with
    | (report, state') => (report.result, state')

/-- The same generator, with a list of the curves that it was asked for, the first one first. -/
def recorded (g : Generator σ) : Generator (σ × List Curve) where
  generate
    | curve, (state, asked) =>
      match g.generate curve state with
      | (answer, state') => (answer, state', asked ++ [curve])

end Generator

theorem generateFor_of_curve {a : Algorithm} {curve : Curve} (h : a.curve = .ok curve)
    (g : Generator σ) (state : σ) :
    generateFor g a state
      = (vet curve (g.generate curve state).1, (g.generate curve state).2) := by
  simp [generateFor, h]

theorem generateFor_of_error {a : Algorithm} {e : Error} (h : a.curve = .error e)
    (g : Generator σ) (state : σ) : generateFor g a state = (.silent (.error e), state) := by
  simp [generateFor, h]

end EcdsaCodec
