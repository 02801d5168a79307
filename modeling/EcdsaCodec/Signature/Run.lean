import EcdsaCodec.Signature

/-!
# EcdsaCodec.Signature.Run

Signatures of either form, and runs of conversions from one form to the other: `Run s steps` says
that the conversions of `steps`, made one after the other from `s`, all succeed with the products
listed beside them.
-/

namespace EcdsaCodec

inductive Signature where
  | der (d : DerSignature)
  | concat (c : ConcatSignature)
  deriving DecidableEq, Repr

inductive Conversion where
  | toConcat (outputLength : Nat)
  | toConcatFor (a : Algorithm)
  | toDer
  deriving DecidableEq, Repr

namespace Signature

def octets : Signature → Octets
  | der d => d.octets
  | concat c => c.octets

/-- The same octets, taken for the other form. -/
def recast : Signature → Signature
  | der d => concat ⟨d.octets⟩
  | concat c => der ⟨c.octets⟩

def summary : Signature → String
  | der d => d.summary
  | concat c => c.summary

def der? : Signature → Option DerSignature
  | der d => some d
  | concat _ => none

def concat? : Signature → Option ConcatSignature
  | der _ => none
  | concat c => some c

/-- R and S as they stand in the signature, if it has the form it is taken for. -/
def components? : Signature → Option Components
  | der d => (Der.read d.octets).toOption
  | concat c => some c.components

/-- Converts to the other form; `none` where the signature has the target form already. -/
def convert? : Signature → Conversion → Option (Reported Signature)
  | der d, .toConcat outputLength => some ((d.toConcat outputLength).map concat)
  | der d, .toConcatFor a => some ((d.toConcatFor a).map concat)
  | concat c, .toDer => some (c.toDer.map der)
  | der _, .toDer => none
  | concat _, .toConcat _ => none
  | concat _, .toConcatFor _ => none

end Signature

/-- The conversions from `s` on all succeed, each with the product beside it. -/
inductive Run : Signature → List (Conversion × Signature) → Prop where
  | nil {s : Signature} : Run s []
  | cons {s s' : Signature} {c : Conversion} {report : Reported Signature}
      {rest : List (Conversion × Signature)} : s.convert? c = some report →
      report.result = .ok s' → Run s' rest → Run s ((c, s') :: rest)

end EcdsaCodec
