import EcdsaCodec.Curve
import EcdsaCodec.Octets

/-!
# EcdsaCodec.KeyPair

Key pairs on a curve, and their two summaries for a reader. A summary depends on the curve and on the
length of the public key only: the secret key is redacted (`summary_congr`).
-/

namespace EcdsaCodec

/-- A key pair; the octets of the keys are not looked into. -/
structure KeyPair where
  curve : Curve
  publicKey : Octets
  secretKey : Octets
  deriving DecidableEq, Repr

namespace KeyPair

def facts (p : KeyPair) : List (String × String) :=
  [("curve", p.curve.identifier),
   ("public_key_len", toString p.publicKey.length),
   ("secret_key", "\"[REDACTED]\"")]

def summary (p : KeyPair) : String :=
  "EcKeyPair \x7b "
    ++ String.intercalate ", " (p.facts.map (fun (name, value) => name ++ ": " ++ value))
    ++ " \x7d"

def longSummary (p : KeyPair) : String :=
  "EcKeyPair \x7b\n"
    ++ String.join (p.facts.map (fun (name, value) => "    " ++ name ++ ": " ++ value ++ ",\n"))
    ++ "\x7d"

theorem facts_congr {p q : KeyPair} (hc : p.curve = q.curve)
    (hl : p.publicKey.length = q.publicKey.length) : p.facts = q.facts := by
  simp [facts, hc, hl]

theorem summary_congr {p q : KeyPair} (hc : p.curve = q.curve)
    (hl : p.publicKey.length = q.publicKey.length) :
    p.summary = q.summary ∧ p.longSummary = q.longSummary := by
  simp [summary, longSummary, facts_congr hc hl]

end KeyPair
end EcdsaCodec
