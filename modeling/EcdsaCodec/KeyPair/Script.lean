import EcdsaCodec.KeyPair.Generation
import EcdsaCodec.KeyPair.RandomSource

/-!
# EcdsaCodec.KeyPair.Script

Generators that follow a script, for rehearsing key pair generation, and calls of them that share
one random source.
-/

namespace EcdsaCodec

inductive KeyMaterial where
  | given (octets : Octets)
  | drawn (count : Nat)
  /-- As many octets, drawn at once, as the requested curve asks for. -/
  | standard
  deriving DecidableEq, Repr

def KeyMaterial.make (standardLength : Nat) (src : RandomSource) :
    KeyMaterial → Octets × RandomSource
  | given octets => (octets, src)
  | drawn count => src.draw count
  | standard => src.draw standardLength

inductive Script where
  | fail (e : Error)
  /-- Makes the secret key and then the public one, on `curve?` or else on the requested curve. -/
  | pair (curve? : Option Curve) (secretKey publicKey : KeyMaterial)
  deriving DecidableEq, Repr

def Script.generator (script : Script) : Generator RandomSource where
  generate requested src :=
    match script with
    | fail e => (.error e, src)
    | pair curve? secretKey publicKey =>
      match secretKey.make requested.fieldSize src with
      | (secretOctets, src₁) =>
        match publicKey.make (1 + requested.signatureLength) src₁ with
        | (publicOctets, src₂) =>
          (.ok ⟨curve?.getD requested, publicOctets, secretOctets⟩, src₂)

/-- A call of the generation for an algorithm that is given by its text. -/
inductive Call where
  | shared (script : Script) (algorithm : String)
  | lent (script : Script) (algorithm : String)
  | system (script : Script) (algorithm : String)
  | systemDefault (script : Script)
  deriving DecidableEq, Repr

structure CallAnswer where
  report : Reported KeyPair
  asked : List Curve

namespace Call

def ask (g : Generator RandomSource) (algorithm : String) (src : RandomSource) :
    CallAnswer × RandomSource :=
  match Algorithm.parse algorithm with
  | .error e => (⟨.silent (.error e), []⟩, src)
  | .ok a =>
    match generateFor g.recorded a (src, []) with
    | (report, src', asked) => (⟨report, asked⟩, src')

/-- Runs a call: `system` stands for the octets that the system would give, `src` is shared. -/
def run (system src : RandomSource) : Call → CallAnswer × RandomSource
  | shared script algorithm => ask script.generator algorithm src
  | lent script algorithm => ask script.generator.lent algorithm src
  | Call.system script algorithm => ((ask script.generator algorithm system).1, src)
  | systemDefault script => ((ask script.generator defaultAlgorithm.name system).1, src)

end Call
end EcdsaCodec
