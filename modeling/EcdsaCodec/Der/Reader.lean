import EcdsaCodec.Der.Framing

/-!
# EcdsaCodec.Der.Reader

Reads the contents of the two INTEGERs out of a DER signature. The outer length may be in short form
or, minimal or not, in the long form with one length octet; the INTEGER lengths must be in short
form; every declared length must agree with the octets that are there.

A string with several faults is answered by the one whose constructor of `ReadFault` comes first: the
forms of all lengths are looked at before any two lengths are compared, and the INTEGER tags last.
-/

namespace EcdsaCodec
namespace Der

inductive ReadFault where
  | tooShort
  | missingSequenceTag
  | sequenceLengthForm
  | rLengthForm
  | rExceedsSignature
  | sLengthForm
  | remainingLength
  | integerLengths
  | missingIntegerTag
  deriving DecidableEq, Repr

def ReadFault.reason : ReadFault → String
  | tooShort => "signature shorter than 8 bytes"
  | missingSequenceTag => "missing SEQUENCE tag"
  | sequenceLengthForm => "unsupported SEQUENCE length encoding"
  | rLengthForm => "unsupported INTEGER length encoding for R"
  | rExceedsSignature => "R length exceeds signature"
  | sLengthForm => "unsupported INTEGER length encoding for S"
  | remainingLength => "SEQUENCE length does not match remaining bytes"
  | integerLengths => "SEQUENCE length does not match INTEGER lengths"
  | missingIntegerTag => "missing INTEGER tag"

/-- The declared length of the SEQUENCE, and the octets behind its header. -/
def readHeader : Octets → Except ReadFault (Nat × Octets)
  | tag :: form :: rest =>
    if tag ≠ sequenceTag then
      .error .missingSequenceTag
    else if form = longFormOneOctet then
      match rest with
      | length :: body => .ok (length.toNat, body)
      | [] => .error .tooShort
    else if form = 0 ∨ shortFormMax < form.toNat then
      .error .sequenceLengthForm
    else
      .ok (form.toNat, rest)
  | _ => .error .tooShort

/-- The contents of two INTEGERs that fill `body` and add up to the declared length. -/
def readBody (declared : Nat) (body : Octets) : Except ReadFault Components :=
  match body with
  | rTag :: rLength :: rest =>
    if longFormBit ≤ rLength then
      .error .rLengthForm
    else
      match rest.drop rLength.toNat with
      | sTag :: sLength :: s =>
        if longFormBit ≤ sLength then
          .error .sLengthForm
        else if declared ≠ body.length then
          .error .remainingLength
        else if declared ≠ 2 * integerHeaderLength + rLength.toNat + sLength.toNat then
          .error .integerLengths
        else if rTag ≠ integerTag ∨ sTag ≠ integerTag then
          .error .missingIntegerTag
        else
          .ok ⟨rest.take rLength.toNat, s⟩
      | _ => .error .rExceedsSignature
  | _ => .error .tooShort

/-- The contents of the two INTEGERs of a DER signature, as they stand there. -/
def read (der : Octets) : Except ReadFault Components :=
  if der.length < minSignatureLength then
    .error .tooShort
  else
    match readHeader der with
    | .error fault => .error fault
    | .ok (declared, body) => readBody declared body

end Der
end EcdsaCodec
