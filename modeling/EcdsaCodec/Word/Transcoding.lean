import EcdsaCodec.Transcoding
import EcdsaCodec.Word.Arithmetic

/-!
# EcdsaCodec.Word.Transcoding

The two conversions of `EcdsaCodec.Transcoding` in words of 64 bits: DER signatures are read by
position, and results are written into buffers of a computed length. `none` stands for a step with no
result, that is, one out of the bounds of a word, an octet or a buffer.
-/

namespace EcdsaCodec
namespace Word

open Der
open Transcoding (refuseDer refuseConcat)

/-- Where the contents of the two INTEGERs stand: R ends at S's tag, and S at the end. -/
structure Positions where
  rStart : Nat
  sTag : Nat
  sStart : Nat
  deriving DecidableEq, Repr

def bodyStart? (form : UInt8) : Option Nat :=
  if form = longFormOneOctet then some 3
  else if form = 0 ∨ shortFormMax < form.toNat then none
  else some 2

/-- Checks the lengths and tags behind the position of R's tag. -/
def locateFrom (der : Octets) (offset : Nat) : Option (Except ReadFault Positions) := do
  let rLength ← der[← add? offset 1]?
  if longFormBit ≤ rLength then
    some (.error .rLengthForm)
  else
    let rStart ← add? offset integerHeaderLength
    let sTag ← add? rStart rLength.toNat
    match der[← add? sTag 1]? with
    | none => some (.error .rExceedsSignature)
    | some sLength =>
      if longFormBit ≤ sLength then
        some (.error .sLengthForm)
      else
        let sStart ← add? sTag integerHeaderLength
        let declared ← der[← sub? offset 1]?
        let remaining ← sub? der.length offset
        let integers ← add? (← add? (← mul? 2 integerHeaderLength) rLength.toNat) sLength.toNat
        let first ← der[offset]?
        let second ← der[sTag]?
        if declared.toNat ≠ remaining then
          some (.error .remainingLength)
        else if declared.toNat ≠ integers then
          some (.error .integerLengths)
        else if first ≠ integerTag ∨ second ≠ integerTag then
          some (.error .missingIntegerTag)
        else
          some (.ok ⟨rStart, sTag, sStart⟩)

def locate (der : Octets) : Option (Except ReadFault Positions) :=
  if der.length < minSignatureLength then
    some (.error .tooShort)
  else do
    let tag ← der[0]?
    let form ← der[1]?
    if tag ≠ sequenceTag then
      some (.error .missingSequenceTag)
    else
      match bodyStart? form with
      | none => some (.error .sequenceLengthForm)
      | some offset => locateFrom der offset

def trim? (bs : Octets) : Option Octets := slice? bs (bs.findIdx (fun b => b != 0)) bs.length

/-- Writes two numbers into a buffer of two halves, each half ending with its number. -/
def fill (nominal : Nat) (c : Components) : Option (Reported Octets) := do
  let width := max c.width nominal
  let length ← mul? 2 width
  let half ← overwrite? (List.replicate length 0) (← sub? width c.r.length) width c.r
  let whole ← overwrite? half (← sub? length c.s.length) length c.s
  some ⟨.ok whole, if nominal < width then [.widened width nominal] else []⟩

def concatOfDer (der : Octets) (outputLength : Nat) : Option (Reported Octets) := do
  match ← locate der with
  | .error fault => some (refuseDer fault)
  | .ok p =>
    let r ← trim? (← slice? der p.rStart p.sTag)
    let s ← trim? (← slice? der p.sStart der.length)
    fill (outputLength / 2) ⟨r, s⟩

def contentLength? (magnitude : Octets) : Option Nat :=
  match magnitude.head? with
  | none => some 1
  | some first => if signBit ≤ first then add? magnitude.length 1 else some magnitude.length

/-- Grows the buffer by an INTEGER of this content length, with the number at its end. -/
def appendInteger? (written magnitude : Octets) (contentLength : Nat) : Option Octets := do
  let opened := written ++ [integerTag, ← octet? contentLength]
  let padded ← sub? (← add? opened.length contentLength) magnitude.length
  some (resize opened padded ++ magnitude)

/-- The header of a SEQUENCE. Room for the whole signature is set aside before it is written. -/
def sequenceHeader? (length : Nat) : Option Octets := do
  let _ ← add? (if shortFormMax < length then 3 else 2) length
  let octet ← octet? length
  some (if shortFormMax < length then [sequenceTag, longFormOneOctet, octet]
    else [sequenceTag, octet])

def write? (c : Components) : Option (Except WriteFault Octets) := do
  let rLength ← contentLength? c.r
  let sLength ← contentLength? c.s
  let length ← add? (← add? (← mul? 2 integerHeaderLength) rLength) sLength
  if longFormOneOctetMax < length then
    some (.error .contentTooLong)
  else
    let header ← sequenceHeader? length
    let opened ← appendInteger? header c.r rLength
    let der ← appendInteger? opened c.s sLength
    some (.ok der)

def derOfConcat (concat : Octets) : Option (Reported Octets) :=
  if concat.length % 2 ≠ 0 then
    some (refuseConcat .oddLength)
  else do
    let r ← trim? (← slice? concat 0 (concat.length / 2))
    let s ← trim? (← slice? concat (concat.length / 2) concat.length)
    match ← write? ⟨r, s⟩ with
    | .error fault => some (refuseConcat fault)
    | .ok der => some (.silent (.ok der))

end Word
end EcdsaCodec
