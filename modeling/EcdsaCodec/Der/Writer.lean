import EcdsaCodec.Der.Framing

/-!
# EcdsaCodec.Der.Writer

Writes two unsigned numbers as a DER signature, each INTEGER in its shortest content. Contents
that would fill more than 255 octets together with their headers have no form here.
-/

namespace EcdsaCodec
namespace Der

inductive WriteFault where
  | oddLength
  | contentTooLong
  deriving DecidableEq, Repr

def WriteFault.reason : WriteFault → String
  | oddLength => "odd signature length"
  | contentTooLong => "SEQUENCE content longer than 255 bytes"

/--
The content length of the INTEGER for a number without leading zeros: one octet more than the
number where its top bit is set, since it would read as negative, and one octet for zero.
-/
def contentLength : Octets → Nat
  | [] => 1
  | b :: bs => if signBit ≤ b then bs.length + 2 else bs.length + 1

def content (magnitude : Octets) : Octets := magnitude.padTo (contentLength magnitude)

/-- Puts the INTEGER for a number without leading zeros behind what is already written. -/
def appendInteger (written magnitude : Octets) : Octets := written ++ integer (content magnitude)

def sequenceLength (c : Components) : Nat :=
  2 * integerHeaderLength + contentLength c.r + contentLength c.s

def write (c : Components) : Except WriteFault Octets :=
  if longFormOneOctetMax < sequenceLength c then
    .error .contentTooLong
  else
    .ok (appendInteger (appendInteger (sequenceHeader (sequenceLength c)) c.r) c.s)

theorem length_le_contentLength (magnitude : Octets) :
    magnitude.length ≤ contentLength magnitude := by
  cases magnitude with
  | nil => simp
  | cons b bs => simp only [contentLength]; split <;> simp

theorem contentLength_pos (magnitude : Octets) : 0 < contentLength magnitude := by
  cases magnitude with
  | nil => simp [contentLength]
  | cons b bs => simp only [contentLength]; split <;> simp

@[simp] theorem length_content (magnitude : Octets) :
    (content magnitude).length = contentLength magnitude := by
  have := length_le_contentLength magnitude
  simp only [content, Octets.length_padTo]
  omega

theorem appendInteger_eq (written magnitude : Octets) :
    appendInteger written magnitude =
      written ++ [integerTag, UInt8.ofNat (contentLength magnitude)] ++ content magnitude := by
  rw [appendInteger, integer, length_content, List.append_assoc]
  rfl

@[simp] theorem value_content (magnitude : Octets) :
    (content magnitude).value = magnitude.value := Octets.value_padTo _ _

end Der
end EcdsaCodec
