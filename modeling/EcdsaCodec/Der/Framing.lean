import EcdsaCodec.Components

/-!
# EcdsaCodec.Der.Framing

The octets that frame the two INTEGERs of a DER signature: a SEQUENCE header in short form or in
the long form with one length octet, and a header of two octets before each INTEGER content.
-/

namespace EcdsaCodec
namespace Der

def sequenceTag : UInt8 := 0x30

def integerTag : UInt8 := 0x02

def longFormOneOctet : UInt8 := 0x81

/-- Set in the first length octet of every long form. -/
def longFormBit : UInt8 := 0x80

/-- Set in the first content octet of every negative INTEGER. -/
def signBit : UInt8 := 0x80

def shortFormMax : Nat := 127

def longFormOneOctetMax : Nat := 255

def minSignatureLength : Nat := 8

def integerHeaderLength : Nat := 2

/-- The header of a SEQUENCE whose content has `length` octets, in the shorter form that does. -/
def sequenceHeader (length : Nat) : Octets :=
  if length ≤ shortFormMax then
    [sequenceTag, UInt8.ofNat length]
  else
    [sequenceTag, longFormOneOctet, UInt8.ofNat length]

/-- An INTEGER with this content. Its length octet is the content's length modulo 256. -/
def integer (content : Octets) : Octets :=
  integerTag :: UInt8.ofNat content.length :: content

@[simp] theorem length_integer (content : Octets) :
    (integer content).length = content.length + integerHeaderLength := rfl

end Der
end EcdsaCodec
