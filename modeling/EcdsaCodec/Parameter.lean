import EcdsaCodec.Algorithm
import EcdsaCodec.Der.Framing

/-!
# EcdsaCodec.Parameter

The published parameters, each under its registered name.
-/

namespace EcdsaCodec
namespace Parameter

def framing : List (String × Document) :=
  [("DER_SEQUENCE_TAG", .number Der.sequenceTag.toNat 0),
   ("DER_INTEGER_TAG", .number Der.integerTag.toNat 0),
   ("DER_LONG_FORM_ONE_BYTE", .number Der.longFormOneOctet.toNat 0),
   ("DER_LONG_FORM_BIT", .number Der.longFormBit.toNat 0),
   ("DER_SIGN_BIT", .number Der.signBit.toNat 0),
   ("DER_SHORT_FORM_MAX", .number Der.shortFormMax 0),
   ("DER_LONG_FORM_ONE_BYTE_MAX", .number Der.longFormOneOctetMax 0),
   ("DER_MIN_SIGNATURE_SIZE", .number Der.minSignatureLength 0),
   ("DER_INTEGER_HEADER_SIZE", .number Der.integerHeaderLength 0)]

/-- The sizes and names of a curve, under the number that its parameters bear. -/
def ofCurve (c : Curve) (label : String) : List (String × Document) :=
  [("ECDSA_" ++ label ++ "_FIELD_SIZE", .number c.fieldSize 0),
   (label ++ "_CURVE_NAME", .text c.asn1Name),
   (label ++ "_JWK_NAME", .text c.jwkName),
   (c.algorithm.name ++ "_SIGNATURE_SIZE", .number c.signatureLength 0)]

def all : List (String × Document) :=
  framing ++ Curve.all.flatMap (fun c => ofCurve c c.identifier)

def find? (name : String) : Option Document := all.lookup name

end Parameter
end EcdsaCodec
