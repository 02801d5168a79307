import EcdsaCodec.Der.Acceptance
import EcdsaCodec.KeyPair.Script
import EcdsaCodec.Octets.Hex
import EcdsaCodec.Octets.Value
import EcdsaCodec.Parameter
import EcdsaCodec.Word.Transcoding
import EcdsaCodec.Workbench
import EcdsaCodec.Proofs.Der.Content
import EcdsaCodec.Proofs.Der.Frame
import EcdsaCodec.Proofs.Transcoding
import EcdsaCodec.Proofs.Language
import EcdsaCodec.Proofs.RoundTrip
import EcdsaCodec.Proofs.Canonical
import EcdsaCodec.Proofs.Octets.Digits
import EcdsaCodec.Proofs.Signature
import EcdsaCodec.Proofs.Values
import EcdsaCodec.Proofs.NormalForm
import EcdsaCodec.Proofs.Signature.Run
import EcdsaCodec.Proofs.Signature.Width
import EcdsaCodec.Proofs.Reading
import EcdsaCodec.Proofs.Word.Positions
import EcdsaCodec.Proofs.Word.Transcoding
import EcdsaCodec.Proofs.Diagnostics
import EcdsaCodec.Proofs.Signature.Growth
import EcdsaCodec.Proofs.Halves
import EcdsaCodec.Proofs.Writing
import EcdsaCodec.Proofs.KeyPair.Generation
import EcdsaCodec.Proofs.Padding
import EcdsaCodec.Proofs.Names
import EcdsaCodec.Proofs.KeyPair.Delegation
import EcdsaCodec.Proofs.KeyPair.Secrecy
import EcdsaCodec.Proofs.Der.Integer
