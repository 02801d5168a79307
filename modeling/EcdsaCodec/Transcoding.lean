import EcdsaCodec.Diagnostic

/-!
# EcdsaCodec.Transcoding

The two conversions between a DER signature and two halves side by side.

* `concatOfDer` — reads the INTEGERs as unsigned numbers and right-aligns both in halves of
  `outputLength / 2` octets, or wider ones where a number needs it: no number is cut.
* `derOfConcat` — writes both halves as unsigned numbers in their shortest INTEGERs.

A refusal is an `Error.invalidFormat` and one diagnostic, both with the reason of the fault.
-/

namespace EcdsaCodec
namespace Transcoding

def refuseDer (fault : Der.ReadFault) : Reported Octets :=
  ⟨.error (.invalidFormat "DER to concat" fault.reason), [.derRejected fault]⟩

def refuseConcat (fault : Der.WriteFault) : Reported Octets :=
  ⟨.error (.invalidFormat "concat to DER" fault.reason), [.concatRejected fault]⟩

/-- Two numbers side by side, in halves of `nominal` octets or of as many as a number needs. -/
def layOut (nominal : Nat) (c : Components) : Reported Octets :=
  let width := max c.width nominal
  ⟨.ok (c.join width), if nominal < width then [.widened width nominal] else []⟩

/-- The numbers of a DER signature side by side, `outputLength` octets if they fit in that. -/
def concatOfDer (der : Octets) (outputLength : Nat) : Reported Octets :=
  match Der.read der with
  | .error fault => refuseDer fault
  | .ok contents => layOut (outputLength / 2) contents.trim

def magnitudes (concat : Octets) : Except Der.WriteFault Components :=
  if concat.length % 2 ≠ 0 then .error .oddLength else .ok (Components.ofConcat concat).trim

/-- The DER signature of the two halves of a string. -/
def derOfConcat (concat : Octets) : Reported Octets :=
  match magnitudes concat with
  | .error fault => refuseConcat fault
  | .ok c =>
    match Der.write c with
    | .error fault => refuseConcat fault
    | .ok der => .silent (.ok der)

theorem concatOfDer_of_error {der : Octets} {fault : Der.ReadFault}
    (h : Der.read der = .error fault) (outputLength : Nat) :
    concatOfDer der outputLength = refuseDer fault := by
  simp [concatOfDer, h]

theorem concatOfDer_of_ok {der : Octets} {c : Components} (h : Der.read der = .ok c)
    (outputLength : Nat) : concatOfDer der outputLength = layOut (outputLength / 2) c.trim := by
  simp [concatOfDer, h]

theorem derOfConcat_of_odd {concat : Octets} (h : concat.length % 2 ≠ 0) :
    derOfConcat concat = refuseConcat .oddLength := by
  simp [derOfConcat, magnitudes, h]

end Transcoding
end EcdsaCodec
