import EcdsaCodec.Components

/-!
# EcdsaCodec.Der.Grammar

What a DER signature is, said without reading or writing one. Tags, length forms and limits stand
here as octets and numbers, apart from the names that reader and writer share for them.

* `Frames c d`       — `d` is a SEQUENCE of two INTEGERs with the contents `c`.
* `NonNegativeContent` — a content without a sign, in any number of octets.
* `MinimalContent`   — the shortest content of a non-negative INTEGER.
* `Canonical d`      — `d` frames minimal contents, under the shorter outer form that does.
-/

namespace EcdsaCodec
namespace Der

/-- The content of the SEQUENCE: two INTEGERs and nothing else. -/
def body (c : Components) : Octets :=
  [0x02, UInt8.ofNat c.r.length] ++ c.r ++ [0x02, UInt8.ofNat c.s.length] ++ c.s

/-- The shorter outer form for a content of this length. -/
def header (length : Nat) : Octets :=
  if length ≤ 127 then [0x30, UInt8.ofNat length] else [0x30, 0x81, UInt8.ofNat length]

/-- `d` is a SEQUENCE of two INTEGERs, all with lengths of a supported form. -/
inductive Frames (c : Components) : Octets → Prop where
  | short : c.r.length ≤ 127 → c.s.length ≤ 127 → (body c).length ≤ 127 →
      Frames c ([0x30, UInt8.ofNat (body c).length] ++ body c)
  | long : c.r.length ≤ 127 → c.s.length ≤ 127 → (body c).length ≤ 255 →
      Frames c ([0x30, 0x81, UInt8.ofNat (body c).length] ++ body c)

/-- Empty, or with a first octet that leaves the sign bit clear. -/
def NonNegativeContent : Octets → Prop
  | [] => True
  | b :: _ => b < 0x80

instance : DecidablePred NonNegativeContent
  | [] => inferInstanceAs (Decidable True)
  | b :: _ => inferInstanceAs (Decidable (b < 0x80))

/-- Not empty, not negative, and with a leading zero only where the sign needs one. -/
def MinimalContent : Octets → Prop
  | [] => False
  | [b] => b < 0x80
  | b :: b' :: _ => b < 0x80 ∧ (b = 0 → 0x80 ≤ b')

instance : DecidablePred MinimalContent
  | [] => inferInstanceAs (Decidable False)
  | [b] => inferInstanceAs (Decidable (b < 0x80))
  | b :: b' :: _ => inferInstanceAs (Decidable (b < 0x80 ∧ (b = 0 → 0x80 ≤ b')))

/-- `d` has minimal contents, and a long outer form only for more than 127 octets. -/
def Canonical (d : Octets) : Prop :=
  ∃ c, MinimalContent c.r ∧ MinimalContent c.s ∧ Frames c d ∧ d = header (body c).length ++ body c

@[simp] theorem length_body (c : Components) :
    (body c).length = 4 + c.r.length + c.s.length := by
  simp only [body, List.length_append, List.length_cons, List.length_nil]
  omega

end Der
end EcdsaCodec
