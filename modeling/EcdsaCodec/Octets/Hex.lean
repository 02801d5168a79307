import EcdsaCodec.Octets

/-!
# EcdsaCodec.Octets.Hex

Octet strings as hexadecimal text: two digits an octet, the high one first. Lower case is written,
and either case is read; `ofHexDigits?_toHexDigits` says that what is written reads back.
-/

namespace EcdsaCodec
namespace Octets

def hexDigit (n : Nat) : Char :=
  if n < 10 then Char.ofNat (48 + n) else Char.ofNat (87 + n)

def hexValue? (c : Char) : Option Nat :=
  let n := c.toNat
  if 48 ≤ n ∧ n ≤ 57 then some (n - 48)
  else if 65 ≤ n ∧ n ≤ 70 then some (n - 55)
  else if 97 ≤ n ∧ n ≤ 102 then some (n - 87)
  else none

def toHexDigits : Octets → List Char
  | [] => []
  | b :: bs => hexDigit (b.toNat / 16) :: hexDigit (b.toNat % 16) :: toHexDigits bs

/-- The octets that an even number of digits stands for. -/
def ofHexDigits? : List Char → Option Octets
  | [] => some []
  | [_] => none
  | c :: d :: rest =>
    match hexValue? c, hexValue? d, ofHexDigits? rest with
    | some high, some low, some bs => some (UInt8.ofNat (16 * high + low) :: bs)
    | _, _, _ => none

def toHex (bs : Octets) : String := String.ofList bs.toHexDigits

def ofHex? (text : String) : Option Octets := ofHexDigits? text.toList

theorem hexValue?_hexDigit {n : Nat} (h : n < 16) : hexValue? (hexDigit n) = some n := by
  revert n
  decide

@[simp] theorem ofHexDigits?_toHexDigits (bs : Octets) : ofHexDigits? bs.toHexDigits = some bs := by
  induction bs with
  | nil => rfl
  | cons b bs ih =>
    have hb : b.toNat < 256 := b.toNat_lt
    have high := hexValue?_hexDigit (show b.toNat / 16 < 16 by omega)
    have low := hexValue?_hexDigit (show b.toNat % 16 < 16 by omega)
    simp only [toHexDigits, ofHexDigits?, high, low, ih, Nat.div_add_mod]
    simp

theorem ofHex?_toHex (bs : Octets) : ofHex? bs.toHex = some bs := by
  simp [ofHex?, toHex]

end Octets
end EcdsaCodec
