import Mathlib
import EcdsaCodec.Octets

/-!
# EcdsaCodec.Octets.Value

Values by powers of 256: what an octet contributes at its place, the bound that the width of a string
sets, and the value of a number written in a given width. In two's complement a first octet with its
top bit set takes one power off again, which makes the value negative.
-/

namespace EcdsaCodec
namespace Octets

theorem value_append (a b : Octets) : value (a ++ b) = value a * 256 ^ b.length + value b := by
  induction b using List.reverseRecOn with
  | nil => simp
  | append_singleton b x ih =>
    rw [← List.append_assoc, value_append_singleton, value_append_singleton, ih,
      List.length_append, List.length_singleton, pow_succ]
    ring

theorem value_cons (b : UInt8) (bs : Octets) :
    value (b :: bs) = b.toNat * 256 ^ bs.length + value bs := by
  rw [← List.singleton_append, value_append, value_singleton]

theorem value_lt (bs : Octets) : value bs < 256 ^ bs.length := by
  induction bs using List.reverseRecOn with
  | nil => simp
  | append_singleton bs b ih =>
    have hb : b.toNat < 256 := b.toNat_lt
    rw [value_append_singleton, List.length_append, List.length_singleton, pow_succ]
    omega

theorem mul_le_value_cons {b : UInt8} {k : Nat} (h : k ≤ b.toNat) (bs : Octets) :
    k * 256 ^ bs.length ≤ value (b :: bs) := by
  rw [value_cons]
  exact Nat.le_add_right_of_le (Nat.mul_le_mul_right _ h)

theorem value_cons_lt_mul {b : UInt8} {k : Nat} (h : b.toNat < k) (bs : Octets) :
    value (b :: bs) < k * 256 ^ bs.length := by
  have rest := value_lt bs
  have whole := Nat.mul_le_mul_right (256 ^ bs.length) (Nat.succ_le_of_lt h)
  rw [Nat.succ_mul] at whole
  rw [value_cons]
  omega

/-- Writing a number in `width` octets keeps it modulo `256 ^ width`. -/
theorem value_ofNat (width v : Nat) : value (ofNat width v) = v % 256 ^ width := by
  induction width generalizing v with
  | zero => simp [ofNat, Nat.mod_one]
  | succ width ih =>
    have last : (UInt8.ofNat v).toNat = v % 256 := by simp
    rw [ofNat, value_append_singleton, ih, last, pow_succ', Nat.mod_mul]
    ring

theorem ofNat_value (bs : Octets) : ofNat bs.length (value bs) = bs := by
  induction bs using List.reverseRecOn with
  | nil => rfl
  | append_singleton bs b ih =>
    have hb : b.toNat < 256 := b.toNat_lt
    have front : (value bs * 256 + b.toNat) / 256 = value bs := by omega
    have last : UInt8.ofNat (value bs * 256 + b.toNat) = b := by
      rw [← UInt8.toNat_inj, UInt8.toNat_ofNat']
      omega
    rw [value_append_singleton, List.length_append, List.length_singleton, ofNat, front, ih, last]

/-! ## Two's complement -/

theorem foldl_octets (start : Int) (bs : Octets) :
    bs.foldl (fun (v : Int) (d : UInt8) => v * 256 + d.toNat) start =
      start * 256 ^ bs.length + value bs := by
  induction bs using List.reverseRecOn with
  | nil => simp
  | append_singleton bs b ih =>
    rw [List.foldl_append, List.foldl_cons, List.foldl_nil, ih, value_append_singleton,
      List.length_append, List.length_singleton, pow_succ]
    push_cast
    ring

theorem signedValue_cons (b : UInt8) (bs : Octets) :
    signedValue (b :: bs) =
      value (b :: bs) - if 0x80 ≤ b then (256 : Int) ^ (bs.length + 1) else 0 := by
  rw [signedValue, foldl_octets, value_cons, pow_succ]
  push_cast
  split <;> ring

theorem signedValue_cons_lt_zero {b : UInt8} (h : 0x80 ≤ b) (bs : Octets) :
    signedValue (b :: bs) < 0 := by
  have below : (value (b :: bs) : Int) < 256 ^ (bs.length + 1) := by
    exact_mod_cast value_lt (b :: bs)
  rw [signedValue_cons, if_pos h]
  exact sub_neg.2 below

theorem signedValue_cons_of_lt {b : UInt8} (h : b < 0x80) (bs : Octets) :
    signedValue (b :: bs) = value (b :: bs) := by
  rw [signedValue_cons, if_neg (UInt8.not_le.2 h), sub_zero]

end Octets
end EcdsaCodec
