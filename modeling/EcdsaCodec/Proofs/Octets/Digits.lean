import EcdsaCodec.Components
import EcdsaCodec.Octets.Value

/-!
# EcdsaCodec.Proofs.Octets.Digits

Trimmed strings as numbers. Without its leading zeros a string is the base-256 digits of its value,
the last digit first (`digits_value`), so a value has one trimmed string.

* `trim_eq_trim_iff`: strings are trimmed to the same string exactly if their values agree.
* `length_trim`: the length of a trimmed string is the least number of octets for its value.
-/

namespace EcdsaCodec
namespace Octets

/-- The octets that a number takes, none for zero. -/
def octetCount (v : Nat) : Nat := (Nat.digits 256 v).length

theorem octetCount_le_iff {v width : Nat} : octetCount v ≤ width ↔ v < 256 ^ width :=
  Nat.digits_length_le_iff (by decide) v

theorem isLeast_octetCount (v : Nat) : IsLeast {width | v < 256 ^ width} (octetCount v) :=
  ⟨octetCount_le_iff.1 (Nat.le_refl _), fun _ holds => octetCount_le_iff.2 holds⟩

theorem value_eq_ofDigits (bs : Octets) :
    value bs = Nat.ofDigits 256 (bs.reverse.map UInt8.toNat) := by
  induction bs using List.reverseRecOn with
  | nil => rfl
  | append_singleton bs b ih =>
    rw [value_append_singleton, ih, List.reverse_append, List.reverse_singleton,
      List.singleton_append, List.map_cons, Nat.ofDigits_cons]
    ring

theorem digits_value_trim (bs : Octets) :
    Nat.digits 256 (value bs.trim) = bs.trim.reverse.map UInt8.toNat := by
  rw [value_eq_ofDigits]
  apply Nat.digits_ofDigits 256 (by decide)
  · intro digit member
    obtain ⟨b, -, rfl⟩ := List.mem_map.1 member
    exact b.toNat_lt
  · intro nonempty zero
    -- the most significant digit is the first octet, which trimming leaves non-zero
    rcases trim_eq_nil_or_cons bs with ht | ⟨b, tail, first, ht⟩
    · simp [ht] at nonempty
    · have last : b.toNat = 0 := by simpa [ht] using zero
      exact first (UInt8.toNat_inj.1 last)

theorem digits_value (bs : Octets) :
    Nat.digits 256 bs.value = bs.trim.reverse.map UInt8.toNat := by
  rw [← value_trim, digits_value_trim]

theorem length_trim (bs : Octets) : bs.trim.length = octetCount bs.value := by
  rw [octetCount, digits_value, List.length_map, List.length_reverse]

theorem trim_eq_trim_iff {a b : Octets} : a.trim = b.trim ↔ a.value = b.value := by
  constructor
  · intro h
    rw [← value_trim a, h, value_trim]
  · intro h
    have digits := digits_value a
    rw [h, digits_value b] at digits
    have reversed := List.map_injective_iff.2 (fun _ _ => UInt8.toNat_inj.1) digits
    exact (List.reverse_injective reversed).symm

theorem eq_trim_iff {m bs : Octets} :
    m = bs.trim ↔ m.value = bs.value ∧ m.head? ≠ some 0 := by
  constructor
  · rintro rfl
    exact ⟨value_trim bs, head?_trim_ne_zero bs⟩
  · rintro ⟨same, head⟩
    rw [← trim_of_head?_ne head, trim_eq_trim_iff, same]

theorem trim_eq_nil_iff {bs : Octets} : bs.trim = [] ↔ bs.value = 0 := by
  rw [← trim_nil, trim_eq_trim_iff, value_nil]

end Octets

namespace Components

/-- Trimming forgets all of two strings but the numbers that they stand for. -/
theorem trim_eq_trim_iff {c d : Components} : c.trim = d.trim ↔ c.values = d.values := by
  rw [trim, trim, values, values, Components.mk.injEq, Prod.mk.injEq,
    Octets.trim_eq_trim_iff, Octets.trim_eq_trim_iff]

theorem width_trim (c : Components) :
    c.trim.width = max (Octets.octetCount c.r.value) (Octets.octetCount c.s.value) := by
  rw [width, trim_r, trim_s, Octets.length_trim, Octets.length_trim]

theorem width_trim_le_iff {c : Components} {width : Nat} :
    c.trim.width ≤ width ↔ c.r.value < 256 ^ width ∧ c.s.value < 256 ^ width := by
  rw [width_trim, Nat.max_le, Octets.octetCount_le_iff, Octets.octetCount_le_iff]

end Components
end EcdsaCodec
