/-!
# EcdsaCodec.Octets

Octet strings, read as unsigned big-endian numbers:

* `Octets.value`   — the number that an octet string stands for.
* `Octets.ofNat`   — the octet string of a given width that stands for a number.
* `Octets.trim`    — an octet string without its leading zeros, the shortest of its value.
* `Octets.padTo`   — an octet string right-aligned in a zero-filled field.
* `Octets.signedValue` — the number that it stands for in two's complement.

Neither trimming nor padding changes the value (`value_trim`, `value_padTo`), and a padded string is
trimmed to what the string itself is trimmed to (`trim_padTo`).
-/

namespace EcdsaCodec

/-- A string of octets, the most significant one first where it stands for a number. -/
abbrev Octets := List UInt8

namespace Octets

/-- The unsigned big-endian value; the empty string stands for zero. -/
def value (bs : Octets) : Nat := bs.foldl (fun v b => v * 256 + b.toNat) 0

/-- The last `width` big-endian octets of a number. -/
def ofNat : Nat → Nat → Octets
  | 0, _ => []
  | width + 1, v => ofNat width (v / 256) ++ [UInt8.ofNat v]

/-- Drops the leading zeros. Zero itself comes back as the empty string. -/
def trim : Octets → Octets
  | [] => []
  | b :: bs => if b = 0 then trim bs else b :: bs

/-- Puts zeros in front up to `width`; a string that is already wider stays as it is. -/
def padTo (width : Nat) (bs : Octets) : Octets :=
  List.replicate (width - bs.length) 0 ++ bs

/-- The two's-complement big-endian value: the first octet counts from -128 to 127. -/
def signedValue : Octets → Int
  | [] => 0
  | b :: bs =>
    bs.foldl (fun v d => v * 256 + d.toNat) (if 0x80 ≤ b then (b.toNat : Int) - 256 else b.toNat)

/-! ## Values -/

@[simp] theorem value_nil : value [] = 0 := rfl

theorem value_singleton (b : UInt8) : value [b] = b.toNat := by
  simp [value]

theorem value_append_singleton (bs : Octets) (b : UInt8) :
    value (bs ++ [b]) = value bs * 256 + b.toNat := by
  simp [value]

@[simp] theorem value_zero_cons (bs : Octets) : value (0 :: bs) = value bs := by
  simp [value]

@[simp] theorem value_replicate_zero_append (n : Nat) (bs : Octets) :
    value (List.replicate n 0 ++ bs) = value bs := by
  induction n with
  | zero => rfl
  | succ n ih => simpa [List.replicate_succ] using ih

/-! ## Trimming -/

@[simp] theorem trim_nil : trim [] = [] := rfl

@[simp] theorem trim_zero_cons (bs : Octets) : trim (0 :: bs) = trim bs := by
  simp [trim]

theorem trim_cons_of_ne {b : UInt8} (h : b ≠ 0) (bs : Octets) : trim (b :: bs) = b :: bs := by
  simp [trim, h]

@[simp] theorem value_trim (bs : Octets) : value (trim bs) = value bs := by
  induction bs with
  | nil => rfl
  | cons b bs ih =>
    by_cases h : b = 0
    · subst h; simp [ih]
    · rw [trim_cons_of_ne h]

theorem trim_suffix (bs : Octets) : trim bs <:+ bs := by
  induction bs with
  | nil => exact List.suffix_rfl
  | cons b bs ih =>
    by_cases h : b = 0
    · subst h
      rw [trim_zero_cons]
      exact ih.trans (List.suffix_cons 0 bs)
    · simp [trim_cons_of_ne h]

theorem length_trim_le (bs : Octets) : (trim bs).length ≤ bs.length := (trim_suffix bs).length_le

theorem head?_trim_ne_zero (bs : Octets) : (trim bs).head? ≠ some 0 := by
  induction bs with
  | nil => simp
  | cons b bs ih =>
    by_cases h : b = 0
    · subst h; simpa using ih
    · simp [trim_cons_of_ne h, h]

theorem trim_of_head?_ne {bs : Octets} (h : bs.head? ≠ some 0) : trim bs = bs := by
  cases bs with
  | nil => rfl
  | cons b bs => exact trim_cons_of_ne (fun zero => h (congrArg some zero)) bs

theorem trim_eq_nil_or_cons (bs : Octets) : trim bs = [] ∨ ∃ b m, b ≠ 0 ∧ trim bs = b :: m := by
  have head := head?_trim_ne_zero bs
  cases ht : trim bs with
  | nil => exact .inl rfl
  | cons b m =>
    refine .inr ⟨b, m, ?_, rfl⟩
    rintro rfl
    exact head (by rw [ht]; rfl)

@[simp] theorem trim_trim (bs : Octets) : trim (trim bs) = trim bs :=
  trim_of_head?_ne (head?_trim_ne_zero bs)

@[simp] theorem trim_replicate_zero_append (n : Nat) (bs : Octets) :
    trim (List.replicate n 0 ++ bs) = trim bs := by
  induction n with
  | zero => rfl
  | succ n ih => simpa [List.replicate_succ] using ih

/-! ## Padding -/

@[simp] theorem length_padTo (width : Nat) (bs : Octets) :
    (padTo width bs).length = max width bs.length := by
  simp only [padTo, List.length_append, List.length_replicate]
  omega

@[simp] theorem value_padTo (width : Nat) (bs : Octets) : value (padTo width bs) = value bs := by
  simp [padTo]

@[simp] theorem trim_padTo (width : Nat) (bs : Octets) : trim (padTo width bs) = trim bs := by
  simp [padTo]

theorem padTo_of_le {width : Nat} {bs : Octets} (h : width ≤ bs.length) : padTo width bs = bs := by
  simp [padTo, Nat.sub_eq_zero_of_le h]

theorem padTo_zero_cons {width : Nat} {bs : Octets} (h : bs.length < width) :
    padTo width (0 :: bs) = padTo width bs := by
  have one : width - bs.length = width - (bs.length + 1) + 1 := by omega
  simp only [padTo, List.length_cons]
  rw [one, List.replicate_succ', List.append_assoc]
  rfl

theorem padTo_trim {width : Nat} {bs : Octets} (h : bs.length ≤ width) :
    padTo width bs.trim = padTo width bs := by
  induction bs with
  | nil => rfl
  | cons b bs ih =>
    by_cases hb : b = 0
    · subst hb
      rw [trim_zero_cons, padTo_zero_cons h]
      exact ih (Nat.le_of_succ_le h)
    · rw [trim_cons_of_ne hb]

theorem padTo_of_le_of_le {narrow wide : Nat} {bs : Octets} (fits : bs.length ≤ narrow)
    (h : narrow ≤ wide) : padTo wide bs = List.replicate (wide - narrow) 0 ++ padTo narrow bs := by
  have zeros : wide - narrow + (narrow - bs.length) = wide - bs.length := by omega
  rw [padTo, padTo, ← List.append_assoc, List.replicate_append_replicate, zeros]

end Octets
end EcdsaCodec
