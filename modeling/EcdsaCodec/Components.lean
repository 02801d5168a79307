import EcdsaCodec.Octets

/-!
# EcdsaCodec.Components

The two numbers of an ECDSA signature, each as an octet string, and the form in which they stand
side by side: two halves of one width, R first.

* `Components.join`    — both numbers right-aligned in halves of a given width.
* `Components.ofConcat` — the halves of a string, the middle octet of an odd one going to S.

`ofConcat_join` says that joining loses nothing when both numbers fit in the width.
-/

namespace EcdsaCodec

/-- The numbers R and S of a signature, each as an octet string of any width. -/
structure Components where
  r : Octets
  s : Octets
  deriving DecidableEq, Repr

namespace Components

def values (c : Components) : Nat × Nat := (c.r.value, c.s.value)

def trim (c : Components) : Components := ⟨c.r.trim, c.s.trim⟩

/-- The least width that holds either string as it is. -/
def width (c : Components) : Nat := max c.r.length c.s.length

def join (width : Nat) (c : Components) : Octets := c.r.padTo width ++ c.s.padTo width

def ofConcat (concat : Octets) : Components :=
  ⟨concat.take (concat.length / 2), concat.drop (concat.length / 2)⟩

@[simp] theorem trim_r (c : Components) : c.trim.r = c.r.trim := rfl

@[simp] theorem trim_s (c : Components) : c.trim.s = c.s.trim := rfl

@[simp] theorem values_trim (c : Components) : c.trim.values = c.values := by
  simp [values]

@[simp] theorem trim_trim (c : Components) : c.trim.trim = c.trim := by
  simp [trim]

theorem length_join {width : Nat} {c : Components} (h : c.width ≤ width) :
    (c.join width).length = 2 * width := by
  have hr : c.r.length ≤ width := Nat.le_trans (Nat.le_max_left _ _) h
  have hs : c.s.length ≤ width := Nat.le_trans (Nat.le_max_right _ _) h
  simp only [join, List.length_append, Octets.length_padTo]
  omega

theorem length_join_mod_two {width : Nat} {c : Components} (h : c.width ≤ width) :
    (c.join width).length % 2 = 0 := by
  rw [length_join h]
  omega

theorem length_padTo_r {width : Nat} {c : Components} (h : c.width ≤ width) :
    (c.r.padTo width).length = width := by
  have hr : c.r.length ≤ width := Nat.le_trans (Nat.le_max_left _ _) h
  rw [Octets.length_padTo]
  exact Nat.max_eq_left hr

theorem take_join {width : Nat} {c : Components} (h : c.width ≤ width) :
    (c.join width).take width = c.r.padTo width := by
  rw [join, List.take_left' (length_padTo_r h)]

theorem drop_join {width : Nat} {c : Components} (h : c.width ≤ width) :
    (c.join width).drop width = c.s.padTo width := by
  rw [join, List.drop_left' (length_padTo_r h)]

/-- Joined in a wider width, both halves begin with as many zeros more. -/
theorem halves_join_of_le {narrow wide : Nat} {c : Components} (fits : c.width ≤ narrow)
    (h : narrow ≤ wide) :
    (c.join wide).take wide = List.replicate (wide - narrow) 0 ++ (c.join narrow).take narrow ∧
      (c.join wide).drop wide = List.replicate (wide - narrow) 0 ++ (c.join narrow).drop narrow := by
  have hr : c.r.length ≤ narrow := Nat.le_trans (Nat.le_max_left _ _) fits
  have hs : c.s.length ≤ narrow := Nat.le_trans (Nat.le_max_right _ _) fits
  have wider := Nat.le_trans fits h
  rw [take_join wider, drop_join wider, take_join fits, drop_join fits]
  exact ⟨Octets.padTo_of_le_of_le hr h, Octets.padTo_of_le_of_le hs h⟩

theorem ofConcat_append {r s : Octets} (half : (r ++ s).length / 2 = r.length) :
    ofConcat (r ++ s) = ⟨r, s⟩ := by
  rw [ofConcat, half, List.take_left, List.drop_left]

theorem ofConcat_join {width : Nat} {c : Components} (h : c.width ≤ width) :
    ofConcat (c.join width) = ⟨c.r.padTo width, c.s.padTo width⟩ := by
  have half : (c.join width).length / 2 = (c.r.padTo width).length := by
    rw [length_join h, length_padTo_r h]
    omega
  exact ofConcat_append half

theorem values_ofConcat_join {width : Nat} {c : Components} (h : c.width ≤ width) :
    (ofConcat (c.join width)).values = c.values := by
  rw [ofConcat_join h]
  simp only [values, Octets.value_padTo]

@[simp] theorem length_ofConcat_r (concat : Octets) :
    (ofConcat concat).r.length = concat.length / 2 := by
  simp only [ofConcat, List.length_take]
  omega

@[simp] theorem length_ofConcat_s (concat : Octets) :
    (ofConcat concat).s.length = concat.length - concat.length / 2 := List.length_drop

@[simp] theorem append_ofConcat (concat : Octets) :
    (ofConcat concat).r ++ (ofConcat concat).s = concat :=
  List.take_append_drop _ _

end Components
end EcdsaCodec
