import EcdsaCodec.Octets

/-!
# EcdsaCodec.Word.Arithmetic

Arithmetic on words of 64 bits and access to buffers by position. A step that would leave the words,
go below zero, reach outside a buffer or lose bits in an octet has no result: each operation gives
`some` just within its bounds.
-/

namespace EcdsaCodec
namespace Word

def limit : Nat := 0x10000000000000000

def add? (a b : Nat) : Option Nat := if a + b < limit then some (a + b) else none

def mul? (a b : Nat) : Option Nat := if a * b < limit then some (a * b) else none

def sub? (a b : Nat) : Option Nat := if b ≤ a then some (a - b) else none

def octet? (n : Nat) : Option UInt8 := if n < 256 then some (UInt8.ofNat n) else none

/-- The octets from one position up to another, if both lie in the buffer in that order. -/
def slice? (buffer : Octets) (start stop : Nat) : Option Octets :=
  if start ≤ stop ∧ stop ≤ buffer.length then some ((buffer.take stop).drop start) else none

/-- Replaces the octets between two positions of the buffer by as many others. -/
def overwrite? (buffer : Octets) (start stop : Nat) (bs : Octets) : Option Octets :=
  if start ≤ stop ∧ stop ≤ buffer.length ∧ stop - start = bs.length then
    some (buffer.take start ++ bs ++ buffer.drop stop)
  else
    none

/-- The buffer cut off at `length`, or filled up to it with zeros. -/
def resize (buffer : Octets) (length : Nat) : Octets :=
  buffer.take length ++ List.replicate (length - buffer.length) 0

theorem add?_eq_some_iff {a b c : Nat} : add? a b = some c ↔ a + b < limit ∧ c = a + b := by
  simp [add?, eq_comm]

theorem mul?_eq_some_iff {a b c : Nat} : mul? a b = some c ↔ a * b < limit ∧ c = a * b := by
  simp [mul?, eq_comm]

theorem sub?_eq_some_iff {a b c : Nat} : sub? a b = some c ↔ b ≤ a ∧ c = a - b := by
  simp [sub?, eq_comm]

theorem slice?_eq_some_iff {buffer bs : Octets} {start stop : Nat} :
    slice? buffer start stop = some bs
      ↔ (start ≤ stop ∧ stop ≤ buffer.length) ∧ bs = (buffer.take stop).drop start := by
  simp [slice?, eq_comm]

/-! ## Steps within the bounds -/

section

variable {a b n start stop length : Nat} {buffer bs : Octets}

theorem bind_of_eq_some {α β : Type} {x : Option α} {r : α} (h : x = some r)
    (next : α → Option β) : x >>= next = next r := by
  rw [h]
  rfl

theorem add?_of_lt (h : a + b < limit) : add? a b = some (a + b) := add?_eq_some_iff.2 ⟨h, rfl⟩

theorem mul?_of_lt (h : a * b < limit) : mul? a b = some (a * b) := mul?_eq_some_iff.2 ⟨h, rfl⟩

theorem sub?_of_le (h : b ≤ a) : sub? a b = some (a - b) := sub?_eq_some_iff.2 ⟨h, rfl⟩

theorem octet?_of_lt (h : n < 256) : octet? n = some (UInt8.ofNat n) := by
  simp [octet?, h]

theorem slice?_of_le (ordered : start ≤ stop) (inside : stop ≤ buffer.length) :
    slice? buffer start stop = some ((buffer.take stop).drop start) :=
  slice?_eq_some_iff.2 ⟨⟨ordered, inside⟩, rfl⟩

theorem overwrite?_of_le (ordered : start ≤ stop) (inside : stop ≤ buffer.length)
    (fits : stop - start = bs.length) :
    overwrite? buffer start stop bs = some (buffer.take start ++ bs ++ buffer.drop stop) := by
  simp [overwrite?, ordered, inside, fits]

theorem resize_of_le (h : buffer.length ≤ length) :
    resize buffer length = buffer ++ List.replicate (length - buffer.length) 0 := by
  simp [resize, List.take_of_length_le h]

end

end Word
end EcdsaCodec
