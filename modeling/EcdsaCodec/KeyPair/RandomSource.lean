import EcdsaCodec.Octets

/-!
# EcdsaCodec.KeyPair.RandomSource

A random source for rehearsals: a fixed string of octets repeated without end, with a count of the
octets drawn so far.
-/

namespace EcdsaCodec

/-- A string to repeat, and how many octets have been drawn of it. -/
structure RandomSource where
  cycle : Octets
  drawn : Nat
  cycle_ne_nil : cycle ≠ []

namespace RandomSource

def ofCycle? (cycle : Octets) : Option RandomSource :=
  if h : cycle = [] then none else some ⟨cycle, 0, h⟩

def zeros : RandomSource := ⟨[0], 0, by simp⟩

def octetAt (src : RandomSource) (position : Nat) : UInt8 :=
  have : position % src.cycle.length < src.cycle.length :=
    Nat.mod_lt _ (List.length_pos_iff.2 src.cycle_ne_nil)
  src.cycle[position % src.cycle.length]

/-- The next `count` octets, and the source behind them. -/
def draw (count : Nat) (src : RandomSource) : Octets × RandomSource :=
  ((List.range count).map (fun i => src.octetAt (src.drawn + i)),
    { src with drawn := src.drawn + count })

end RandomSource
end EcdsaCodec
