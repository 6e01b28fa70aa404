import WebCrawl.Frontier.Filter

/-!
# Hashing in trials

Bloom filters have their sizing and their hash functions from elsewhere. In trials they have those
of this module: the size is the usual one for the rate, and the positions of an identity follow from
two numbers that are mixed from its characters. No result rests on them.
-/

namespace WebCrawl.Simulation

/-- For a rate of at most `2 ^ -k` there are `k` positions per identity, each in a slice of its own
that is half full once the expected identities are recorded. -/
structure BloomSize where
  bits : Nat
  positionsPerIdentity : Nat
  roomy : 0 < bits

/-- Whole bytes that hold `slices` slices for the expected number of identities. -/
def BloomSize.forRate (expected : Nat) (rate : Float) : BloomSize :=
  let slices := max 1 (Float.log2 (1.0 / rate)).ceil.toUInt64.toNat
  let slice := (expected.toFloat / Float.log 2.0).ceil.toUInt64.toNat
  ⟨max 8 ((slices * slice + 7) / 8 * 8), slices,
    Nat.lt_of_lt_of_le (Nat.succ_pos 7) (Nat.le_max_left 8 _)⟩

def mixBound : Nat := 0x10000000000000000

/-- A number from the characters of an identity, different for different seeds. -/
def mixIdentity (seed : Nat) (identity : String) : Nat :=
  let step (h : Nat) (c : Char) : Nat :=
    let h := Nat.xor h (c.toNat + 1) * 0x100000001b3 % mixBound
    Nat.xor h (h >>> 29)
  let start := Nat.xor 0xcbf29ce484222325 (seed * 0x9e3779b97f4a7c15 % mixBound)
  let h := identity.toList.foldl step start
  let h := Nat.xor h (h >>> 32) * 0xd6e8feb86659fd93 % mixBound
  Nat.xor h (h >>> 32)

namespace BloomSize

def positions (size : BloomSize) (identity : String) : List Nat :=
  let first := mixIdentity 1 identity
  let stride := mixIdentity 2 identity
  (List.range size.positionsPerIdentity).map fun k => (first + k * stride) % size.bits

theorem positions_lt (size : BloomSize) (identity : String) :
    ∀ p ∈ size.positions identity, p < size.bits := by
  intro p member
  obtain ⟨k, -, rfl⟩ := List.mem_map.mp member
  exact Nat.mod_lt _ size.roomy

def layout (size : BloomSize) : BloomLayout := ⟨size.bits, size.positions, size.positions_lt⟩

end BloomSize

instance : BloomScheme where
  layout expected rate := .ok (BloomSize.forRate expected rate).layout
  exists_layout _ _ _ _ := ⟨_, rfl⟩

end WebCrawl.Simulation
