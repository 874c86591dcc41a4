import TavernLayout.Random.Source

/-!
# Scripted sources

A source that answers from a given list of integers, over and over. Each answer is the next integer
reduced to what was asked for. A number of bits that cannot be asked for uses up an integer too.
-/

namespace TavernLayout

/-- The integers of a script and the number of them used so far. -/
structure Script where
  values : Array Int
  used : Nat := 0

namespace Script

/-- The next integer of the script; zero when it has none. -/
def take (s : Script) : Int × Script :=
  (s.values.getD (s.used % s.values.size) 0, { s with used := s.used + 1 })

/-- More bits than a number can have: two to the power of sixty-six. -/
def tooManyBits : Int := 0x40000000000000000

/-- A number of bits is not negative, and not too large. -/
def bitsFault (count : Int) : Option Fault :=
  if count < 0 then some .negativeBits
  else if tooManyBits ≤ count then some .overflow else none

/-- The last `k` bits of an integer; a natural number that has no more is itself. -/
def lastBits (n : Int) (k : Nat) : Nat :=
  if 0 ≤ n ∧ n.toNat.log2 < k then n.toNat else (n % Nat.pow 2 k).toNat

def source : Source Script where
  nextUnit s := (Float.ofInt (s.take.1 % 1024) / 1024.0, s.take.2)
  nextBetween s lo hi := (lo + s.take.1 % (hi - lo + 1), s.take.2)
  nextIndex s n := ((s.take.1 % n).toNat, s.take.2)
  nextBits s k := (lastBits s.take.1 k, s.take.2)
  refusedBits s count := (bitsFault count).map fun e => (e, s.take.2)

theorem lastBits_lt (n : Int) (k : Nat) : lastBits n k < Nat.pow 2 k := by
  unfold lastBits
  split
  · next h =>
    by_cases h0 : n.toNat = 0
    · rw [h0]
      exact Nat.pow_pos (by decide)
    · exact (Nat.log2_lt h0).1 h.2
  · have hp : 0 < Nat.pow 2 k := Nat.pow_pos (by decide)
    generalize Nat.pow 2 k = m at *
    have := Int.emod_nonneg n (b := m) (by omega)
    have := Int.emod_lt_of_pos n (b := m) (by omega)
    omega

/-- The last bits are the remainder modulo a power of two. -/
theorem lastBits_eq_emod (n : Int) (k : Nat) : (lastBits n k : Int) = n % Nat.pow 2 k := by
  have hlt := lastBits_lt n k
  unfold lastBits at *
  split at hlt
  · next h =>
    rw [if_pos h]
    rw [Int.toNat_of_nonneg h.1]
    exact (Int.emod_eq_of_lt h.1 (by omega)).symm
  · next h =>
    rw [if_neg h]
    have hp : 0 < Nat.pow 2 k := Nat.pow_pos (by decide)
    generalize Nat.pow 2 k = m at *
    exact Int.toNat_of_nonneg (Int.emod_nonneg n (by omega))

theorem lawful_source : source.Lawful where
  le_between s lo hi h := by
    have := Int.emod_nonneg s.take.1 (b := hi - lo + 1) (by omega)
    simp only [source]
    omega
  between_le s lo hi h := by
    have := Int.emod_lt_of_pos s.take.1 (b := hi - lo + 1) (by omega)
    simp only [source]
    omega
  index_lt s n h := by
    have := Int.emod_nonneg s.take.1 (b := n) (by omega)
    have := Int.emod_lt_of_pos s.take.1 (b := n) (by omega)
    simp only [source]
    omega
  bits_lt s k := lastBits_lt _ k

end Script

end TavernLayout
