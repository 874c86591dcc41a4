import TavernLayout.Random.Source

/-!
# The twister

A random source with a state of 624 words. `Twister.seeded` spreads a seed over the words; whenever
all words have been used, `renew` replaces each of them by a combination of itself and two others.
`Twister.source` derives the four answers of a source from the words:

* a number from 0 up to 1 has 53 random bits, 27 of one word and 26 of the next;
* random bits are the high bits of a word, low words first when several are needed;
* an integer below `n` is drawn with just enough bits, again until it is below `n`.

Main statement: `lawful_source`.
-/

namespace TavernLayout

/-- The words of the state and the position of the next one. -/
structure Twister where
  words : Array UInt32
  next : Nat

namespace Twister

def size : Nat := 624

/-- The word at a position, counted around. -/
def word (ws : Array UInt32) (i : Nat) : UInt32 := ws.getD (i % size) 0

/-! ## Seeding -/

/-- The word after `w` at position `i` of the plain filling. -/
def follow (w : UInt32) (i : Nat) : UInt32 :=
  (w ^^^ (w >>> 30)) * 1812433253 + UInt32.ofNat i

/-- The filling that starts with a given word. -/
def filled (first : UInt32) : Array UInt32 :=
  (List.range (size - 1)).foldl (fun ws i => ws.push (follow (word ws i) (i + 1))) #[first]

/-- The number of different words. -/
def radix : Nat := 0x100000000

/-- The words of a number, least significant first; `fuel` bounds their count. -/
def keyWords : Nat → Nat → List UInt32
  | 0, _ => []
  | fuel + 1, n =>
    if n < radix then [UInt32.ofNat n] else UInt32.ofNat n :: keyWords fuel (n / radix)

/-- The key of a seed: the words of its absolute value, one at least. -/
def key (seed : Int) : Array UInt32 := (keyWords (seed.natAbs.log2 / 32 + 1) seed.natAbs).toArray

/-- Writes a word at position `i`; at the last position it also replaces the first word. -/
def wrap (ws : Array UInt32) (i : Nat) (w : UInt32) : Array UInt32 :=
  let ws := ws.setIfInBounds i w
  if i + 1 = size then ws.setIfInBounds 0 w else ws

def mixed (ws : Array UInt32) (i : Nat) (factor : UInt32) : UInt32 :=
  let p := word ws (i - 1)
  word ws i ^^^ ((p ^^^ (p >>> 30)) * factor)

/-- The `t`-th step of a pass over the positions 1 to 623: around again after the last one. -/
def position (t : Nat) : Nat := t % (size - 1) + 1

/-- The words spread from a key: one pass adds the key, a second one adds the positions. -/
def spread (key : Array UInt32) : Array UInt32 :=
  let n := max size key.size
  let ws := (List.range n).foldl (fun ws t =>
    let i := position t
    let j := t % key.size
    wrap ws i (mixed ws i 1664525 + key.getD j 0 + UInt32.ofNat j)) (filled 19650218)
  let ws := (List.range (size - 1)).foldl (fun ws t =>
    let i := position (n + t)
    wrap ws i (mixed ws i 1566083941 - UInt32.ofNat i)) ws
  ws.setIfInBounds 0 0x80000000

/-- The state of a seed. The first word drawn renews the words. -/
def seeded (seed : Int) : Twister := ⟨spread (key seed), size⟩

/-! ## Words -/

/-- The replacement of the word at position `i`: its high bit joined to the low bits of the next
word, shifted and combined with the word 397 positions further. -/
def renewed (ws : Array UInt32) (i : Nat) : UInt32 :=
  let y := (word ws i &&& 0x80000000) ||| (word ws (i + 1) &&& 0x7fffffff)
  word ws (i + 397) ^^^ (y >>> 1) ^^^ (if y &&& 1 = 1 then 0x9908b0df else 0)

def renew (ws : Array UInt32) : Array UInt32 :=
  (List.range size).foldl (fun ws i => ws.setIfInBounds i (renewed ws i)) ws

/-- The word that is given out for a word of the state. -/
def temper (w : UInt32) : UInt32 :=
  let w := w ^^^ (w >>> 11)
  let w := w ^^^ ((w <<< 7) &&& 0x9d2c5680)
  let w := w ^^^ ((w <<< 15) &&& 0xefc60000)
  w ^^^ (w >>> 18)

def draw (t : Twister) : UInt32 × Twister :=
  let t := if t.next < size then t else ⟨renew t.words, 0⟩
  (temper (word t.words t.next), { t with next := t.next + 1 })

/-! ## Answers -/

def unit (t : Twister) : Float × Twister :=
  let (a, t) := t.draw
  let (b, t) := t.draw
  (Float.ofNat ((a >>> 5).toNat * 67108864 + (b >>> 6).toNat) / 9007199254740992.0, t)

def bits (t : Twister) (count : Nat) : Nat × Twister :=
  if count = 0 then (0, t)
  else if count ≤ 32 then
    let (w, t) := t.draw
    (w.toNat >>> (32 - count), t)
  else
    let (w, t) := t.draw
    let (rest, t) := bits t (count - 32)
    (w.toNat + radix * rest, t)
termination_by count

/-- A number below `n`: numbers as long as `n` are drawn until one is smaller. After `fuel` draws
in vain the last one is reduced. -/
def below (n : Nat) : Nat → Twister → Nat × Twister
  | 0, t =>
    let (r, t) := t.bits (n.log2 + 1)
    (r % n, t)
  | fuel + 1, t =>
    let (r, t) := t.bits (n.log2 + 1)
    if r < n then (r, t) else below n fuel t

/-- The draws in vain that are allowed; each happens with a chance of at most one half. -/
def patience : Nat := 4096

/-- A number of bits is given as a signed number of thirty-two bits, and is not negative. -/
def bitsFault (count : Int) : Option Fault :=
  if count < -0x80000000 ∨ 0x80000000 ≤ count then some .overflow
  else if count < 0 then some .negativeBits else none

def source : Source Twister where
  nextUnit := unit
  nextBetween t lo hi :=
    let (r, t) := below (hi - lo + 1).toNat patience t
    (lo + r, t)
  nextIndex t n := below n patience t
  nextBits := bits
  refusedBits t count := (bitsFault count).map fun e => (e, t)

/-! ## Bounds -/

theorem below_lt {n : Nat} (h : 0 < n) (fuel : Nat) (t : Twister) : (below n fuel t).1 < n := by
  induction fuel generalizing t with
  | zero => exact Nat.mod_lt _ h
  | succ fuel ih =>
    unfold below
    dsimp only
    split
    · assumption
    · exact ih _

theorem bits_lt (count : Nat) (t : Twister) : (t.bits count).1 < Nat.pow 2 count := by
  induction count using Nat.strongRecOn generalizing t with
  | ind count ih =>
    unfold bits
    split
    · next h =>
      subst h
      exact Nat.zero_lt_one
    · split
      · next h1 h2 =>
        have hw := t.draw.1.toNat_lt
        dsimp only
        rw [Nat.shiftRight_eq_div_pow]
        apply Nat.div_lt_of_lt_mul
        rw [Nat.pow_eq, ← Nat.pow_add, Nat.sub_add_cancel h2]
        exact hw
      · next h1 h2 =>
        have hr := ih (count - 32) (by omega) t.draw.2
        have hw := t.draw.1.toNat_lt
        have hp : Nat.pow 2 count = radix * Nat.pow 2 (count - 32) := by
          rw [show radix = Nat.pow 2 32 from rfl, Nat.pow_eq, Nat.pow_eq, Nat.pow_eq,
            ← Nat.pow_add]
          congr 1
          omega
        dsimp only
        rw [hp]
        generalize (t.draw.2.bits (count - 32)).1 = r at *
        generalize Nat.pow 2 (count - 32) = m at *
        unfold radix
        omega

theorem lawful_source : source.Lawful where
  le_between t lo hi h := by
    simp only [source]
    omega
  between_le t lo hi h := by
    have := below_lt (n := (hi - lo + 1).toNat) (by omega) patience t
    simp only [source]
    omega
  index_lt t n h := below_lt h _ _
  bits_lt t k := bits_lt k t

end Twister

end TavernLayout
