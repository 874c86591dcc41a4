import TavernLayout.Number.Binary

/-!
# Shortest decimals

Among the decimals that read back as a given double there is one with the fewest digits; of two
equally short ones it is the nearer. `digits m q` finds it for `m * 2 ^ q` by trying decimal grids
from the coarsest: if a point of a grid reads back, one of the two next to the value does.
-/

namespace TavernLayout.Number

/-- A positive decimal, `digits * 10 ^ exponent`. -/
structure Decimal where
  digits : Nat
  exponent : Int
  deriving DecidableEq, Repr

def digitCount (n : Nat) : Nat := (toString n).length

/-- The exponent of the first decimal digit of `n / d`. -/
def leadingExponent (n d : Nat) : Int :=
  if d ≤ n then (digitCount (n / d) : Int) - 1
  else -(digitCount ((d + n - 1) / n - 1) : Int)

/-- A decimal without the zeros at its end; `fuel` bounds their number. -/
def Decimal.trim : Nat → Decimal → Decimal
  | 0, d => d
  | fuel + 1, d =>
    if d.digits % 10 = 0 then Decimal.trim fuel ⟨d.digits / 10, d.exponent + 1⟩ else d

/-- The neighbourhood of a double: `value / unit` is the double itself, and the decimals from
`low / unit` to `high / unit` read back as it, the ends included when `closed`. -/
structure Neighbourhood where
  value : Nat
  low : Nat
  high : Nat
  unit : Nat
  closed : Bool

/-- The neighbourhood of `m * 2 ^ q`. Below a power of two the doubles are twice as dense. -/
def Neighbourhood.of (m : Nat) (q : Int) : Neighbourhood :=
  let below := if m = leadingBit ∧ leastExponent < q then 1 else 2
  let scale := Nat.pow 2 (q - 2).toNat
  ⟨4 * m * scale, (4 * m - below) * scale, (4 * m + 2) * scale, Nat.pow 2 (2 - q).toNat, m % 2 == 0⟩

/-- The decimal `c * 10 ^ s` reads back as the double. -/
def Neighbourhood.accepts (v : Neighbourhood) (c : Nat) (s : Int) : Bool :=
  let point := c * Nat.pow 10 s.toNat * v.unit
  let low := v.low * Nat.pow 10 (-s).toNat
  let high := v.high * Nat.pow 10 (-s).toNat
  if v.closed then low ≤ point && point ≤ high else low < point && point < high

/-- The point of the grid `10 ^ s` that reads back, the nearer one of two, the even one of two
equally near. -/
def Neighbourhood.onGrid? (v : Neighbourhood) (s : Int) : Option Decimal :=
  let num := v.value * Nat.pow 10 (-s).toNat
  let den := v.unit * Nat.pow 10 s.toNat
  let floor := num / den
  let nearer := roundDiv num den
  let other := if nearer = floor then floor + 1 else floor
  if v.accepts nearer s then some ⟨nearer, s⟩
  else if v.accepts other s then some ⟨other, s⟩ else none

/-- The first grid with a hit, from `count` digits on. -/
def Neighbourhood.search (v : Neighbourhood) (top : Int) : Nat → Nat → Decimal
  | 0, _ => ⟨roundDiv v.value v.unit, 0⟩
  | fuel + 1, count =>
    match v.onGrid? (top - count + 1) with
    | some d => d
    | none => v.search top fuel (count + 1)

/-- The shortest decimal that reads back as `m * 2 ^ q`; seventeen digits always do. -/
def shortest (m : Nat) (q : Int) : Decimal :=
  let v := Neighbourhood.of m q
  (v.search (leadingExponent v.value v.unit) 17 1).trim 17

end TavernLayout.Number
