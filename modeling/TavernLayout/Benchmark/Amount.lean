import TavernLayout.Json.Basic
import TavernLayout.Number.Binary

/-!
# Amounts

A number in a report is an integer or a double. The difference of two integers is exact and their
quotient is rounded once. Beside a double, and for a decimal text, an integer is rounded first.

* `Amount.sub`, `Amount.ratio`: the difference and the quotient of two amounts;
* `sub_whole`, `ratio_whole`: integers stay exact.
-/

namespace TavernLayout

inductive Amount where
  | whole (n : Int)
  | real (x : Float)

namespace Amount

/-- The amount of a value, if it is one; the truth values count as one and zero. -/
def ofJson? : Json → Option Amount
  | .bool b => some (whole (if b then 1 else 0))
  | j => match j.int? with
    | some n => some (whole n)
    | none => j.float?.map real

def toFloat : Amount → Except Fault Float
  | whole n => Number.ofInt n
  | real x => .ok x

def sub : Amount → Amount → Except Fault Amount
  | whole m, whole n => .ok (whole (m - n))
  | a, b => do return real ((← a.toFloat) - (← b.toFloat))

/-- The quotient of two amounts, rounded once. -/
def ratio : Amount → Amount → Except Fault Float
  | whole m, whole n => Number.quotient m n
  | a, b => do
    let x ← a.toFloat
    let y ← b.toFloat
    if y == 0.0 then throw .divisionByZero
    return x / y

def atMostZero : Amount → Bool
  | whole n => decide (n ≤ 0)
  | real x => decide (x ≤ 0.0)

def isPositive : Amount → Bool
  | whole n => decide (0 < n)
  | real x => decide (0.0 < x)

theorem sub_whole (m n : Int) : sub (whole m) (whole n) = .ok (whole (m - n)) := rfl

theorem ratio_whole (m n : Int) : ratio (whole m) (whole n) = Number.quotient m n := rfl

end Amount

end TavernLayout
