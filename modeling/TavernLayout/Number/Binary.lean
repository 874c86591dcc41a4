import TavernLayout.Number.Rounding
import TavernLayout.Fault

/-!
# Binary floating point

A double is a sign, a significand and a power of two. This module takes doubles apart
(`Parts.ofFloat`), rounds exact quotients of integers to doubles (`quotient`), and reads integers
off doubles (`truncate`, `ceiling`).

* `quotient a b` is the double nearest to `a / b`, the even one of two; too large a quotient
  overflows;
* `truncate` drops the fraction and `ceiling` rounds up; NaN and the infinities have no integer.
-/

namespace TavernLayout.Number

/-- What a double stands for; the finite ones are `mantissa * 2 ^ exponent` with a sign. -/
inductive Parts where
  | nan
  | infinite (negative : Bool)
  | finite (negative : Bool) (mantissa : Nat) (exponent : Int)
  deriving DecidableEq, Repr

def leastExponent : Int := -1074

/-- The pattern of the positive infinity; every finite magnitude has a smaller one. -/
def infinityBits : Nat := 0x7ff <<< 52

def signBit : Nat := 0x8000000000000000

/-- The least mantissa with a leading bit, 2^52. -/
def leadingBit : Nat := 0x10000000000000

def Parts.ofBits (bits : Nat) : Parts :=
  let negative := decide (signBit ≤ bits)
  let biased : Nat := bits / leadingBit % 2048
  let fraction : Nat := bits % leadingBit
  if biased = 2047 then (if fraction = 0 then .infinite negative else .nan)
  else if biased = 0 then .finite negative fraction leastExponent
  else .finite negative (leadingBit + fraction) (leastExponent + biased - 1)

def Parts.ofFloat (x : Float) : Parts := Parts.ofBits x.toBits.toNat

/-- The bit pattern of `mantissa * 2 ^ exponent` for a mantissa of at most 2^53 that is below 2^52
only at the least exponent. A mantissa of 2^53 carries into the exponent. -/
def magnitudeBits (mantissa : Nat) (exponent : Int) : Nat :=
  (exponent - leastExponent).toNat <<< 52 + mantissa

/-- The bit pattern of the double nearest to `n / d`, not yet cut off at infinity. -/
def quotientBits (n d : Nat) : Nat :=
  if n = 0 then 0
  else
    let guess : Int := (n.log2 : Int) - d.log2 - 53
    -- `n / d` lies between 2^52 and 2^54 units of `2 ^ guess`
    let units (e : Int) : Nat × Nat := (n <<< (-e).toNat, d <<< e.toNat)
    let exact := max leastExponent
      (if (units guess).1 / (units guess).2 < 2 * leadingBit then guess else guess + 1)
    magnitudeBits (roundDiv (units exact).1 (units exact).2) exact

/-- The double nearest to `n / d` with the given sign. -/
def roundQuotient (negative : Bool) (n d : Nat) : Except Fault Float :=
  let bits := quotientBits n d
  if bits < infinityBits then
    .ok (Float.ofBits (UInt64.ofNat (bits + if negative then signBit else 0)))
  else .error .overflow

/-- The double nearest to `a / b`. A quotient of zero has the sign that the signs of `a` and `b`
give to it, zero counting as positive. -/
def quotient (a b : Int) : Except Fault Float :=
  if b = 0 then .error .divisionByZero
  else roundQuotient (decide (a < 0) != decide (b < 0)) a.natAbs b.natAbs

def ofInt (n : Int) : Except Fault Float := quotient n 1

/-- The value of finite parts without its fraction, and whether there is one. -/
def wholePart (mantissa : Nat) (exponent : Int) : Nat × Bool :=
  let whole := mantissa <<< exponent.toNat >>> (-exponent).toNat
  (whole, mantissa <<< exponent.toNat != whole <<< (-exponent).toNat)

/-- The integer nearest to `x` towards zero. -/
def truncate (x : Float) : Except Fault Int :=
  match Parts.ofFloat x with
  | .nan => .error .notANumber
  | .infinite _ => .error .overflow
  | .finite negative m e => .ok (if negative then -(wholePart m e).1 else (wholePart m e).1)

def ceiling (x : Float) : Except Fault Int :=
  match Parts.ofFloat x with
  | .nan => .error .notANumber
  | .infinite _ => .error .overflow
  | .finite negative m e =>
    .ok (if negative then -(wholePart m e).1
      else (wholePart m e).1 + if (wholePart m e).2 then 1 else 0)

/-- The integer that the double nearest to `n` stands for, if there is one so large. Integers of up
to fifty-three bits stand for themselves. -/
def roundInt (n : Int) : Int :=
  let unit := 1 <<< (n.natAbs.log2 - 52)
  n.sign * (roundDiv n.natAbs unit * unit : Nat)

/-- The square of the double nearest to `n`. It is exact up to 2^53; beyond that the power function
rounds it, not always to the nearest double. -/
def square (n : Int) : Except Fault Float := do
  let x ← ofInt n
  let root := (roundInt n).natAbs
  if root * root ≤ 2 * leadingBit then return x * x
  else if infinityBits ≤ quotientBits (root * root) 1 then throw .overflow
  else return x.pow 2.0

theorem quotient_zero (a : Int) : quotient a 0 = .error .divisionByZero := rfl

end TavernLayout.Number
