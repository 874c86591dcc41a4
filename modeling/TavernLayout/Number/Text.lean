import TavernLayout.Number.Shortest

/-!
# Numbers as text

Two written forms of doubles: the shortest one that reads back, for files, and one with a fixed
number of decimal places, for tables.
-/

namespace TavernLayout.Number

structure Layout where
  /-- The least exponent of a first digit that is written without an exponent. -/
  positionalFrom : Int
  /-- The first exponent beyond those. -/
  positionalTo : Int
  /-- The least number of digits of a written exponent. -/
  exponentDigits : Nat

/-- Values from 10^-4 up to 10^16 are written out; exponents have two digits at least. -/
def Layout.file : Layout := ⟨-4, 16, 2⟩

def zeros (n : Nat) : String := String.ofList (List.replicate n '0')

def padLeft (width : Nat) (s : String) : String :=
  String.ofList (List.replicate (width - s.length) ' ') ++ s

/-- A positive decimal in a layout; a point always follows the integer part. -/
def Layout.write (l : Layout) (d : Decimal) : String :=
  let ds := toString d.digits
  let point : Int := ds.length + d.exponent
  let first := point - 1
  if l.positionalFrom ≤ first ∧ first < l.positionalTo then
    if point ≤ 0 then "0." ++ zeros (-point).toNat ++ ds
    else if ds.length ≤ point then ds ++ zeros (point - ds.length).toNat ++ ".0"
    else (ds.take point.toNat).toString ++ "." ++ (ds.drop point.toNat).toString
  else
    let e := toString first.natAbs
    let tail := if ds.length = 1 then "" else "." ++ (ds.drop 1).toString
    (ds.take 1).toString ++ tail ++ "e" ++ (if first < 0 then "-" else "+") ++
      zeros (l.exponentDigits - e.length) ++ e

/-- The shortest text that reads back as `x`; a double that is not finite has a name instead. -/
def shortestText (x : Float) : String :=
  match Parts.ofFloat x with
  | .nan => "NaN"
  | .infinite negative => if negative then "-Infinity" else "Infinity"
  | .finite negative m e =>
    (if negative then "-" else "") ++
      if m = 0 then "0.0" else Layout.file.write (shortest m e)

/-- The digits of `n / 10 ^ places` with a point. -/
def placed (places n : Nat) : String :=
  let ds := toString n
  let ds := zeros (places + 1 - ds.length) ++ ds
  let whole := ds.length - places
  if places = 0 then ds else (ds.take whole).toString ++ "." ++ (ds.drop whole).toString

/-- The exact value of `x` rounded to the given number of decimal places, the even digit of two
equally near. With `signed`, what is not negative carries a plus sign. -/
def fixedText (places : Nat) (x : Float) (signed : Bool := false) : String :=
  let lead (negative : Bool) := if negative then "-" else if signed then "+" else ""
  match Parts.ofFloat x with
  | .nan => lead false ++ "nan"
  | .infinite negative => lead negative ++ "inf"
  | .finite negative m e =>
    let units := m * Nat.pow 2 e.toNat * Nat.pow 10 places
    lead negative ++ placed places (roundDiv units (Nat.pow 2 (-e).toNat))

end TavernLayout.Number
