import TavernLayout.Number.Text

/-!
# Structured values

The values of a measurement file: nested lists and objects. An object keeps its fields in the
order in which they were written, and a number keeps its digits, so that writing a value again
changes nothing.

* `Json.int?`, `Json.float?`: the number that digits stand for, exactly or rounded once;
* `Json.field?`: of two fields with one name the later one counts;
* `Json.normal`: the value with its numbers written in their shortest form.
-/

namespace TavernLayout

inductive Json where
  | null
  | bool (value : Bool)
  | number (digits : String)
  | text (value : String)
  | list (items : List Json)
  | object (fields : List (String × Json))
  deriving Repr

namespace Json

def ofInt (n : Int) : Json := number (toString n)

def digitsValue (cs : List Char) : Nat := cs.foldl (fun n c => 10 * n + (c.toNat - '0'.toNat)) 0

/-- Digits with an optional minus sign, as an integer. -/
def intOfChars? : List Char → Option Int
  | '-' :: cs => if cs ≠ [] ∧ cs.all Char.isDigit then some (-digitsValue cs) else none
  | cs => if cs ≠ [] ∧ cs.all Char.isDigit then some (digitsValue cs) else none

/-- The integer a number stands for, if it is written without a fraction or an exponent. -/
def int? : Json → Option Int
  | number digits => intOfChars? digits.toList
  | _ => none

def infinite (negative : Bool) : Float := if negative then -1.0 / 0.0 else 1.0 / 0.0

/-- The double nearest to `m * 10 ^ e`; infinite when it is too large. -/
def scaled (negative : Bool) (m : Nat) (e : Int) : Float :=
  let size : Int := Number.digitCount m + e
  if m ≠ 0 ∧ 400 < size then infinite negative
  else if m = 0 ∨ size < -400 then (if negative then -0.0 else 0.0)
  else
    let num := m * Nat.pow 10 e.toNat
    let den := Nat.pow 10 (-e).toNat
    (Number.roundQuotient negative num den).toOption.getD (infinite negative)

/-- The double nearest to a decimal text: an optional sign, digits, a fraction, an exponent. -/
def floatOfChars (cs : List Char) : Option Float :=
  let negative := cs.head? == some '-'
  let cs := if negative then cs.drop 1 else cs
  let whole := cs.takeWhile Char.isDigit
  let rest := cs.dropWhile Char.isDigit
  let fraction := if rest.head? == some '.' then (rest.drop 1).takeWhile Char.isDigit else []
  let rest := if rest.head? == some '.' then (rest.drop 1).dropWhile Char.isDigit else rest
  let exponent? : Option Int := match rest with
    | [] => some 0
    | c :: ds =>
      if c = 'e' ∨ c = 'E' then intOfChars? (if ds.head? == some '+' then ds.drop 1 else ds)
      else none
  exponent?.map fun e => scaled negative (digitsValue (whole ++ fraction)) (e - fraction.length)

def float? : Json → Option Float
  | number "NaN" => some (0.0 / 0.0)
  | number "Infinity" => some (1.0 / 0.0)
  | number "-Infinity" => some (-1.0 / 0.0)
  | number digits => floatOfChars digits.toList
  | _ => none

def ofFloat (x : Float) : Json := number (Number.shortestText x)

def field? (j : Json) (name : String) : Option Json :=
  match j with
  | object fields => (fields.reverse.find? (·.1 == name)).map (·.2)
  | _ => none

/-- A number in its shortest form: an integer without needless digits, another one as the double
nearest to it. -/
def normalNumber (j : Json) : Json :=
  match j.int? with
  | some n => ofInt n
  | none => (j.float?.map ofFloat).getD j

mutual

def normal : Json → Json
  | number digits => normalNumber (number digits)
  | list js => list (normalItems js)
  | object fs => object (normalFields fs)
  | j => j

def normalItems : List Json → List Json
  | [] => []
  | j :: js => normal j :: normalItems js

def normalFields : List (String × Json) → List (String × Json)
  | [] => []
  | (name, j) :: fs => (name, normal j) :: normalFields fs

end

end Json

end TavernLayout
