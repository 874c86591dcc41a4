import TavernLayout.Json.Basic
import TavernLayout.Json.Shapeless

/-!
# Values inside messages

Where a message shows a value, it is written as a literal: words with a capital letter, text between
apostrophes, a blank after every comma and colon. Text that holds apostrophes and no quotation mark
stands between quotation marks instead. Characters without a shape of their own are written by
their numbers.

* `Json.literal`: a value as a literal;
* `Json.quoteOf`: the mark that text stands between.
-/

namespace TavernLayout.Json

def hexDigits : Nat → Nat → List Char
  | 0, _ => []
  | count + 1, n => hexDigits count (n / 16) ++ [Nat.digitChar (n % 16)]

/-- A character by its number, as short as it can be. -/
def byNumber (c : Char) : List Char :=
  if c.toNat < 0x100 then '\\' :: 'x' :: hexDigits 2 c.toNat
  else if c.toNat < 0x10000 then '\\' :: 'u' :: hexDigits 4 c.toNat
  else '\\' :: 'U' :: hexDigits 8 c.toNat

/-- A character of text between the given marks. -/
def literalChar (mark c : Char) : List Char :=
  if c = mark ∨ c = '\\' then ['\\', c]
  else if c = '\n' then ['\\', 'n']
  else if c = '\r' then ['\\', 'r']
  else if c = '\t' then ['\\', 't']
  else if hasShape c then [c]
  else byNumber c

/-- The mark before and after text. -/
def quoteOf (cs : List Char) : Char := if '\'' ∈ cs ∧ '"' ∉ cs then '"' else '\''

def literalText (s : String) : String :=
  let mark := quoteOf s.toList
  String.ofList (mark :: s.toList.flatMap (literalChar mark) ++ [mark])

/-- A number as a literal: an integer by its digits, another one by the shortest text that reads
back. -/
def literalNumber (j : Json) : String :=
  match j.int? with
  | some n => toString n
  | none =>
    match j.float? with
    | none => ""
    | some x =>
      if x.isNaN then "nan"
      else if x.isInf then (if x < 0.0 then "-inf" else "inf")
      else Number.shortestText x

mutual

def literal : Json → String
  | null => "None"
  | bool b => if b then "True" else "False"
  | number digits => literalNumber (number digits)
  | text s => literalText s
  | list [] => "[]"
  | list (j :: js) => "[" ++ literal j ++ literalItems js ++ "]"
  | object [] => "\x7b\x7d"
  | object ((name, j) :: fs) =>
    "\x7b" ++ literalText name ++ ": " ++ literal j ++ literalFields fs ++ "\x7d"

/-- The items after the first one. -/
def literalItems : List Json → String
  | [] => ""
  | j :: js => ", " ++ literal j ++ literalItems js

def literalFields : List (String × Json) → String
  | [] => ""
  | (name, j) :: fs => ", " ++ literalText name ++ ": " ++ literal j ++ literalFields fs

end

end TavernLayout.Json
