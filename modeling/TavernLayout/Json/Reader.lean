import TavernLayout.Json.Basic

/-!
# Reading structured values

`Json.read?` reads a text that holds one value and blanks around it. Of any two steps of the
reader one consumes a character, so twice the length of the text bounds its depth.
-/

namespace TavernLayout.Json

def isBlank (c : Char) : Bool := c == ' ' || c == '\n' || c == '\r' || c == '\t'

/-- The text from its first character that is not blank. -/
def skip (cs : List Char) : List Char := cs.dropWhile isBlank

def hexValue? (c : Char) : Option Nat :=
  if c.isDigit then some (c.toNat - '0'.toNat)
  else if 'a' ≤ c ∧ c ≤ 'f' then some (c.toNat - 'a'.toNat + 10)
  else if 'A' ≤ c ∧ c ≤ 'F' then some (c.toNat - 'A'.toNat + 10)
  else none

/-- A UTF-16 unit written with four hexadecimal digits, and what follows. -/
def unit? : List Char → Option (Nat × List Char)
  | a :: b :: c :: d :: cs => do
    let a ← hexValue? a
    let b ← hexValue? b
    let c ← hexValue? c
    let d ← hexValue? d
    return (((a * 16 + b) * 16 + c) * 16 + d, cs)
  | _ => none

/-- A character written by its units. A first half without a second one stands for the
replacement character. -/
def numbered? (cs : List Char) : Option (Char × List Char) := do
  let (high, rest) ← unit? cs
  if 0xd800 ≤ high ∧ high < 0xdc00 then
    match rest with
    | '\\' :: 'u' :: more =>
      let (low, rest') ← unit? more
      if 0xdc00 ≤ low ∧ low < 0xe000 then
        return (Char.ofNat (0x10000 + (high - 0xd800) * 0x400 + (low - 0xdc00)), rest')
      else return ('\ufffd', rest)
    | _ => return ('\ufffd', rest)
  else if 0xdc00 ≤ high ∧ high < 0xe000 then return ('\ufffd', rest)
  else return (Char.ofNat high, rest)

/-- The character after a backslash. -/
def escaped? : List Char → Option (Char × List Char)
  | 'n' :: cs => some ('\n', cs)
  | 'r' :: cs => some ('\r', cs)
  | 't' :: cs => some ('\t', cs)
  | 'b' :: cs => some ('\x08', cs)
  | 'f' :: cs => some ('\x0c', cs)
  | 'u' :: cs => numbered? cs
  | c :: cs => if c = '"' ∨ c = '\\' ∨ c = '/' then some (c, cs) else none
  | [] => none

/-- The rest of a quoted text, read so far as `done` backwards. -/
def quotedTail? : Nat → List Char → List Char → Option (String × List Char)
  | 0, _, _ => none
  | fuel + 1, done, cs =>
    match cs with
    | [] => none
    | '"' :: rest => some (String.ofList done.reverse, rest)
    | '\\' :: rest => do
      let (c, rest) ← escaped? rest
      quotedTail? fuel (c :: done) rest
    | c :: rest => quotedTail? fuel (c :: done) rest

def inNumber (c : Char) : Bool :=
  c.isDigit || c == '-' || c == '+' || c == '.' || c == 'e' || c == 'E'

/-- The rest of the text after a given word. -/
def after? (word cs : List Char) : Option (List Char) :=
  if word.isPrefixOf cs then some (cs.drop word.length) else none

/-- A value that is neither a list nor an object. -/
def scalar? (fuel : Nat) (cs : List Char) : Option (Json × List Char) :=
  match cs with
  | '"' :: rest => (quotedTail? fuel [] rest).map fun (s, rest) => (text s, rest)
  | _ =>
    match after? "null".toList cs, after? "true".toList cs, after? "false".toList cs,
      after? "NaN".toList cs, after? "Infinity".toList cs, after? "-Infinity".toList cs with
    | some rest, _, _, _, _, _ => some (null, rest)
    | _, some rest, _, _, _, _ => some (bool true, rest)
    | _, _, some rest, _, _, _ => some (bool false, rest)
    | _, _, _, some rest, _, _ => some (number "NaN", rest)
    | _, _, _, _, some rest, _ => some (number "Infinity", rest)
    | _, _, _, _, _, some rest => some (number "-Infinity", rest)
    | none, none, none, none, none, none =>
      let digits := cs.takeWhile inNumber
      if digits.any Char.isDigit then
        some (number (String.ofList digits), cs.dropWhile inNumber)
      else none

mutual

/-- A value at the start of a text, and what follows. -/
def value? : Nat → List Char → Option (Json × List Char)
  | 0, _ => none
  | fuel + 1, cs =>
    match skip cs with
    | '[' :: rest =>
      match skip rest with
      | ']' :: rest => some (list [], rest)
      | _ => (items? fuel [] rest).map fun (js, rest) => (list js, rest)
    | '\x7b' :: rest =>
      match skip rest with
      | '\x7d' :: rest => some (object [], rest)
      | _ => (fields? fuel [] rest).map fun (fs, rest) => (object fs, rest)
    | cs => scalar? fuel cs

def items? : Nat → List Json → List Char → Option (List Json × List Char)
  | 0, _, _ => none
  | fuel + 1, done, cs => do
    let (j, rest) ← value? fuel cs
    match skip rest with
    | ',' :: rest => items? fuel (j :: done) rest
    | ']' :: rest => some ((j :: done).reverse, rest)
    | _ => none

def fields? : Nat → List (String × Json) → List Char → Option (List (String × Json) × List Char)
  | 0, _, _ => none
  | fuel + 1, done, cs => do
    let '"' :: rest := skip cs | none
    let (name, rest) ← quotedTail? fuel [] rest
    let ':' :: rest := skip rest | none
    let (j, rest) ← value? fuel rest
    match skip rest with
    | ',' :: rest => fields? fuel ((name, j) :: done) rest
    | '\x7d' :: rest => some (((name, j) :: done).reverse, rest)
    | _ => none

end

def read? (s : String) : Option Json := do
  let (j, rest) ← value? (2 * s.length + 2) s.toList
  if (skip rest).isEmpty then some j else none

end TavernLayout.Json
