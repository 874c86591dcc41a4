import TavernLayout.Json.Basic

/-!
# Writing structured values

`Json.lines` writes one item or field per line, each level two blanks further in; `Json.line`
writes everything on one line. Text is written in ASCII: other characters by the numbers of their
UTF-16 units.
-/

namespace TavernLayout.Json

def hex4 (n : Nat) : List Char :=
  [n / 4096 % 16, n / 256 % 16, n / 16 % 16, n % 16].map Nat.digitChar

def units (c : Char) : List Nat :=
  if c.toNat < 0x10000 then [c.toNat]
  else
    let n := c.toNat - 0x10000
    [0xd800 + n / 0x400, 0xdc00 + n % 0x400]

def escape (c : Char) : List Char :=
  match c with
  | '"' => ['\\', '"']
  | '\\' => ['\\', '\\']
  | '\n' => ['\\', 'n']
  | '\r' => ['\\', 'r']
  | '\t' => ['\\', 't']
  | '\x08' => ['\\', 'b']
  | '\x0c' => ['\\', 'f']
  | c =>
    if ' ' ≤ c ∧ c ≤ '~' then [c] else (units c).flatMap fun u => '\\' :: 'u' :: hex4 u

def quoted (s : String) : String := String.ofList ('"' :: s.toList.flatMap escape ++ ['"'])

/-- A line break and the blanks of a level. -/
def indent (level : Nat) : String := "\n" ++ String.ofList (List.replicate (2 * level) ' ')

mutual

/-- The pieces of a value over several lines, its first line at the given level, before what
follows. -/
def linePieces (level : Nat) : Json → List String → List String
  | null, rest => "null" :: rest
  | bool b, rest => (if b then "true" else "false") :: rest
  | number digits, rest => digits :: rest
  | text s, rest => quoted s :: rest
  | list [], rest => "[]" :: rest
  | list (j :: js), rest =>
    "[" :: indent (level + 1) :: linePieces (level + 1) j
      (itemLines (level + 1) js (indent level :: "]" :: rest))
  | object [], rest => "\x7b\x7d" :: rest
  | object ((name, j) :: fs), rest =>
    "\x7b" :: indent (level + 1) :: quoted name :: ": " :: linePieces (level + 1) j
      (fieldLines (level + 1) fs (indent level :: "\x7d" :: rest))

/-- The pieces of the items after the first one. -/
def itemLines (level : Nat) : List Json → List String → List String
  | [], rest => rest
  | j :: js, rest => "," :: indent level :: linePieces level j (itemLines level js rest)

def fieldLines (level : Nat) : List (String × Json) → List String → List String
  | [], rest => rest
  | (name, j) :: fs, rest =>
    "," :: indent level :: quoted name :: ": " :: linePieces level j (fieldLines level fs rest)

end

def lines (j : Json) : String := String.join (linePieces 0 j [])

mutual

/-- The pieces of a value on one line, without blanks, before what follows. -/
def pieces : Json → List String → List String
  | null, rest => "null" :: rest
  | bool b, rest => (if b then "true" else "false") :: rest
  | number digits, rest => digits :: rest
  | text s, rest => quoted s :: rest
  | list [], rest => "[]" :: rest
  | list (j :: js), rest => "[" :: pieces j (itemPieces js ("]" :: rest))
  | object [], rest => "\x7b\x7d" :: rest
  | object ((name, j) :: fs), rest =>
    "\x7b" :: quoted name :: ":" :: pieces j (fieldPieces fs ("\x7d" :: rest))

def itemPieces : List Json → List String → List String
  | [], rest => rest
  | j :: js, rest => "," :: pieces j (itemPieces js rest)

def fieldPieces : List (String × Json) → List String → List String
  | [], rest => rest
  | (name, j) :: fs, rest => "," :: quoted name :: ":" :: pieces j (fieldPieces fs rest)

end

def line (j : Json) : String := String.join (pieces j [])

end TavernLayout.Json
