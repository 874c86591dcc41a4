import TavernLayout.Benchmark.Amount
import TavernLayout.Json.Lookup
import TavernLayout.Json.Writer

/-!
# Benchmark reports

Measurements per plot size, as they are saved and compared. A report is an object with an object of
measurements for every plot size. A comparison with an earlier report has one line for every size
that both of them have; the earlier one comes from a file and may have any form.

* `Report.file`: the text of a saved report;
* `Report.comparison`: the lines of a comparison.
-/

namespace TavernLayout

namespace Report

/-- The text of a saved report. -/
def file (report : Json) : String := report.normal.lines

def savedMessage (path : String) : String := "\nSaved benchmark results to " ++ path ++ "\n"

def missingMessage (path : String) : String := "\nBaseline file not found: " ++ path ++ "\n"

/-- The two lines above a comparison. -/
def comparisonHead (path : String) : String :=
  "\nComparison vs baseline: " ++ path ++ "\n" ++ String.ofList (List.replicate 64 '=') ++ "\n"

/-- An amount with two decimal places, filled with blanks up to a width. -/
def cell (width : Nat) (a : Amount) : Except Fault String := do
  return Number.padLeft width (Number.fixedText 2 (← a.toFloat))

/-- A line of a comparison: the new time, the old one, their ratio and the change in percent. -/
def comparisonLine (size : String) (new old : Amount) : Except Fault String := do
  let change := (← (← new.sub old).ratio old) * 100.0
  let ratio ← if new.isPositive then old.ratio new else pure 0.0
  let trend := if ratio > 1.0 then "faster" else "slower"
  return Number.padLeft 10 size ++ ": " ++ (← cell 8 new) ++ "ms vs " ++ (← cell 8 old) ++
    "ms | " ++ (← cell 5 (.real ratio)) ++ "x " ++ trend ++ " (" ++
    Number.padLeft 6 (Number.fixedText 1 change true) ++ "%)\n"

/-- The amount that a value holds, which must be a number. -/
def amount (j : Json) : Except Fault Amount :=
  match Amount.ofJson? j with
  | some a => .ok a
  | none => .error .notNumeric

/-- The line of one plot size, if the earlier report has a time for it that is not zero or less. -/
def compareSize (baseline : Json) (size : String) (measures : Json) : Except Fault String := do
  if ¬(← baseline.mentions size) then return ""
  let before ← (← baseline.lookup size).lookupOr "ms" (.ofInt 0)
  let now ← measures.lookup "ms"
  let old ← amount before
  if old.atMostZero then return "" else comparisonLine size (← amount now) old

def comparison (path : String) (baseline : Option Json) (report : Json) : Except Fault String :=
  match baseline with
  | none => .ok (missingMessage path)
  | some baseline => do
    let lines ← (← report.fields).mapM fun (size, measures) => compareSize baseline size measures
    return comparisonHead path ++ String.join lines

end Report

end TavernLayout
