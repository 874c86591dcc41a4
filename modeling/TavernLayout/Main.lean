import TavernLayout.Benchmark.Case
import TavernLayout.Benchmark.Report
import TavernLayout.Json.Reader

/-!
# The benchmark program

Lays out taverns on plots of several sizes and prints how long it took, how many rooms there are
and how much of the plots they cover. The results can be saved and compared with saved ones.
-/

namespace TavernLayout.Benchmark

structure Options where
  iterations : Int := 10
  save : Option String := none
  compare : Option String := none

def plotSizes : List (Int × Int) := [(4, 4), (6, 6), (8, 8), (10, 10), (14, 10)]

/-- An option and its value, written as one word or as two. -/
def splitOption (word : String) : String × Option String :=
  match word.splitOn "=" with
  | [] => (word, none)
  | [name] => (name, none)
  | name :: rest => (name, some (String.intercalate "=" rest))

def Options.set (o : Options) (name value : String) : Except String Options :=
  match name with
  | "--iterations" =>
    match Json.intOfChars? value.toList with
    | some n => .ok { o with iterations := n }
    | none => .error ("argument --iterations: invalid int value: '" ++ value ++ "'")
  | "--save" => .ok { o with save := some value }
  | "--compare" => .ok { o with compare := some value }
  | _ => .error ("unrecognized arguments: " ++ name)

/-- The options that the words of a command line give, after an option that lacks its value. -/
def Options.read (o : Options) : Option String → List String → Except String Options
  | none, [] => .ok o
  | some name, [] => .error ("argument " ++ name ++ ": expected one argument")
  | some name, value :: words => do (← o.set name value).read none words
  | none, word :: words =>
    match splitOption word with
    | (name, some value) => do (← o.set name value).read none words
    | (name, none) => o.read (some name) words

/-- Text filled with blanks on the left. -/
def column (width : Nat) (s : String) : String := Number.padLeft width s

def sizeName (width height : Int) : String := toString width ++ "x" ++ toString height

def resultLine (size : String) (ms rooms coverage : Float) : String :=
  column 10 size ++ " " ++ column 12 (Number.fixedText 2 ms) ++ " " ++
    column 8 (Number.fixedText 1 rooms) ++ " " ++
    column 10 (Number.fixedText 1 (coverage * 100.0) ++ "%")

def heading (iterations : Int) : List String :=
  ["Tavern Generation Benchmark", String.ofList (List.replicate 48 '='),
   "Iterations per size: " ++ toString iterations, "",
   column 10 "Plot" ++ " " ++ column 12 "Time (ms)" ++ " " ++ column 8 "Rooms" ++ " " ++
     column 10 "Coverage",
   String.ofList (List.replicate 48 '-')]

def faultText (e : Fault) : String := e.message?.getD "the benchmark could not be finished"

/-- A value or the end of the program. -/
def orFail {α : Type} : Except Fault α → IO α
  | .ok a => pure a
  | .error e => throw (IO.userError (faultText e))

/-- Lays out taverns of one size and measures the time. -/
def timeCase (width height : Int) : Nat → Totals → Provider Twister → Nat → IO (Totals × Nat)
  | 0, t, _, elapsed => return (t, elapsed)
  | n + 1, t, p, elapsed => do
    let before ← IO.monoNanosNow
    let (s, p) ← orFail (sample width height p)
    let t := t.add s
    let after ← IO.monoNanosNow
    timeCase width height n t p (elapsed + (after - before))

def measureSize (iterations width height : Int) : IO (String × Json) := do
  let (t, nanos) ← timeCase width height iterations.toNat {} start 0
  let seconds := Float.ofNat nanos / 1000000000.0
  let ms ← orFail (do
    if iterations = 0 then throw .divisionByZero
    return (seconds / (← Number.ofInt iterations)) * 1000.0)
  let (rooms, coverage) ← orFail (averages iterations t)
  return (sizeName width height,
    .object [("ms", .ofFloat ms), ("rooms", .ofFloat rooms), ("coverage", .ofFloat coverage)])

def measureAll (iterations : Int) : IO Json := do
  for line in heading iterations do IO.println line
  .object <$> plotSizes.mapM fun (width, height) => do
    let (size, m) ← measureSize iterations width height
    let value (name : String) := ((m.field? name).bind Json.float?).getD 0.0
    IO.println (resultLine size (value "ms") (value "rooms") (value "coverage"))
    return (size, m)

def readReport (path : String) : IO (Option Json) := do
  let text? ← try some <$> IO.FS.readFile path catch _ => pure none
  match text? with
  | none => return none
  | some text =>
    match Json.read? text with
    | some report => return some report
    | none => throw (IO.userError (path ++ " holds no report"))

def run (o : Options) : IO Unit := do
  let report ← measureAll o.iterations
  if let some path := o.save then
    IO.FS.writeFile path (Report.file report)
    IO.print (Report.savedMessage path)
  if let some path := o.compare then
    IO.print (← orFail (Report.comparison path (← readReport path) report))

end TavernLayout.Benchmark

/-- Reads the options and runs the benchmark. -/
def main (args : List String) : IO UInt32 := do
  match TavernLayout.Benchmark.Options.read {} none args with
  | .ok o => do
    TavernLayout.Benchmark.run o
    return 0
  | .error message => do
    IO.eprintln ("benchmark: error: " ++ message)
    return 2
