import TavernLayout.Layout.Roofing.Heights

/-!
# Roof shapes

The shapes that the rooms around a roof leave open, each with a weight. Weights are kept in exact
form, so that they can be read as doubles, as the generator does, or as rationals.

* a roof that rooms stand on is a floor;
* a gable needs both long sides free, and its ends either free or against two taller rooms;
* a lean-to rises towards one taller room;
* a hip roof stands free on all sides;
* bars lie over gardens only.
-/

namespace TavernLayout

/-- A weight in exact form. -/
inductive RoofWeight where
  /-- A number of tenths. -/
  | tenths (n : Nat)
  /-- Five times `x / y`. -/
  | fiveTimes (x y : Int)
  /-- Five divided by `x / y`. -/
  | fiveOver (x y : Int)
  deriving DecidableEq, Repr

namespace RoofWeight

/-- The weight as a double, rounded after every operation. -/
def toFloat : RoofWeight → Except Fault Float
  | tenths n => .ok (Float.ofNat n / 10.0)
  | fiveTimes x y => do return 5.0 * (← Number.quotient x y)
  | fiveOver x y => do
    let ratio ← Number.quotient x y
    if Number.quotientBits x.natAbs y.natAbs = 0 then throw .divisionByZero
    return 5.0 / ratio

def toRat : RoofWeight → Rat
  | tenths n => (n : Rat) / 10
  | fiveTimes x y => 5 * ((x : Rat) / y)
  | fiveOver x y => 5 / ((x : Rat) / y)

end RoofWeight

abbrev RoofOption := RoofWeight × RoofStyle

namespace RoofStyle

/-- The least height of a gable and of a hip roof above its base. -/
def leastPeak : Int := 3

/-- The least height of a lean-to above its base. -/
def leastSlope : Int := 2

def greatestPeak : Int := 7

def levels (lo hi : Int) : List Int := (List.range (hi - lo + 1).toNat).map fun i : Nat => lo + i

/-- Bars along either axis, favouring the longer one. -/
def barOptions (size : Vec2) : List RoofOption :=
  [(.fiveTimes size.x size.y, .bars .posX), (.fiveOver size.x size.y, .bars .posY)]

/-- The greatest height of a gable with its ridge along `d`, if there may be one. Half of the width
counts, and what the lower of two taller rooms at its ends leaves, unless that is too little. -/
def gableTop? (heights : DirMap (Option Int)) (size : Vec2) (base : Int) (d : Dir) : Option Int :=
  let side := d.orthogonal
  if heights.get side ≠ none ∨ heights.get side.opposite ≠ none then none
  else
    let free := base + min (side.along size / 2 - 1) greatestPeak
    match heights.get d, heights.get d.opposite with
    | none, none => some free
    | some front, some back =>
      let lowest := min front back
      some (if base + leastPeak ≤ lowest then min free lowest else free)
    | _, _ => none

def gableOptions (heights : DirMap (Option Int)) (size : Vec2) (base : Int) (d : Dir) :
    List RoofOption :=
  match gableTop? heights size base d with
  | none => []
  | some top => (levels (base + leastPeak) top).map fun z => (.tenths 10, .gable d z)

/-- The lean-tos that rise towards a single taller room in direction `d`. -/
def leanToOptions (heights : DirMap (Option Int)) (base : Int) (d : Dir) : List RoofOption :=
  match heights.get d, heights.get d.opposite with
  | some top, none => (levels (base + leastSlope) top).map fun z => (.tenths 10, .leanTo d z)
  | _, _ => []

/-- The hip roofs, where no taller room touches. -/
def hipOptions (heights : DirMap (Option Int)) (base : Int) : List RoofOption :=
  if heights.toList.all Option.isNone then
    (levels (base + leastPeak) (base + greatestPeak)).map fun z => (.tenths 8, .hip z)
  else []

/-- The shapes of a roof that no room stands on. -/
def openOptions (rooms : List Room) (gardens : Bool) (roof : Rect) (base : Int) :
    List RoofOption :=
  let heights := overlookingTops rooms roof base
  (.tenths 5, .flat) :: ((if gardens then barOptions roof.size else []) ++
    ([.posX, .posY].flatMap (gableOptions heights roof.size base) ++
    (Dir.all.flatMap (leanToOptions heights base) ++ hipOptions heights base)))

/-- All of the rooms are gardens; the first one that is not decides. -/
def allGardens (rooms : Store .room Room) : List (Ref .room) → Except Fault Bool
  | [] => .ok true
  | id :: ids => do
    if (← rooms.lookup id).kind = .garden then allGardens rooms ids else return false

/-- The shapes of a roof over some rooms and under others, with exact weights. -/
def exactOptions (rooms : Store .room Room) (covered above : List (Ref .room)) (roof : Rect)
    (base : Int) : Except Fault (List RoofOption) := do
  if above ≠ [] then return [(.tenths 10, .floor)]
  return openOptions rooms.items (← allGardens rooms covered) roof base

def options (rooms : Store .room Room) (covered above : List (Ref .room)) (roof : Rect)
    (base : Int) : Except Fault (List (Float × RoofStyle)) := do
  (← exactOptions rooms covered above roof base).mapM fun (weight, style) => do
    return (← weight.toFloat, style)

theorem mem_levels {lo hi n : Int} : n ∈ levels lo hi ↔ lo ≤ n ∧ n ≤ hi := by
  simp only [levels, List.mem_map, List.mem_range]
  constructor
  · rintro ⟨i, hi', rfl⟩
    omega
  · intro h
    exact ⟨(n - lo).toNat, by omega, by omega⟩

end RoofStyle

end TavernLayout
