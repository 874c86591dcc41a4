import TavernLayout.Grid.Rect

/-!
# Faults

Every way in which an operation of the library can fail. The first group belongs to the domain and
has a message of its own; the second group is arithmetic or look-up that has no answer.
-/

namespace TavernLayout

inductive Fault where
  /-- The plot's margins leave no room inside. -/
  | noInterior (plot : Rect)
  /-- Not even an entrance hall fits into the plot. -/
  | noEntrance (plot : Rect)
  /-- A lottery without a positive weight. -/
  | emptyLottery
  /-- An insertion into a finished store. -/
  | storeFrozen
  /-- A map over directions built from other than four values. -/
  | slotCount (given : Nat)
  /-- Altitudes that do not form a plane grid. -/
  | notPlanar (shape : List Nat)
  /-- Altitudes and temperatures on grids of different shapes. -/
  | shapesDiffer (altitudes temperatures : List Nat)
  /-- Terrain samples that are not a positive distance apart. -/
  | cellSize (given : Int)
  /-- Reseeding before the shared streams exist. -/
  | streamsNotStarted
  /-- A look-up outside of a list. -/
  | outOfRange
  /-- A choice from nothing. -/
  | emptyChoice
  /-- A draw from a range whose end lies before its start. -/
  | emptyRange
  /-- A draw of a negative number of bits. -/
  | negativeBits
  /-- A negative number of terrain samples. -/
  | negativeSize
  /-- More terrain samples than can be addressed. -/
  | tooManySamples
  /-- A quotient by zero. -/
  | divisionByZero
  /-- An integer asked of a NaN. -/
  | notANumber
  /-- A number too large to be represented, or an integer asked of an infinity. -/
  | overflow
  /-- A field that an object does not have. -/
  | missingField
  /-- The fields of a value that is no object. -/
  | notAnObject
  /-- A name looked for in a value that holds none. -/
  | noNames
  /-- A measurement that is no number. -/
  | notNumeric
  /-- Growth that outlasted its bound. -/
  | unfinished
  deriving DecidableEq, Repr

namespace Fault

/-- A shape: the lengths of a grid's axes in parentheses, a comma after a single one. -/
def shapeText : List Nat → String
  | [n] => "(" ++ toString n ++ ",)"
  | ns => "(" ++ String.intercalate ", " (ns.map toString) ++ ")"

/-- The message of a fault of the domain. -/
def message? : Fault → Option String
  | noInterior plot => some ("Plot " ++ plot.text ++ " has no usable interior")
  | noEntrance plot => some ("Not enough room in plot " ++ plot.text ++ " for a tavern entrance")
  | emptyLottery => some "Lottery needs at least one positive weight"
  | storeFrozen => some "Store is frozen; no more entities can be added"
  | slotCount n => some ("DirMap needs exactly 4 slots, got " ++ toString n)
  | notPlanar shape => some ("Altitude grid must be 2D, got shape " ++ shapeText shape)
  | shapesDiffer a t =>
    some ("Altitude " ++ shapeText a ++ " and temperature " ++ shapeText t ++ " grids differ")
  | cellSize n => some ("cell_size must be positive, got " ++ toString n)
  | streamsNotStarted => some "RNG not initialized - call rng.init() first"
  | outOfRange | emptyChoice | emptyRange | negativeBits | negativeSize | tooManySamples
  | divisionByZero | notANumber | overflow | missingField | notAnObject
  | noNames | notNumeric | unfinished => none

end Fault

end TavernLayout
