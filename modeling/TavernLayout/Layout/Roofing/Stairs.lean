import TavernLayout.Building.Room

/-!
# Stairs

A straight staircase leads from a room to another one above it. It climbs one layer per voxel and
stands in a corner of the overlap of the two rooms, clear of all doors.

* `Stairs.flush`: the directions in which the overlap ends at a side of one of the rooms;
* `Stairs.place`: the staircase in one corner;
* `possibleStairs`: all staircases between the rooms under a roof and those above it.
-/

namespace TavernLayout

namespace Stairs

def width : Int := 2

/-- The directions in which the overlap of two footprints ends at a side of one of them. -/
def flush (lower upper overlap : Rect) : List Dir :=
  Dir.all.filter fun d =>
    decide (d.edge lower = d.edge overlap ∨ d.edge upper = d.edge overlap)

/-- The part of the overlap at its `d` and `orth` edges that has the given length along `d` and the
width of a staircase across it. -/
def place (overlap : Rect) (length : Int) (d orth : Dir) : Rect :=
  orth.trim (d.trim overlap (d.along overlap.size - length))
    (orth.along overlap.size - width + 1)

/-- The staircase keeps a voxel away from every door. -/
def isClear (stairs : Rect) (doors : List Rect) : Bool :=
  doors.all fun door => decide (¬(stairs.grow 1).Collides door)

def inDirection (overlap : Rect) (bottom top : Int) (doors : List Rect) (dirs : List Dir)
    (d : Dir) : List Stairs :=
  ((dirs.filter fun orth => decide (orth.axis ≠ d.axis)).map
      (place overlap (top - bottom) d)).filterMap fun r =>
    if r.Valid ∧ isClear r doors then some ⟨.ofRect r bottom top, d⟩ else none

/-- The floor layer of the lower room and the layer below the floor of the upper one. -/
def rise (lower upper : Room) : Span := ⟨lower.bottom, upper.bottom - 1⟩

def HasSpace (lower upper : Room) : Prop :=
  let overlap := lower.footprint.inter upper.footprint
  overlap.Valid ∧ (rise lower upper).hi - (rise lower upper).lo < overlap.size.least

instance (lower upper : Room) : Decidable (HasSpace lower upper) :=
  inferInstanceAs (Decidable (_ ∧ _))

def doors (walls : Store .wall Wall) (ids : List (Ref .wall)) : Except Fault (List Rect) := do
  return (← ids.mapM walls.lookup).filterMap Wall.doorRect

def betweenRooms (walls : Store .wall Wall) (lower upper : Room) : Except Fault (List Stairs) := do
  if HasSpace lower upper then
    let overlap := lower.footprint.inter upper.footprint
    let dirs := flush lower.footprint upper.footprint overlap
    let ds ← doors walls (lower.wallRefs ++ upper.wallRefs)
    let s := rise lower upper
    return dirs.flatMap (inDirection overlap s.lo s.hi ds dirs)
  else return []

def toRoom (rooms : Store .room Room) (walls : Store .wall Wall) (upper : Room) :
    List (Ref .room) → Except Fault (List Stairs)
  | [] => .ok []
  | id :: ids => do
    let found ← betweenRooms walls (← rooms.lookup id) upper
    return found ++ (← toRoom rooms walls upper ids)

end Stairs

/-- The staircases from the rooms under a roof to the rooms above it. -/
def possibleStairs (rooms : Store .room Room) (walls : Store .wall Wall)
    (covered : List (Ref .room)) : List (Ref .room) → Except Fault (List Stairs)
  | [] => .ok []
  | id :: ids => do
    let found ← Stairs.toRoom rooms walls (← rooms.lookup id) covered
    return found ++ (← possibleStairs rooms walls covered ids)

end TavernLayout
