import TavernLayout.Grid.Dir
import TavernLayout.Grid.Span
import TavernLayout.Number.Binary
import TavernLayout.Store

/-!
# Walls

A wall is a straight segment between two end posts, with a room or the outside at either side. Its
posts stand one voxel beyond the corners of the rooms, so neighbouring walls meet. A door is given
by the offsets of its first and its last voxel from the first post.

* `valid_doorRect`: the opening of a door is a valid rectangle;
* `mem_neighbours`: the neighbours of a wall are the rooms at its sides.
-/

namespace TavernLayout

/-- A wall segment; `toward` points across it from the room `behind` to the room `ahead`. -/
structure Wall where
  start : Vec2
  stop : Vec2
  base : Int
  top : Int
  /-- The room that `toward` leads out of; none on the outside. -/
  behind : Option (Ref .room)
  /-- The room that `toward` leads into; none on the outside. -/
  ahead : Option (Ref .room)
  toward : Dir
  door : Option Span := none
  deriving DecidableEq, Repr

namespace Wall

/-- The direction from the first post to the last one. -/
def direction (w : Wall) : Dir := Dir.ofVec2 (w.stop - w.start)

/-- The distance between the posts. -/
def length (w : Wall) : Int := ((w.direction.along (w.stop - w.start)).natAbs : Int)

def post (w : Wall) (offset : Int) : Vec2 := w.start + offset • w.direction.toVec2

def doorRect (w : Wall) : Option Rect :=
  w.door.map fun d => (Rect.mk (w.post d.lo) (w.post d.hi)).sorted

/-- The middle of the opening at floor level, in continuous coordinates. -/
def doorCentre (w : Wall) : Except Fault (Option (Float × Float × Float)) :=
  match w.door with
  | none => .ok none
  | some d => do
    let step := w.direction.toVec2
    let offset := (← Number.ofInt (d.lo + d.hi)) / 2.0
    let coordinate (start step : Int) : Except Fault Float := do
      return (← Number.ofInt start) + Float.ofInt step * offset + 0.5
    return some (← coordinate w.start.x step.x, ← coordinate w.start.y step.y,
      ← Number.ofInt w.base)

def neighbours (w : Wall) : List (Ref .room) := w.behind.toList ++ w.ahead.toList

theorem valid_doorRect {w : Wall} {r : Rect} (h : w.doorRect = some r) : r.Valid := by
  obtain ⟨d, _, rfl⟩ := Option.map_eq_some_iff.1 h
  exact Rect.valid_sorted _

theorem mem_neighbours {w : Wall} {r : Ref .room} :
    r ∈ w.neighbours ↔ w.behind = some r ∨ w.ahead = some r := by
  simp [neighbours, Option.mem_toList]

end Wall

end TavernLayout
