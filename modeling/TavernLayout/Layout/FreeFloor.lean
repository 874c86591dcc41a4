import TavernLayout.Building.Room

/-!
# Free floor

The floor of a room that may be furnished, split into rectangles. Ways from the doors to the middle
of the room and staircases stay free. The rest is swept column by column: from a free cell a
rectangle grows up the column to the next obstacle and then to the right as far as its rows are
free; it becomes an obstacle for what follows.

* `freeColumn` ends because every step moves up the column: `lt_next_of_mem`, `le_ceilingAbove`;
* `freeFloor`: the rectangles of the whole floor.
-/

namespace TavernLayout

namespace FreeFloor

/-! ## What stays free -/

/-- The way from a door on the side `d` to the middle of the room. -/
def walkway (room : Rect) (d : Dir) (door : Rect) : Rect :=
  (Rect.mk (d.onEdge room door.min) (d.splice room.center door.max)).sorted

def sideWalkways (walls : Store .wall Wall) (room : Rect) (d : Dir) (ids : List (Ref .wall)) :
    Except Fault (List Rect) := do
  return ((← ids.mapM walls.lookup).filterMap Wall.doorRect).map (walkway room d)

def walkways (walls : Store .wall Wall) (room : Room) : Except Fault (List Rect) := do
  return (← room.walls.items.mapM fun (d, ids) =>
    sideWalkways walls room.footprint d ids).flatten

def stairways (roofs : Store .roof Roof) (ids : List (Ref .roof)) : Except Fault (List Rect) := do
  return ((← ids.mapM roofs.lookup).filterMap Roof.stairs).map fun s => s.bounds.footprint

/-- What stays free in a room, clipped to it. -/
def reserved (walls : Store .wall Wall) (roofs : Store .roof Roof) (room : Room) :
    Except Fault (List Rect) := do
  let ways ← walkways walls room
  let stairs ← stairways roofs (room.floors ++ room.roofs)
  return ((ways ++ stairs).map fun r => r.inter room.footprint).filter fun r => decide r.Valid

/-! ## Sweeping -/

/-- The last row that a rectangle from row `y` of column `x` may reach, at most `top`. -/
def ceilingAbove (x y : Int) (top : Int) (obstacles : List Rect) : Int :=
  obstacles.foldl (fun top a =>
    if (a.min.x ≤ x ∧ x ≤ a.max.x) ∧ (y < a.min.y ∧ a.min.y ≤ top) then a.min.y - 1 else top) top

/-- The last column that a rectangle over the rows `y` to `top` may reach from column `x`, at most
`right`. Only obstacles that start further right count. -/
def reachRight (x y top right : Int) (obstacles : List Rect) : Int :=
  (obstacles.filter fun a => decide (x < a.min.x ∧ a.min.y ≤ top ∧ y ≤ a.max.y)).foldl
    (fun right a => min right (a.min.x - 1)) right

def areaAt (bounds : Rect) (obstacles : List Rect) (x y : Int) : Rect :=
  let top := ceilingAbove x y bounds.max.y obstacles
  ⟨⟨x, y⟩, ⟨reachRight x y top bounds.max.x obstacles, top⟩⟩

theorem lt_next_of_mem {x y : Int} {obstacles : List Rect} {b : Rect}
    (h : obstacles.find? (fun a => decide ((⟨x, y⟩ : Vec2) ∈ a)) = some b) : y < b.max.y + 1 := by
  have hb := List.find?_some h
  have hy := (Rect.mem_iff.1 (of_decide_eq_true hb)).2.2
  dsimp only at hy
  omega

theorem le_ceilingAbove {x y top : Int} (h : y ≤ top) (obstacles : List Rect) :
    y ≤ ceilingAbove x y top obstacles := by
  unfold ceilingAbove
  induction obstacles generalizing top with
  | nil => exact h
  | cons a as ih =>
    rw [List.foldl_cons]
    apply ih
    split
    · next hc => omega
    · exact h

/-- The areas found so far and those that start in column `x` from row `y` on. -/
def freeColumn (bounds : Rect) (avoid : List Rect) (x y : Int) (areas : List Rect) : List Rect :=
  if y ≤ bounds.max.y then
    match hb : (avoid ++ areas).find? fun a => decide ((⟨x, y⟩ : Vec2) ∈ a) with
    | some b => freeColumn bounds avoid x (b.max.y + 1) areas
    | none =>
      let area := areaAt bounds (avoid ++ areas) x y
      freeColumn bounds avoid x (area.max.y + 1) (areas ++ [area])
  else areas
termination_by (bounds.max.y + 1 - y).toNat
decreasing_by
  · have := lt_next_of_mem hb
    omega
  · have := le_ceilingAbove (x := x) ‹y ≤ bounds.max.y› (avoid ++ areas)
    simp only [areaAt]
    omega

end FreeFloor

open FreeFloor

/-- The cells of `bounds` outside of all the given rectangles, split into rectangles. -/
def freeFloor (bounds : Rect) (avoid : List Rect) : List Rect :=
  (List.range (bounds.max.x - bounds.min.x + 1).toNat).foldl
    (fun areas i => freeColumn bounds avoid (bounds.min.x + (i : Nat)) bounds.min.y areas) []

end TavernLayout
