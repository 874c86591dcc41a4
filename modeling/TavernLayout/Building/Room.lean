import TavernLayout.Building.Kind
import TavernLayout.Building.Wall
import TavernLayout.Building.Roof
import TavernLayout.Grid.DirMap

/-!
# Rooms

A room is a box with walls on its sides, roofs above and below, and furniture. The walls and roofs
are references; the box never changes.

* `mem_wallRefs`: the walls of a room are those of its sides;
* `coveredBy_iff`: when a room counts as covered.
-/

namespace TavernLayout

inductive Furniture where
  | bar (area : Rect)
  | stage (area : Rect)
  /-- A table with a chair on each of the given sides. -/
  | table (position : Vec2) (chairs : List Dir)
  deriving DecidableEq, Repr

structure Room where
  bounds : Box
  kind : Kind
  /-- The walls on each side. -/
  walls : DirMap (List (Ref .wall)) := .const []
  /-- The roofs the room stands on. -/
  floors : List (Ref .roof) := []
  /-- The roofs over the room. -/
  roofs : List (Ref .roof) := []
  /-- Free floor that may still be furnished. -/
  areas : List Rect := []
  furniture : List Furniture := []
  deriving DecidableEq, Repr

namespace Room

/-- The rectangle below the room. -/
def footprint (r : Room) : Rect := r.bounds.footprint

def bottom (r : Room) : Int := r.bounds.min.z

def top (r : Room) : Int := r.bounds.max.z

def wallRefs (r : Room) : List (Ref .wall) := r.walls.toList.flatten

def addWall (r : Room) (d : Dir) (w : Ref .wall) : Room :=
  { r with walls := r.walls.modify d (· ++ [w]) }

/-- The room with one more roof over it. -/
def addRoof (r : Room) (roof : Ref .roof) : Room := { r with roofs := r.roofs ++ [roof] }

/-- The room with one more roof under it. -/
def addFloor (r : Room) (roof : Ref .roof) : Room := { r with floors := r.floors ++ [roof] }

/-- The first of the given roofs that encloses a rectangle decides; roofs after it do not matter. -/
def enclosedBy (roofs : Store .roof Roof) (space : Rect) : List (Ref .roof) → Except Fault Bool
  | [] => .ok false
  | id :: ids => do
    if (← roofs.lookup id).bounds.Encloses space then return true
    enclosedBy roofs space ids

/-- One of the room's roofs covers its whole footprint. -/
def coveredBy (r : Room) (roofs : Store .roof Roof) : Except Fault Bool :=
  enclosedBy roofs r.footprint r.roofs

theorem mem_wallRefs {r : Room} {w : Ref .wall} : w ∈ r.wallRefs ↔ ∃ d, w ∈ r.walls.get d := by
  simp only [wallRefs, DirMap.toList_eq_map, List.mem_flatten, List.mem_map]
  constructor
  · rintro ⟨ws, ⟨d, _, rfl⟩, hw⟩
    exact ⟨d, hw⟩
  · rintro ⟨d, hw⟩
    exact ⟨_, ⟨d, Dir.mem_all d, rfl⟩, hw⟩

theorem enclosedBy_iff {roofs : Store .roof Roof} {space : Rect} {ids : List (Ref .roof)}
    (h : ∀ id ∈ ids, ∃ roof, roofs.lookup id = .ok roof) :
    enclosedBy roofs space ids = .ok true ↔
      ∃ id ∈ ids, ∃ roof, roofs.lookup id = .ok roof ∧ roof.bounds.Encloses space := by
  induction ids with
  | nil => simp [enclosedBy]
  | cons id ids ih =>
    obtain ⟨roof, hr⟩ := h id List.mem_cons_self
    have hrest := ih fun i hi => h i (List.mem_cons_of_mem _ hi)
    have step : enclosedBy roofs space (id :: ids) =
        if roof.bounds.Encloses space then .ok true else enclosedBy roofs space ids := by
      rw [enclosedBy, hr]
      by_cases he : roof.bounds.Encloses space <;> simp [he, bind, Except.bind, pure, Except.pure]
    rw [step]
    by_cases he : roof.bounds.Encloses space
    · simp only [he, if_true, true_iff]
      exact ⟨id, List.mem_cons_self, roof, hr, he⟩
    · simp only [he, if_false, hrest, List.mem_cons, exists_eq_or_imp]
      constructor
      · exact .inr
      · rintro (⟨other, ho, henc⟩ | hex)
        · rw [hr] at ho
          cases ho
          exact absurd henc he
        · exact hex

theorem coveredBy_iff {r : Room} {roofs : Store .roof Roof}
    (h : ∀ id ∈ r.roofs, ∃ roof, roofs.lookup id = .ok roof) :
    r.coveredBy roofs = .ok true ↔
      ∃ id ∈ r.roofs, ∃ roof, roofs.lookup id = .ok roof ∧ roof.bounds.Encloses r.footprint :=
  enclosedBy_iff h

end Room

end TavernLayout
