import TavernLayout.Layout.FreeFloor
import TavernLayout.Layout.Works

/-!
# Furnishing

Free areas turn into furniture. A stage takes the area that is largest along the walls, a bar the
largest one at any wall; then tables are put into the middle of areas, by chance. Halls and cellars
stay empty.

* `takeBest_perm`: taking an area loses none of the others;
* `length_setTables`: every area becomes a table or stays free.
-/

namespace TavernLayout

namespace Furnishing

/-- A table at a point with a chair on every side that lies in the area. -/
def table (p : Vec2) (area : Rect) : Furniture :=
  .table p (Dir.all.filter fun d => decide (p + d.toVec2 ∈ area))

/-- An area of more than two cells along some axis has space for a table. -/
def hasTableSpace (area : Rect) : Bool := decide (1 < area.size.greatest)

/-- Draws whether an area gets a table; a small one never does. -/
def wantsTable {σ : Type} (src : Source σ) (chance : Float) (area : Rect) : Draw σ Bool :=
  if hasTableSpace area then src.chance chance else pure false

/-- Puts tables into areas, each with the given chance. The areas without a table are returned. -/
def setTables {σ : Type} (src : Source σ) (chance : Float) :
    List Rect → Draw σ (List Furniture × List Rect)
  | [] => return ([], [])
  | area :: areas => do
    let placed ← wantsTable src chance area
    let (tables, free) ← setTables src chance areas
    return if placed then (table area.center area :: tables, free) else (tables, area :: free)

/-- The best score of a list of areas, zero at least. -/
def bestScore (score : Rect → Int) (areas : List Rect) : Int := (areas.map score).foldl max 0

/-- The first area of the best score and the other ones; none when no score is positive. -/
def takeBest (score : Rect → Int) (areas : List Rect) : Option (Rect × List Rect) :=
  let best := bestScore score areas
  if best ≤ 0 then none
  else
    (areas.findIdx? fun a => decide (score a = best)).bind fun i =>
      areas[i]?.map fun a => (a, areas.eraseIdx i)

/-- The number of edges of the room that an area touches. -/
def edgesShared (room area : Rect) : Int :=
  ((Dir.all.filter fun d => decide (d.edge area = d.edge room)).length : Int)

def stageScore (room area : Rect) : Int := edgesShared room area * area.area

def barScore (room area : Rect) : Int := min (edgesShared room area) 1 * area.area

/-- Puts one piece of furniture on the best area, if there is a good one. -/
def occupy (score : Rect → Int) (piece : Rect → Furniture) (r : Room) : Room :=
  match takeBest score r.areas with
  | none => r
  | some (area, areas) => { r with areas, furniture := r.furniture ++ [piece area] }

def addTables {σ : Type} (src : Source σ) (chance : Float) (r : Room) : Draw σ Room := do
  let (tables, areas) ← setTables src chance r.areas
  return { r with areas, furniture := r.furniture ++ tables }

/-! ## Laws -/

theorem cons_eraseIdx_perm {α : Type} {i : Nat} {as : List α} {a : α} (h : as[i]? = some a) :
    (a :: as.eraseIdx i).Perm as := by
  induction as generalizing i with
  | nil => simp at h
  | cons b as ih =>
    cases i with
    | zero =>
      simp only [List.getElem?_cons_zero, Option.some.injEq] at h
      subst h
      exact .refl _
    | succ i =>
      simp only [List.getElem?_cons_succ] at h
      exact (List.Perm.swap b a _).trans ((ih h).cons b)

theorem takeBest_perm {score : Rect → Int} {areas rest : List Rect} {a : Rect}
    (h : takeBest score areas = some (a, rest)) : (a :: rest).Perm areas := by
  unfold takeBest at h
  dsimp only at h
  split at h
  · cases h
  · obtain ⟨i, _, hi⟩ := Option.bind_eq_some_iff.1 h
    obtain ⟨b, hb, heq⟩ := Option.map_eq_some_iff.1 hi
    cases heq
    exact cons_eraseIdx_perm hb

theorem length_setTables {σ : Type} {src : Source σ} {chance : Float} {areas : List Rect}
    {tables : List Furniture} {free : List Rect} {st st' : Stream σ}
    (h : setTables src chance areas st = .ok (tables, free) st') :
    tables.length + free.length = areas.length := by
  induction areas generalizing tables free st st' with
  | nil =>
    cases h
    rfl
  | cons area areas ih =>
    obtain ⟨placed, st1, _, h1⟩ := bind_eq_ok_iff.1 h
    obtain ⟨⟨ts, fs⟩, st2, hr, h2⟩ := bind_eq_ok_iff.1 h1
    have := ih hr
    cases placed <;> cases h2 <;> simp only [List.length_cons] <;> omega

end Furnishing

open Furnishing

def furnish {σ : Type} (src : Source σ) (r : Room) : Draw σ Room :=
  match r.kind with
  | .garden | .seating => addTables src 0.7 r
  | .stage => addTables src 0.8 (occupy (stageScore r.footprint) .stage r)
  | .bar => addTables src 0.1 (occupy (barScore r.footprint) .bar r)
  | .entrance | .cellar => return r

/-- Finds the free areas of a room and furnishes them. -/
def furnishRoom {σ : Type} (src : Source σ) (roofs : Store .roof Roof) (id : Ref .room) :
    Build σ Unit := do
  let room ← Build.room id
  let avoid ← FreeFloor.reserved (← get).walls roofs room
  let furnished ← Build.draw (furnish src { room with areas := freeFloor room.footprint avoid })
  Build.changeRoom id fun _ => furnished

def furnishEach {σ : Type} (src : Source σ) (roofs : Store .roof Roof) :
    List (Ref .room) → Build σ Unit
  | [] => return
  | id :: ids => do
    furnishRoom src roofs id
    furnishEach src roofs ids

def furnishBuilding {σ : Type} (src : Source σ) (roofs : Store .roof Roof) : Build σ Unit := do
  furnishEach src roofs (← get).rooms.refs

end TavernLayout
