import TavernLayout.Layout.Plot

/-!
# Partition

Growth leaves walls only where a room was added beside another. Here every side of every room is
closed. What its walls already cover is cut out of a side; a room one voxel away gets a shared wall,
often with a door; what is left becomes outer walls.

* `Partition.contact`: where two rooms touch;
* `Partition.wantsDoor`: where a shared wall may have a door;
* `Partition.closeRoom`: the walls that one room still needs.
-/

namespace TavernLayout

namespace Partition

/-- The sides of a room that are not yet walled. -/
abbrev Sides := DirMap (List Span)

def sides (room : Rect) : Sides :=
  .ofFn fun d => [⟨d.orthogonal.along room.min, d.orthogonal.along room.max⟩]

def Sides.cover (s : Sides) (d : Dir) (c : Span) : Sides := s.modify d (Span.cut · c)

/-- The positions that a wall of a side covers: those between its posts. -/
def covered (d : Dir) (w : Wall) : Span :=
  let s := Span.between (d.orthogonal.along w.start) (d.orthogonal.along w.stop)
  ⟨s.lo + 1, s.hi - 1⟩

/-- The direction from one footprint to the nearest part of another. -/
def toward (room other : Rect) : Dir :=
  let there := other.nearest room.center
  Dir.ofVec2 (there - room.nearest there)

/-- The cells between two footprints that touch a side of either. -/
def contact (room other : Rect) (d : Dir) : Rect := (d.push room 1).inter (d.opposite.push other 1)

/-- The positions of a contact along the wall. -/
def extent (contact : Rect) (d : Dir) : Span :=
  ⟨d.orthogonal.along contact.min, d.orthogonal.along contact.max⟩

def layers (a b : Box) : Span := ⟨min a.min.z b.min.z, max a.max.z b.max.z⟩

/-- Wall and layers leave space for a door, and the floors are less than four layers apart. -/
def wantsDoor (a b : Box) (along : Span) : Bool :=
  decide (2 < along.hi - along.lo ∧ 3 < (layers a b).hi - (layers a b).lo ∧
    (a.min.z - b.min.z).natAbs < 4)

def drawDoor {σ : Type} (src : Source σ) (a b : Box) (along : Span) : Draw σ (Option Span) := do
  if wantsDoor a b along then
    if ← src.chance 0.8 then
      let first ← src.between 1 (along.hi - along.lo - 2)
      return some ⟨first, first + 1⟩
  return none

def sharedWall (behind ahead : Ref .room) (a b : Box) (contact : Rect) (d : Dir)
    (door : Option Span) : Wall :=
  { start := contact.min - d.orthogonal.toVec2, stop := contact.max + d.orthogonal.toVec2,
    base := (layers a b).lo, top := (layers a b).hi, behind := some behind, ahead := some ahead,
    toward := d, door }

/-- The outer wall before some positions of a side. -/
def outerWall (id : Ref .room) (room : Box) (d : Dir) (s : Span) : Wall :=
  { start := d.edgePoint room.footprint (s.lo - 1) + d.toVec2,
    stop := d.edgePoint room.footprint (s.hi + 1) + d.toVec2,
    base := room.min.z, top := room.max.z, behind := some id, ahead := none, toward := d }

/-! ## One room -/

variable {σ : Type}

/-- Cuts the walls of one side out of it and collects the rooms at the other sides of them. -/
def coverSide (d : Dir) : List (Ref .wall) → Sides → List (Ref .room) →
    Build σ (Sides × List (Ref .room))
  | [], bare, joined => return (bare, joined)
  | id :: ids, bare, joined => do
    let wall ← Build.wall id
    coverSide d ids (bare.cover d (covered d wall)) (joined ++ wall.neighbours)

def coverSides (room : Room) : List Dir → Sides → List (Ref .room) →
    Build σ (Sides × List (Ref .room))
  | [], bare, joined => return (bare, joined)
  | d :: ds, bare, joined => do
    let (bare, joined) ← coverSide d (room.walls.get d) bare joined
    coverSides room ds bare joined

/-- Builds the wall between a room and another one that touches it. -/
def joinRoom (src : Source σ) (id : Ref .room) (room : Box) (other : Ref .room) (bare : Sides) :
    Build σ Sides := do
  let box := (← Build.room other).bounds
  if ¬room.Overlaps box then return bare
  let d := toward room.footprint box.footprint
  let c := contact room.footprint box.footprint d
  if ¬c.Valid then return bare
  let door ← Build.draw (drawDoor src room box (extent c d))
  let wall ← Build.addWall (sharedWall id other room box c d door)
  Build.changeRoom id (·.addWall d wall)
  Build.changeRoom other (·.addWall d.opposite wall)
  return bare.cover d (extent c d)

/-- Builds the walls between a room and those of the given rooms that it is not joined to. -/
def joinRooms (src : Source σ) (id : Ref .room) (room : Box) (joined : List (Ref .room)) :
    List (Ref .room) → Sides → Build σ Sides
  | [], bare => return bare
  | other :: others, bare => do
    if other ∈ joined then joinRooms src id room joined others bare
    else joinRooms src id room joined others (← joinRoom src id room other bare)

def closeSide (id : Ref .room) (room : Box) (d : Dir) : List Span → Build σ Unit
  | [] => return
  | s :: ss => do
    let wall ← Build.addWall (outerWall id room d s)
    Build.changeRoom id (·.addWall d wall)
    closeSide id room d ss

/-- Builds outer walls along what is open. -/
def closeSides (id : Ref .room) (room : Box) (bare : Sides) : List Dir → Build σ Unit
  | [] => return
  | d :: ds => do
    closeSide id room d (bare.get d)
    closeSides id room bare ds

def closeRoom (src : Source σ) (id : Ref .room) : Build σ Unit := do
  let room ← Build.room id
  let (bare, joined) ← coverSides room Dir.all (sides room.footprint) [id]
  let bare ← joinRooms src id room.bounds joined (← get).rooms.refs bare
  closeSides id room.bounds bare Dir.all

def closeRooms (src : Source σ) : List (Ref .room) → Build σ Unit
  | [] => return
  | id :: ids => do
    closeRoom src id
    closeRooms src ids

end Partition

/-- Closes every side of every room. -/
def partitionRooms {σ : Type} (src : Source σ) : Build σ Unit := do
  let before := (← get).walls.size
  let ids := (← get).rooms.refs
  Partition.closeRooms src ids
  Build.note (.partitioned ids.length (((← get).walls.size : Int) - before))

end TavernLayout
