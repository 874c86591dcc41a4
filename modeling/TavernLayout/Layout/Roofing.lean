import TavernLayout.Layout.Roofing.Stairs
import TavernLayout.Layout.Roofing.Styles
import TavernLayout.Layout.Works

/-!
# Roofing

Rooms are roofed in their order. A roof starts over one room that is not covered yet, with an
overhang, and grows over rooms of the same height that it abuts, one side at a time. Rooms that
stand on it have it as their floor; a staircase may lead up to them.

* `Roofing.merge`: the roof after it has grown, and the rooms under it;
* `roofBuilding`: all roofs of a building.
-/

namespace TavernLayout

namespace Roofing

variable {σ : Type}

/-- How far a roof reaches beyond the rooms under it. -/
def overhang : Int := 2

/-- The largest gap to a room that a roof grows over. -/
def mergeGap : Int := 1

/-- A roof that is growing: its rectangle, the rooms under it, the sides it may still grow on. -/
structure Canopy where
  bounds : Rect
  covered : List (Ref .room)
  sides : List Dir

/-- The room may come under the roof on the side `d`. -/
def Joins (c : Canopy) (base : Int) (d : Dir) (id : Ref .room) (room : Room) : Prop :=
  id ∉ c.covered ∧ room.top + 1 = base ∧ Abuts c.bounds d room.footprint mergeGap

instance (c : Canopy) (base : Int) (d : Dir) (id : Ref .room) (room : Room) :
    Decidable (Joins c base d id room) := inferInstanceAs (Decidable (_ ∧ _ ∧ _))

def Canopy.extend (c : Canopy) (d : Dir) (id : Ref .room) (room : Room) : Canopy :=
  let reach := d.sign * (d.edge room.footprint - d.edge c.bounds)
  ⟨d.push c.bounds (reach + overhang), c.covered ++ [id], c.sides ++ [d]⟩

/-- The roof after one attempt to grow on the side `d`. The first room that may come under it
decides; when that one has a roof already, nothing happens. -/
def growOn (rooms : Store .room Room) (roofs : Store .roof Roof) (base : Int) (d : Dir)
    (c : Canopy) : Except Fault Canopy := do
  match rooms.entries.find? fun e => decide (Joins c base d e.1 e.2) with
  | none => return c
  | some (id, room) => if ← room.coveredBy roofs then return c else return c.extend d id room

/-- Grows a roof, on sides drawn at random, until no side is left. Every room that comes under it
gives one side back, which bounds `fuel`. -/
def mergeLoop (src : Source σ) (rooms : Store .room Room) (roofs : Store .roof Roof) (base : Int) :
    Nat → Canopy → Draw σ Canopy
  | 0, c => if c.sides = [] then return c else throw .unfinished
  | fuel + 1, c => do
    if c.sides = [] then return c
    let i ← src.between 0 ((c.sides.length : Int) - 1)
    match c.sides[i.toNat]? with
    | none => throw .outOfRange
    | some d =>
      let c ← growOn rooms roofs base d { c with sides := c.sides.eraseIdx i.toNat }
      mergeLoop src rooms roofs base fuel c

/-- The roof that starts over one room, and the rooms under it. -/
def merge (src : Source σ) (rooms : Store .room Room) (roofs : Store .roof Roof) (id : Ref .room)
    (bounds : Rect) (base : Int) : Draw σ (Rect × List (Ref .room)) := do
  let c ← mergeLoop src rooms roofs base (Dir.all.length + rooms.size) ⟨bounds, [id], Dir.all⟩
  return (c.bounds, c.covered)

def standingOn (rooms : Store .room Room) (bounds : Rect) (base : Int) : List (Ref .room) :=
  (rooms.entries.filter fun e =>
    decide (e.2.bottom - 1 = base ∧ e.2.footprint.Collides bounds)).map (·.1)

def drawRoof (src : Source σ) (rooms : Store .room Room) (walls : Store .wall Wall)
    (covered above : List (Ref .room)) (bounds : Rect) (base : Int) : Draw σ Roof := do
  let candidates ← possibleStairs rooms walls covered above
  let stairs ← if candidates = [] then pure none else some <$> src.choose candidates
  let lottery ← Lottery.build (← RoofStyle.options rooms covered above bounds base)
  let style ← lottery.draw src
  return { bounds, base, style, stairs }

def link (f : Room → Room) : List (Ref .room) → Build σ Unit
  | [] => return
  | id :: ids => do
    Build.changeRoom id f
    link f ids

/-- Roofs a room that is not covered yet. -/
def roofRoom (src : Source σ) (id : Ref .room) (room : Room) (roofs : Store .roof Roof) :
    Build σ (Store .roof Roof) := do
  let base := room.top + 1
  let w ← get
  let (bounds, covered) ←
    Build.draw (merge src w.rooms roofs id (room.footprint.grow overhang) base)
  let above := standingOn w.rooms bounds base
  let roof ← Build.draw (drawRoof src w.rooms w.walls covered above bounds base)
  let (ref, roofs) ← roofs.insert roof
  link (·.addRoof ref) covered
  link (·.addFloor ref) above
  Build.note (.roofed ref covered roof.style)
  return roofs

def roofRooms (src : Source σ) : List (Ref .room) → Store .roof Roof → Build σ (Store .roof Roof)
  | [], roofs => return roofs
  | id :: ids, roofs => do
    let room ← Build.room id
    if ← room.coveredBy roofs then roofRooms src ids roofs
    else roofRooms src ids (← roofRoom src id room roofs)

end Roofing

/-- Roofs every room, and links rooms and roofs to each other. -/
def roofBuilding {σ : Type} (src : Source σ) : Build σ (Store .roof Roof) := do
  Roofing.roofRooms src (← get).rooms.refs .empty

end TavernLayout
