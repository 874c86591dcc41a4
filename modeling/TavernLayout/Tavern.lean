import TavernLayout.Layout.Furnishing
import TavernLayout.Layout.Growth
import TavernLayout.Layout.Partition
import TavernLayout.Layout.Roofing
import TavernLayout.Random.Provider
import TavernLayout.SignName
import TavernLayout.Site

/-!
# Taverns

A tavern is laid out on a plot in four stages: rooms grow from the entrance, walls close every side
of every room, roofs cover them, and the free floor is furnished. Then nothing changes any more.

* `Tavern.generate`: the whole layout;
* `Tavern.interior`: the part of a plot that rooms may use;
* `Tavern.coverage`: how much of it they do use.
-/

namespace TavernLayout

structure Tavern where
  name : String
  rooms : Store .room Room
  walls : Store .wall Wall
  roofs : Store .roof Roof
  /-- The tile before the front door. -/
  doorTile : Vec2
  /-- The front door, at floor level. -/
  door : Vec3
  /-- The whole plot. -/
  bounds : Rect

/-- The sources of the layout and of the name. -/
structure Streams (σ : Type) where
  layout : Source σ
  names : Source σ

namespace Streams

/-- One source for everything. -/
def single {σ : Type} (src : Source σ) : Streams σ := ⟨src, src⟩

/-- Two domains of a provider. Drawing a name never moves a layout. -/
def ofProvider {γ : Type} (gen : Generator γ) : Streams (Provider γ) :=
  ⟨Provider.stream gen "site.tavern", Provider.stream gen "site.tavern.name"⟩

end Streams

structure TavernRequest where
  doorTile : Vec2
  /-- The direction that the front door faces, out of the building. -/
  facing : Dir
  /-- The corner tiles of the plot. -/
  tiles : Rect
  /-- The floor level of the entrance; the ground's when it is left open. -/
  level : Option Int := none
  /-- The name on the sign; drawn when it is left open. -/
  name : Option String := none

namespace Tavern

def marginLow : Int := 1

def marginHigh : Int := 2

/-- The part of a plot that rooms may use. -/
def interior (plot : Rect) : Rect :=
  ⟨plot.min + Vec2.diag marginLow, plot.max - Vec2.diag marginHigh⟩

/-- The whole plot between two corner tiles. -/
def plotBounds (site : SiteMap) (tiles : Rect) : Rect :=
  ⟨site.tileStart tiles.min, site.tileStart tiles.max⟩

/-- The point of the interior next to the door tile. -/
def doorPoint (site : SiteMap) (req : TavernRequest) (interior : Rect) : Vec2 :=
  interior.nearest (req.facing.onEdge interior (site.tileCentre req.doorTile))

variable {σ : Type}

/-- Lays out the building behind a door and returns its roofs. -/
def layOut (src : Source σ) (plot : Plot) (door : Vec3) (facing : Dir) :
    Build σ (Store .roof Roof) := do
  discard (addEntrance src plot door facing)
  grow src plot
  partitionRooms src
  let roofs ← roofBuilding src
  furnishBuilding src roofs
  return roofs

/-- Draws the name, finds the door and lays the building out. -/
def generate (streams : Streams σ) (terrain : Terrain) (site : SiteMap) (req : TavernRequest) :
    Build σ Tavern := do
  let name ← match req.name with
    | some name => pure name
    | none => Build.draw (SignName.draw streams.names)
  let bounds := plotBounds site req.tiles
  let inside := interior bounds
  if ¬inside.Valid then throw (.noInterior bounds)
  let point := doorPoint site req inside
  let temperature ← terrain.temperature point
  let level ← match req.level with
    | some level => pure level
    | none => terrain.doorLevel point
  let door := point.atLevel level
  let roofs ← layOut streams.layout ⟨terrain, inside, temperature⟩ door req.facing
  let works ← get
  Build.note (.generated name door works.rooms.size works.walls.size roofs.size)
  return { name, rooms := works.rooms.freeze, walls := works.walls.freeze, roofs := roofs.freeze,
           doorTile := req.doorTile, door, bounds }

/-! ## Questions -/

/-- The room behind the front door. -/
def entrance (t : Tavern) : Except Fault Room := t.rooms.lookup ⟨0⟩

def counts (t : Tavern) : Counts := fun k =>
  ((t.rooms.items.filter fun r => decide (r.kind = k)).length : Int)

def roomsBeside (t : Tavern) (w : Wall) : Except Fault (List Room) :=
  w.neighbours.mapM t.rooms.lookup

def doors (t : Tavern) : List Wall := t.walls.items.filter fun w => w.door.isSome

def staircases (t : Tavern) : Nat := (t.roofs.items.filter fun r => r.stairs.isSome).length

/-- The footprints of the rooms above ground. -/
def groundRooms (t : Tavern) : List Rect :=
  (t.rooms.items.filter fun r => decide (r.kind ≠ .cellar)).map Room.footprint

/-- The number of cells of a rectangle that lie in one of the given ones. -/
def coveredCells (space : Rect) (rs : List Rect) : Nat :=
  (List.range (space.size.x + 1).toNat).foldl (fun (n i : Nat) =>
    n + (List.range (space.size.y + 1).toNat).countP fun j : Nat =>
      rs.any fun r => decide (space.min + ⟨i, j⟩ ∈ r)) 0

/-- The part of the interior that is covered by rooms above ground. -/
def coverage (t : Tavern) : Float :=
  let inside := interior t.bounds
  Float.ofNat (coveredCells inside t.groundRooms) / Float.ofInt inside.cells

end Tavern

end TavernLayout
