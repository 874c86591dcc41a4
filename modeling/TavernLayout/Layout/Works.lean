import TavernLayout.Layout.Journal
import TavernLayout.Random.Source

/-!
# Building works

The state of a building under construction, and the programs that change it. A program that fails
keeps what it has done.

* `addRoom`, `addWall`, `changeRoom`: the only ways in which rooms and walls change;
* `draw`: a random draw changes nothing but the stream.
-/

namespace TavernLayout

/-- A room that may still be extended: the sides that are free, and whether a basement may be dug
under it. -/
structure Prospect where
  room : Ref .room
  sides : List Dir
  basement : Bool
  deriving DecidableEq, Repr

def Prospect.exhausted (p : Prospect) : Bool := p.sides.isEmpty && !p.basement

structure Works (σ : Type) where
  stream : Stream σ
  rooms : Store .room Room := .empty
  walls : Store .wall Wall := .empty
  counts : Counts := Counts.none
  frontier : List Prospect := []
  journal : List Event := []

/-- A program that changes a building under construction. -/
abbrev Build (σ : Type) := EStateM Fault (Works σ)

namespace Build

variable {σ α : Type}

def draw (d : Draw σ α) : Build σ α := fun w =>
  match d w.stream with
  | .ok a st => .ok a { w with stream := st }
  | .error e st => .error e { w with stream := st }

def note (e : Event) : Build σ Unit := modify fun w => { w with journal := w.journal ++ [e] }

def room (id : Ref .room) : Build σ Room := do (← get).rooms.lookup id

def wall (id : Ref .wall) : Build σ Wall := do (← get).walls.lookup id

def addRoom (r : Room) : Build σ (Ref .room) := do
  let (id, rooms) ← (← get).rooms.insert r
  modify fun w => { w with rooms := rooms }
  return id

def addWall (wl : Wall) : Build σ (Ref .wall) := do
  let (id, walls) ← (← get).walls.insert wl
  modify fun w => { w with walls := walls }
  return id

def changeRoom (id : Ref .room) (f : Room → Room) : Build σ Unit := do
  let rooms ← (← get).rooms.modify id f
  modify fun w => { w with rooms := rooms }

/-- Counts a room of a kind and offers it for extension. -/
def offer (p : Prospect) (k : Kind) : Build σ Unit :=
  modify fun w => { w with frontier := w.frontier ++ [p], counts := w.counts.add k }

end Build

end TavernLayout
