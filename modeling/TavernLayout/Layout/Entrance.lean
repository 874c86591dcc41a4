import TavernLayout.Layout.Placement
import TavernLayout.Layout.Plot

/-!
# The entrance

The room behind the front door is a hall or, in a warm place, a garden. Where a garden was drawn and
finds no place, a hall takes its turn. The front wall stands before the room and holds the door.

* `Entrance.front`: the front wall of a room.
-/

namespace TavernLayout

namespace Entrance

def heights : Span := ⟨3, 4⟩

/-- The front wall of a room with the given footprint and layers. The door is three voxels wide,
around the point of the wall next to `door` that leaves the end posts free. -/
def front (room : Rect) (layers : Span) (id : Ref .room) (door : Vec2) (facing : Dir) : Wall :=
  let start := facing.edgePoint room (facing.cw.edge room) + facing.cw.toVec2 + facing.toVec2
  let stop := facing.edgePoint room (facing.ccw.edge room) + facing.ccw.toVec2 + facing.toVec2
  let length : Int := (facing.cw.along (stop - start)).natAbs
  let middle := clamp ((facing.cw.along (door - start)).natAbs : Int) 2 (length - 2)
  { start, stop, base := layers.lo, top := layers.hi, behind := none, ahead := some id,
    toward := facing.opposite, door := some ⟨middle - 1, middle + 1⟩ }

end Entrance

open Entrance

def chooseEntrance {σ : Type} (src : Source σ) (plot : Plot) (k : Kind) (door : Vec2)
    (facing : Dir) : Build σ (Kind × Rect) := do
  match ← Build.draw (placeBeside src k plot.interior facing.opposite door) with
  | some r => return (k, r)
  | none =>
    if k = .entrance then throw (.noEntrance plot.interior)
    Build.note (.hallInstead k)
    match ← Build.draw (placeBeside src .entrance plot.interior facing.opposite door) with
    | some r => return (.entrance, r)
    | none => throw (.noEntrance plot.interior)

/-- Puts the first room behind the front door, with the front wall. -/
def addEntrance {σ : Type} (src : Source σ) (plot : Plot) (door : Vec3) (facing : Dir) :
    Build σ (Ref .room) := do
  let lottery ← Kind.entranceLottery plot.temperature (some plot.interior)
  let wanted ← Build.draw (lottery.draw src)
  let height ← Build.draw (src.between heights.lo heights.hi)
  let (k, r) ← chooseEntrance src plot wanted door.plan facing
  let bounds := (Box.ofRect r door.z (door.z + height)).sorted
  let id ← Build.addRoom { bounds, kind := k }
  let layers : Span := ⟨bounds.min.z, bounds.max.z⟩
  let wall ← Build.addWall (front r layers id door.plan facing)
  Build.changeRoom id (·.addWall facing wall)
  Build.offer ⟨id, Dir.all.filter fun d => decide (d ≠ facing), false⟩ k
  return id

end TavernLayout
