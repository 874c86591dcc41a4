import TavernLayout.Layout.Clearance
import TavernLayout.Layout.Placement
import TavernLayout.Layout.Plot

/-!
# Rooms beside rooms

An attempt to add a room on one side of another. The floor of the new room follows the ground, as
far as a staircase can reach; its layers contain those of the parent room, so the two share a wall
with a door. The attempt is given up when other rooms are in the way, when no kind of room fits, or
when there is no place for the door.

* `SideRoom.space`: what lies beyond the side;
* `SideRoom.floorLevel`: the floor of the new room;
* `SideRoom.limits`: how far the space may be cut back;
* `SideRoom.sharedWall`: the wall between parent and new room.
-/

namespace TavernLayout

namespace SideRoom

def heights : Span := ⟨3, 5⟩

/-- The longest staircase to another floor. -/
def longestStairs : Int := 5

/-- Everything between the side of the parent, one wall away, and the edge of the interior. -/
def space (interior parent : Rect) (d : Dir) : Rect :=
  (Rect.mk (d.onEdge parent interior.min + (2 : Int) • d.toVec2)
    (d.onEdge interior interior.max)).sorted

/-- The floor nearest to the wanted one that a staircase can reach. Stairs down lie in the parent
room and stairs up in the new one; they may use half of its length. -/
def floorLevel (parent : Box) (space : Rect) (d : Dir) (wanted : Int) : Int :=
  let room := if wanted < parent.min.z then parent.footprint else space
  let reach := min (d.along room.size / 2) longestStairs
  clamp wanted (parent.min.z - reach) (parent.min.z + reach)

def layers (parent : Box) (floor height : Int) : Span :=
  ⟨min parent.min.z floor, max parent.max.z (floor + height)⟩

/-- The side towards the parent stays where it is, and across it some of the parent's side remains
in sight. -/
def limits (parent space : Rect) (d : Dir) : Limits :=
  .ofFn fun e =>
    if e = d then some (d.opposite.edge space)
    else if e = d.opposite then none
    else some (e.edge (parent.grow (-1)))

/-- The positions along the parent's side that face the space. -/
def facing (parent space : Rect) (d : Dir) : Span :=
  let right := d.orthogonal
  let left := right.opposite
  .between (max (left.edge parent) (left.edge space)) (min (right.edge parent) (right.edge space))

/-- The point of the wall line at a position along the parent's side. -/
def wallPoint (parent : Rect) (d : Dir) (c : Int) : Vec2 := d.edgePoint parent c + d.toVec2

def firstPost (parent room : Rect) (d : Dir) : Vec2 :=
  let left := d.orthogonal.opposite
  wallPoint parent d (max (left.edge parent) (left.edge room)) + left.toVec2

def lastPost (parent room : Rect) (d : Dir) : Vec2 :=
  let right := d.orthogonal
  wallPoint parent d (min (right.edge parent) (right.edge room)) + right.toVec2

def wallLength (parent room : Rect) (d : Dir) : Int :=
  d.orthogonal.along (lastPost parent room d - firstPost parent room d)

/-- The offset of the first of two door voxels around a point of the wall; the point is the second
of them when `lower`. -/
def doorOffset (parent room : Rect) (d : Dir) (p : Vec2) (lower : Bool) : Int :=
  clamp (d.orthogonal.along (p - firstPost parent room d) - if lower then 1 else 0) 1
    (wallLength parent room d - 2)

def sharedWall (parent room : Rect) (d : Dir) (layers : Span) (behind ahead : Ref .room)
    (offset : Int) : Wall :=
  { start := firstPost parent room d, stop := lastPost parent room d, base := layers.lo,
    top := layers.hi, behind := some behind, ahead := some ahead, toward := d,
    door := some ⟨offset, offset + 1⟩ }

end SideRoom

open SideRoom

/-- Adds the new room, the wall to its parent and the new prospects. -/
def joinSideRoom {σ : Type} (parent : Ref .room) (parentRect room : Rect) (d : Dir)
    (layers : Span) (k : Kind) (offset : Int) : Build σ (Ref .room) := do
  let id ← Build.addRoom { bounds := .ofRect room layers.lo layers.hi, kind := k }
  let wall ← Build.addWall (sharedWall parentRect room d layers parent id offset)
  Build.changeRoom id (·.addWall d.opposite wall)
  Build.changeRoom parent (·.addWall d wall)
  Build.offer ⟨id, Dir.all.filter fun e => decide (e ≠ d.opposite), !k.basementKinds.isEmpty⟩ k
  Build.note (.grown id parent d k)
  return id

/-- Tries to add a room of a kind in the space that is left beyond a side. -/
def growInto {σ : Type} (src : Source σ) (parent : Ref .room) (parentRect space : Rect) (d : Dir)
    (layers : Span) (k : Kind) : Build σ (Option (Ref .room)) := do
  let range := facing parentRect space d
  if range.hi < range.lo + 2 then Build.refuse (.sideRefused parent d .noDoorSpace)
  else
    let p := wallPoint parentRect d (← Build.draw (src.between (range.lo + 1) (range.hi - 1)))
    match ← Build.draw (placeBeside src k space d p) with
    | none => Build.refuse (.sideRefused parent d (.doesNotFit k))
    | some room =>
      if wallLength parentRect room d < 3 then
        Build.refuse (.sideRefused parent d .noSharedWall)
      else
        let lower ← Build.draw (src.chance 0.5)
        return some (← joinSideRoom parent parentRect room d layers k
          (doorOffset parentRect room d p lower))

/-- Tries to add a room beyond one side of another. -/
def growSide {σ : Type} (src : Source σ) (plot : Plot) (parent : Ref .room) (d : Dir) :
    Build σ (Option (Ref .room)) := do
  let room ← Build.room parent
  let all := space plot.interior room.footprint d
  let height ← Build.draw (src.between heights.lo heights.hi)
  let wanted ← plot.terrain.floorLevel all.center
  let layers := layers room.bounds (floorLevel room.bounds all d wanted) height
  let limits := limits room.footprint all d
  match clearSpace limits layers.lo layers.hi ((← get).others parent) all with
  | none => Build.refuse (.sideRefused parent d .blocked)
  | some fitted =>
    match ← room.kind.sideLottery? fitted (← get).counts plot.temperature with
    | none => Build.refuse (.sideRefused parent d .nothingFits)
    | some lottery =>
      let k ← Build.draw (lottery.draw src)
      growInto src parent room.footprint fitted d layers k

end TavernLayout
