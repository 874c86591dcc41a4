import TavernLayout.Building.Kind
import TavernLayout.Grid.Dir

/-!
# Placing rooms

Given the space that is free, a room is sized at random within the ranges of its kind and put
either beyond a point of a wall (`placeBeside`) or under a corner of another room (`placeUnder`).
Each side is drawn from a range that the space, the side lengths and the areas of the kind leave;
when a range is empty there is no room. A side that comes close to the end of the space takes all
of it, so no strip is wasted.

* `snapTo_mem`: a drawn side stays in its range;
* `beside`, `underneath`: where a room of the drawn size goes.
-/

namespace TavernLayout

/-- A drawn side this close to the end of the space is stretched to it. -/
def snapTolerance : Int := 2

/-- Stretches a drawn side to `reach` when that is in range and near. -/
def snapTo (hi reach n : Int) : Int := if reach ≤ hi ∧ reach - n ≤ snapTolerance then reach else n

/-- A side from `lo` to `hi`, where the space ends at `reach`. -/
def snapped {σ : Type} (src : Source σ) (lo hi reach : Int) : Draw σ Int := do
  return snapTo hi reach (← src.between lo hi)

theorem snapTo_mem {lo hi reach n : Int} (h1 : lo ≤ n) (h2 : n ≤ hi) (hr : hi ≤ reach) :
    lo ≤ snapTo hi reach n ∧ snapTo hi reach n ≤ hi := by
  unfold snapTo
  split <;> omega

namespace Placement

/-! ## Beside a room -/

def alongSides (k : Kind) (space : Rect) (d : Dir) : Span :=
  ⟨k.sides.lo, min (d.along space.size) k.sides.hi⟩

/-- The side lengths across a direction, for a side of length `a` along it. -/
def acrossSides (k : Kind) (space : Rect) (d : Dir) (a : Int) : Span :=
  ⟨max ((k.areas.lo + a - 1) / a) k.sides.lo,
   min (d.orthogonal.along space.size) (min k.sides.hi (k.areas.hi / a))⟩

/-- The rectangle beyond `p` of length `a` along the direction and `b` across it. It starts `half`
cells clockwise of `p` and is moved into the space. -/
def beside (space : Rect) (d : Dir) (p : Vec2) (a b half : Int) : Rect :=
  let near := space.nearest (p + d.toVec2 + half • d.cw.toVec2)
  let far := space.nearest (near + a • d.toVec2 + b • d.ccw.toVec2)
  let near := far - a • d.toVec2 + b • d.cw.toVec2
  (Rect.mk near far).sorted

/-! ## Under a room -/

def xSides (k : Kind) (space : Rect) : Span := ⟨k.sides.lo, min space.size.x k.sides.hi⟩

/-- The side lengths along the y axis, for a side of length `a` along the x axis. -/
def ySides (k : Kind) (space : Rect) (a : Int) : Span :=
  ⟨max k.sides.lo (k.areas.lo / a), min space.size.y (min k.sides.hi (k.areas.hi / a))⟩

/-- The rectangle of the given size in the corner of `parent` between two directions, slid into
the space where it sticks out. -/
def underneath (space parent : Rect) (d orth : Dir) (size : Vec2) : Rect :=
  let plane := d.toVec2 + orth.toVec2
  let corner := d.edgePoint parent (orth.edge parent)
  let r := (Rect.mk corner (corner - plane * size)).sorted
  let slide := (size - (r.inter space).size) * plane
  (r.shift slide).inter space

end Placement

open Placement

/-- A room of a kind beyond the point `p`, in the given direction and space. -/
def placeBeside {σ : Type} (src : Source σ) (k : Kind) (space : Rect) (d : Dir) (p : Vec2) :
    Draw σ (Option Rect) := do
  let along := alongSides k space d
  if along.hi < along.lo then return none
  let a ← snapped src along.lo along.hi (d.along space.size)
  let across := acrossSides k space d a
  if across.hi < across.lo then return none
  let b ← snapped src across.lo across.hi (d.orthogonal.along space.size)
  let odd ← src.between 0 1
  let r := beside space d p a b (b / 2 + b % 2 * odd)
  return if space.Encloses r ∧ k.Accepts r then some r else none

/-- A room of a kind under the rectangle `parent`, in the given space. -/
def placeUnder {σ : Type} (src : Source σ) (k : Kind) (space parent : Rect) :
    Draw σ (Option Rect) := do
  let xs := xSides k space
  if xs.hi < xs.lo then return none
  let a ← snapped src xs.lo xs.hi space.size.x
  let ys := ySides k space a
  if ys.hi < ys.lo then return none
  let b ← snapped src ys.lo ys.hi space.size.y
  let d ← src.choose Dir.all
  let orth ← src.choose [d.orthogonal, d.orthogonal.opposite]
  let r := underneath space parent d orth ⟨a, b⟩
  return if k.Accepts r then some r else none

end TavernLayout
