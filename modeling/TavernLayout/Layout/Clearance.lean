import TavernLayout.Grid.Box
import TavernLayout.Grid.DirMap

/-!
# Clearance

`clearSpace` narrows a space until it keeps clear of other rooms. An obstacle on nearby layers, with
two cells added all around, is cut off on the side that leaves the largest rectangle. Limits keep
an edge from being pulled back too far; where a limit leaves too little clearance the obstacle
itself must still stay outside.

* `clearSpace_append`: obstacles are avoided one after the other;
* `avoid_of_not_meets`: obstacles on far layers change nothing.
-/

namespace TavernLayout

/-- How far the edge opposite to each direction may be pulled back, if that is limited. -/
abbrev Limits := DirMap (Option Int)

namespace Clearance

/-- The distance kept from an obstacle. -/
def margin : Int := 2

/-- The part of `space` on the side of a direction, past the zone around an obstacle. There is none
where the zone reaches the edge or where a limit leaves the obstacle inside. -/
def cutBack (limits : Limits) (space zone obstacle : Rect) (d : Dir) : Option Rect :=
  if d.edge space * d.sign ≤ d.edge zone * d.sign then none
  else
    let far := d.edgePoint space (d.ccw.edge space)
    let near := d.edgePoint zone (d.cw.edge space)
    let near := match limits.get d with
      | none => near
      | some limit =>
        d.splice (Vec2.diag (min (d.along near * d.sign) (limit * d.sign) * d.sign)) near
    let part := (Rect.mk far near).sorted
    if (part.inter obstacle).Valid then none else some part

/-- The larger of two rectangles, the second one when they are equally large. -/
def larger (best : Option Rect) (r : Rect) : Option Rect :=
  match best with
  | none => some r
  | some b => if b.area ≤ r.area then some r else some b

/-- The largest rectangle of a list, the last one of several. -/
def largest (rs : List Rect) : Option Rect := rs.foldl larger none

/-- The space narrowed for one obstacle of the layers `lo` to `hi`. -/
def avoid (limits : Limits) (lo hi : Int) (space : Rect) (obstacle : Box) : Option Rect :=
  let zone := (obstacle.footprint.grow margin).inter space
  if obstacle.Meets lo hi ∧ zone.Valid then
    largest (Dir.all.filterMap (cutBack limits space zone obstacle.footprint))
  else some space

theorem avoid_of_not_meets {lo hi : Int} {obstacle : Box} (h : ¬ obstacle.Meets lo hi)
    (limits : Limits) (space : Rect) : avoid limits lo hi space obstacle = some space := by
  simp [avoid, h]

theorem mem_of_larger {best : Option Rect} {r s : Rect} (h : larger best r = some s) :
    s = r ∨ best = some s := by
  unfold larger at h
  split at h
  · exact .inl (Option.some.inj h).symm
  · split at h
    · exact .inl (Option.some.inj h).symm
    · exact .inr h

end Clearance

open Clearance

/-- The space narrowed until it keeps clear of every obstacle; none when one cannot be avoided. -/
def clearSpace (limits : Limits) (lo hi : Int) : List Box → Rect → Option Rect
  | [], space => some space
  | b :: bs, space => (avoid limits lo hi space b).bind (clearSpace limits lo hi bs)

theorem clearSpace_append (limits : Limits) (lo hi : Int) (as bs : List Box) (space : Rect) :
    clearSpace limits lo hi (as ++ bs) space =
      (clearSpace limits lo hi as space).bind (clearSpace limits lo hi bs) := by
  induction as generalizing space with
  | nil => rfl
  | cons a as ih =>
    simp only [List.cons_append, clearSpace]
    cases avoid limits lo hi space a with
    | none => rfl
    | some s => exact ih s

end TavernLayout
