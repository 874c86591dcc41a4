import TavernLayout.Layout.Basement
import TavernLayout.Layout.Entrance
import TavernLayout.Proofs.Shift.Programs

/-!
# Rooms that are placed on a shifted plot

Where a room of some size goes moves along with the space and the rooms around it; which sizes
it may have does not change.

* `beside_shift`, `underneath_shift`: a room of a given size;
* `clearSpace_shift`: the space that other rooms leave;
* `SideRoom.sharedWall_shift`, `Entrance.front_shift`: walls.
-/

namespace TavernLayout

variable {t p q : Vec2} {d orth : Dir} {free parent room obstacle : Rect} {k : Kind} {a b n : Int}

namespace Kind

@[simp] theorem fits_shift : k.Fits (free.shift t) ↔ k.Fits free := by
  simp only [Fits, Rect.size_shift]

@[simp] theorem accepts_shift : k.Accepts (room.shift t) ↔ k.Accepts room := by
  simp only [Accepts, Rect.size_shift, Rect.valid_shift]

theorem entranceLottery_shift {temperature : Float} :
    entranceLottery temperature (some (free.shift t)) =
      entranceLottery temperature (some free) := by
  simp only [entranceLottery, Option.all_some, fits_shift]

theorem sideLottery?_shift {counts : Counts} {temperature : Float} :
    k.sideLottery? (free.shift t) counts temperature = k.sideLottery? free counts temperature := by
  simp only [sideLottery?, fits_shift]

theorem basementLottery?_shift {counts : Counts} :
    k.basementLottery? (free.shift t) counts = k.basementLottery? free counts := by
  simp only [basementLottery?, fits_shift]

end Kind

namespace Placement

@[simp] theorem alongSides_shift : alongSides k (free.shift t) d = alongSides k free d := by
  simp only [alongSides, Rect.size_shift]

@[simp] theorem acrossSides_shift : acrossSides k (free.shift t) d a = acrossSides k free d a := by
  simp only [acrossSides, Rect.size_shift]

@[simp] theorem xSides_shift : xSides k (free.shift t) = xSides k free := by
  simp only [xSides, Rect.size_shift]

@[simp] theorem ySides_shift : ySides k (free.shift t) a = ySides k free a := by
  simp only [ySides, Rect.size_shift]

theorem beside_shift :
    beside (free.shift t) d (p + t) a b n = (beside free d p a b n).shift t := by
  simp only [beside, Vec2.add_right_comm (t := t), Rect.nearest_shift,
    Vec2.add_sub_right_comm (t := t), Rect.mk_shift, Rect.sorted_shift]

theorem underneath_shift {size : Vec2} (h : orth.along t = d.orthogonal.along t) :
    underneath (free.shift t) (parent.shift t) d orth size =
      (underneath free parent d orth size).shift t := by
  simp only [underneath, Dir.edge_shift, h, Dir.edgePoint_shift, Vec2.add_sub_right_comm (t := t),
    Rect.mk_shift, Rect.sorted_shift, Rect.inter_shift, Rect.size_shift, Rect.shift_comm (t := t)]

end Placement

/-! ## Keeping clear of other rooms -/

/-- Limits on edges move along with the edges. -/
def Limits.shift (l : Limits) (t : Vec2) : Limits := .ofFn fun d => (l.get d).map (· + d.along t)

namespace Clearance

variable {limits : Limits} {zone : Rect} {box : Box} {lo hi : Int}

theorem le_sign_shift {a b c : Int} :
    (a + c) * d.sign ≤ (b + c) * d.sign ↔ a * d.sign ≤ b * d.sign := by
  cases d <;> simp only [Dir.sign] <;> omega

theorem splice_limit_shift {limit : Int} :
    d.splice (Vec2.diag (min (d.along (p + t) * d.sign) ((limit + d.along t) * d.sign) * d.sign))
        (p + t) =
      d.splice (Vec2.diag (min (d.along p * d.sign) (limit * d.sign) * d.sign)) p + t := by
  cases d <;> ext <;> simp [Dir.splice, Dir.along, Dir.sign, Dir.isY]

theorem cutBack_shift :
    cutBack (limits.shift t) (free.shift t) (zone.shift t) (obstacle.shift t) d =
      (cutBack limits free zone obstacle d).map (·.shift t) := by
  unfold cutBack
  simp only [Dir.edge_shift, le_sign_shift]
  split
  · rfl
  · simp only [Dir.along_ccw, Dir.along_cw, Dir.edgePoint_shift, Limits.shift, DirMap.get_ofFn]
    cases limits.get d with
    | none =>
      simp only [Option.map_none, Rect.mk_shift, Rect.sorted_shift, Rect.inter_shift,
        Rect.valid_shift]
      split <;> rfl
    | some limit =>
      simp only [Option.map_some, splice_limit_shift, Rect.mk_shift, Rect.sorted_shift,
        Rect.inter_shift, Rect.valid_shift]
      split <;> rfl

theorem larger_shift {best : Option Rect} :
    larger (best.map (·.shift t)) (room.shift t) = (larger best room).map (·.shift t) := by
  cases best with
  | none => rfl
  | some r =>
    simp only [larger, Option.map_some, Rect.area_shift]
    split <;> rfl

theorem largest_shift (rs : List Rect) :
    largest (rs.map (·.shift t)) = (largest rs).map (·.shift t) := by
  have hfold : ∀ best : Option Rect, (rs.map (·.shift t)).foldl larger (best.map (·.shift t)) =
      (rs.foldl larger best).map (·.shift t) := by
    induction rs with
    | nil => exact fun _ => rfl
    | cons r rs ih =>
      intro best
      rw [List.map_cons, List.foldl_cons, larger_shift, ih, List.foldl_cons]
  exact hfold none

theorem avoid_shift :
    avoid (limits.shift t) lo hi (free.shift t) (box.shift t) =
      (avoid limits lo hi free box).map (·.shift t) := by
  simp only [avoid, Box.footprint_shift, Rect.grow_shift, Rect.inter_shift, Box.meets_shift,
    Rect.valid_shift]
  split
  · rw [← largest_shift, List.map_filterMap]
    congr 2
    funext d
    exact cutBack_shift
  · rfl

end Clearance

open Clearance

theorem clearSpace_shift {limits : Limits} {lo hi : Int} (boxes : List Box) :
    clearSpace (limits.shift t) lo hi (boxes.map (·.shift t)) (free.shift t) =
      (clearSpace limits lo hi boxes free).map (·.shift t) := by
  induction boxes generalizing free with
  | nil => rfl
  | cons box boxes ih =>
    simp only [List.map_cons, clearSpace, avoid_shift]
    cases avoid limits lo hi free box with
    | none => rfl
    | some s => exact ih

/-! ## Rooms beside rooms -/

namespace SideRoom

variable {box : Box} {wanted c : Int} {layers : Span} {behind ahead : Ref .room}

theorem space_shift : space (room.shift t) (parent.shift t) d = (space room parent d).shift t := by
  simp only [space, Rect.min_shift, Rect.max_shift, Dir.onEdge_shift, Vec2.add_right_comm (t := t),
    Rect.mk_shift, Rect.sorted_shift]

theorem floorLevel_shift :
    floorLevel (box.shift t) (free.shift t) d wanted = floorLevel box free d wanted := by
  by_cases h : wanted < box.min.z <;> simp [floorLevel, h]

theorem layers_shift {floor height : Int} :
    SideRoom.layers (box.shift t) floor height = SideRoom.layers box floor height := rfl

theorem limits_shift :
    limits (parent.shift t) (free.shift t) d = (limits parent free d).shift t := by
  simp only [limits, Limits.shift, DirMap.get_ofFn]
  congr 1
  funext e
  split
  · next h => simp [h, Dir.along_opposite]
  · split
    · rfl
    · simp

theorem facing_shift :
    facing (parent.shift t) (free.shift t) d =
      (facing parent free d).shift (d.orthogonal.along t) := by
  simp only [facing, Dir.edge_shift, Dir.along_opposite, Int.max_add_right, Int.min_add_right,
    Span.between_shift]

theorem wallPoint_shift :
    wallPoint (parent.shift t) d (c + d.orthogonal.along t) = wallPoint parent d c + t := by
  simp only [wallPoint, Dir.edgePoint_shift, Vec2.add_right_comm (t := t)]

theorem firstPost_shift :
    firstPost (parent.shift t) (room.shift t) d = firstPost parent room d + t := by
  simp only [firstPost, Dir.edge_shift, Dir.along_opposite, Int.max_add_right, wallPoint_shift,
    Vec2.add_right_comm (t := t)]

theorem lastPost_shift :
    lastPost (parent.shift t) (room.shift t) d = lastPost parent room d + t := by
  simp only [lastPost, Dir.edge_shift, Int.min_add_right, wallPoint_shift,
    Vec2.add_right_comm (t := t)]

theorem wallLength_shift :
    wallLength (parent.shift t) (room.shift t) d = wallLength parent room d := by
  simp only [wallLength, firstPost_shift, lastPost_shift, Vec2.add_sub_add]

theorem doorOffset_shift {lower : Bool} :
    doorOffset (parent.shift t) (room.shift t) d (p + t) lower =
      doorOffset parent room d p lower := by
  simp only [doorOffset, firstPost_shift, wallLength_shift, Vec2.add_sub_add]

theorem sharedWall_shift :
    sharedWall (parent.shift t) (room.shift t) d layers behind ahead n =
      (sharedWall parent room d layers behind ahead n).shift t := by
  simp only [sharedWall, firstPost_shift, lastPost_shift, Wall.shift]

end SideRoom

/-! ## Basements and the entrance -/

theorem Basement.layers_shift {box : Box} {height : Int} :
    Basement.layers (box.shift t) height = Basement.layers box height := rfl

theorem Basement.limits_shift : limits (parent.shift t) = (limits parent).shift t := by
  simp only [limits, Limits.shift, DirMap.get_ofFn, Rect.grow_shift, Dir.edge_shift,
    Dir.along_opposite, Option.map_some]

theorem Entrance.front_shift {layers : Span} {id : Ref .room} :
    front (room.shift t) layers id (p + t) d = (front room layers id p d).shift t := by
  simp only [front, Wall.shift, Dir.edge_shift, Dir.along_cw, Dir.along_ccw, Dir.edgePoint_shift,
    Vec2.add_right_comm (t := t), Vec2.add_sub_add]

end TavernLayout
