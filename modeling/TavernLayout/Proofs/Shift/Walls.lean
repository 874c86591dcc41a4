import TavernLayout.Layout.Partition
import TavernLayout.Proofs.Shift.Programs

/-!
# Walls of a shifted building

The walls of a shifted building are its shifted walls. Positions along a side move by the vector's
coordinate on the axis of that side.

* `Sides.shift`, `cover_shift`: the open positions of the sides of a room;
* `toward_shift`, `contact_shift`: where two rooms touch;
* `shifts_partitionRooms`: all walls.
-/

namespace TavernLayout

variable {σ : Type} {src : Source σ} {t : Vec2} {d : Dir} {room other : Rect} {a b : Box}

namespace Span

variable {s c : Span} {n : Int}

theorem minus_shift : (s.shift n).minus (c.shift n) = (s.minus c).map (·.shift n) := by
  simp only [minus, lo_shift, hi_shift, Int.add_lt_add_iff_right]
  split
  · rfl
  · rw [List.map_append]
    congr 1
    · split
      · simp [shift]
        omega
      · rfl
    · split
      · simp [shift]
        omega
      · rfl

theorem cut_shift (ss : List Span) :
    cut (ss.map (·.shift n)) (c.shift n) = (cut ss c).map (·.shift n) := by
  simp only [cut, List.flatMap_map, List.map_flatMap, minus_shift]

end Span

namespace Partition

def Sides.shift (s : Sides) (t : Vec2) : Sides :=
  .ofFn fun d => (s.get d).map (·.shift (d.orthogonal.along t))

theorem sides_shift : sides (room.shift t) = (sides room).shift t := by
  simp only [sides, Sides.shift, DirMap.get_ofFn, Rect.min_shift, Rect.max_shift, Dir.along_add]
  rfl

theorem cover_shift {s : Sides} {c : Span} :
    (s.shift t).cover d (c.shift (d.orthogonal.along t)) = (s.cover d c).shift t := by
  have hcut := Span.cut_shift (c := c) (n := d.orthogonal.along t) (s.get d)
  cases d <;> simpa [Sides.cover, Sides.shift, DirMap.modify, DirMap.set, DirMap.ofFn, DirMap.get]

theorem covered_shift {w : Wall} :
    covered d (w.shift t) = (covered d w).shift (d.orthogonal.along t) := by
  simp only [covered, Wall.shift, Dir.along_add, Span.between_shift, Span.lo_shift, Span.hi_shift]
  simp only [Span.shift, Span.mk.injEq]
  omega

@[simp] theorem toward_shift : toward (room.shift t) (other.shift t) = toward room other := by
  simp only [toward, Rect.center_shift, Rect.nearest_shift, Vec2.add_sub_add]

@[simp] theorem contact_shift :
    contact (room.shift t) (other.shift t) d = (contact room other d).shift t := by
  simp only [contact, Dir.push_shift, Rect.inter_shift]

theorem extent_shift : extent (room.shift t) d = (extent room d).shift (d.orthogonal.along t) := by
  simp only [extent, Rect.min_shift, Rect.max_shift, Dir.along_add, Span.shift]

theorem drawDoor_shift {s : Span} {n : Int} :
    drawDoor src (a.shift t) (b.shift t) (s.shift n) = drawDoor src a b s := by
  have hlength : (s.shift n).hi - (s.shift n).lo = s.hi - s.lo := by
    simp only [Span.hi_shift, Span.lo_shift]
    omega
  simp only [drawDoor, wantsDoor, hlength]
  rfl

theorem sharedWall_shift {behind ahead : Ref .room} {door : Option Span} :
    sharedWall behind ahead (a.shift t) (b.shift t) (room.shift t) d door =
      (sharedWall behind ahead a b room d door).shift t := by
  simp only [sharedWall, Wall.shift, Rect.min_shift, Rect.max_shift,
    Vec2.add_right_comm (t := t), Vec2.add_sub_right_comm (t := t)]
  rfl

theorem outerWall_shift {id : Ref .room} {s : Span} :
    outerWall id (a.shift t) d (s.shift (d.orthogonal.along t)) = (outerWall id a d s).shift t := by
  have hlo : s.lo + d.orthogonal.along t - 1 = s.lo - 1 + d.orthogonal.along t := by omega
  simp only [outerWall, Wall.shift, Span.lo_shift, Span.hi_shift, hlo,
    Int.add_right_comm _ _ (1 : Int), Box.footprint_shift, Dir.edgePoint_shift,
    Vec2.add_right_comm (t := t)]
  rfl

/-! ## Programs -/

theorem shifts_coverSide (ids : List (Ref .wall)) (bare : Sides) (joined : List (Ref .room)) :
    Shifts t (Prod.map (·.shift t) id) (coverSide d ids bare joined : Build σ _)
      (coverSide d ids (bare.shift t) joined) := by
  induction ids generalizing bare joined with
  | nil => exact .pure rfl
  | cons id ids ih =>
    refine (Build.shifts_wall id).bind fun wall => ?_
    rw [covered_shift, cover_shift]
    exact ih _ _

theorem shifts_coverSides {room : Room} (ds : List Dir) (bare : Sides)
    (joined : List (Ref .room)) :
    Shifts t (Prod.map (·.shift t) id) (coverSides room ds bare joined : Build σ _)
      (coverSides (room.shift t) ds (bare.shift t) joined) := by
  induction ds generalizing bare joined with
  | nil => exact .pure rfl
  | cons d ds ih => exact (shifts_coverSide _ _ _).bind fun _ => ih _ _

theorem shifts_joinRoom {id other : Ref .room} (bare : Sides) :
    Shifts t (·.shift t) (joinRoom src id a other bare)
      (joinRoom src id (a.shift t) other (bare.shift t)) := by
  unfold joinRoom
  refine (Build.shifts_room other).bind fun room => ?_
  simp only [Room.bounds_shift, Box.overlaps_shift, Box.footprint_shift, toward_shift,
    contact_shift, Rect.valid_shift, extent_shift, drawDoor_shift, sharedWall_shift, cover_shift]
  refine .ite Iff.rfl (fun _ => .pure rfl) fun _ => .ite Iff.rfl (fun _ => .pure rfl) fun _ => ?_
  refine (Build.shifts_draw (.refl _)).bind fun door => (Build.shifts_addWall _).bind fun wall => ?_
  refine (Build.shifts_changeRoom _ fun _ => rfl).bind fun _ => ?_
  exact (Build.shifts_changeRoom _ fun _ => rfl).bind fun _ => .pure rfl

theorem shifts_joinRooms {id : Ref .room} {joined : List (Ref .room)} (others : List (Ref .room))
    (bare : Sides) :
    Shifts t (·.shift t) (joinRooms src id a joined others bare)
      (joinRooms src id (a.shift t) joined others (bare.shift t)) := by
  induction others generalizing bare with
  | nil => exact .pure rfl
  | cons other others ih =>
    exact .ite Iff.rfl (fun _ => ih bare) fun _ => (shifts_joinRoom bare).bind fun _ => ih _

theorem shifts_closeSide {i : Ref .room} (ss : List Span) :
    Shifts t id (closeSide i a d ss : Build σ Unit)
      (closeSide i (a.shift t) d (ss.map (·.shift (d.orthogonal.along t)))) := by
  induction ss with
  | nil => exact .pure rfl
  | cons s ss ih =>
    rw [List.map_cons, closeSide, closeSide, outerWall_shift]
    refine (Build.shifts_addWall _).bind fun wall => ?_
    exact (Build.shifts_changeRoom _ fun _ => rfl).bind fun _ => ih

theorem shifts_closeSides {i : Ref .room} {bare : Sides} (ds : List Dir) :
    Shifts t id (closeSides i a bare ds : Build σ Unit)
      (closeSides i (a.shift t) (bare.shift t) ds) := by
  induction ds with
  | nil => exact .pure rfl
  | cons d ds ih =>
    rw [closeSides, closeSides, Sides.shift, DirMap.get_ofFn]
    exact (shifts_closeSide _).bind fun _ => ih

theorem shifts_closeRoom (i : Ref .room) :
    Shifts t id (closeRoom src i) (closeRoom src i) := by
  unfold closeRoom
  refine (Build.shifts_room i).bind fun room => ?_
  rw [Room.footprint_shift, sides_shift]
  refine (shifts_coverSides _ _ _).bind fun bj => Moves.get.bind fun w => ?_
  obtain ⟨bare, joined⟩ := bj
  simp only [id_eq, Works.rooms_shift, Store.refs_map, Room.bounds_shift]
  exact (shifts_joinRooms _ _).bind fun bare => shifts_closeSides _

theorem shifts_closeRooms (ids : List (Ref .room)) :
    Shifts t id (closeRooms src ids) (closeRooms src ids) := by
  induction ids with
  | nil => exact .pure rfl
  | cons i ids ih => exact (shifts_closeRoom i).bind fun _ => ih

end Partition

/-- The walls of a shifted building. -/
theorem shifts_partitionRooms : Shifts t id (partitionRooms src) (partitionRooms src) := by
  refine Moves.get.bind fun w => Moves.get.bind fun w' => ?_
  rw [Works.walls_shift, Works.rooms_shift, Store.size_map, Store.refs_map]
  refine (Partition.shifts_closeRooms _).bind fun _ => Moves.get.bind fun w'' => ?_
  rw [Works.walls_shift, Store.size_map]
  exact Build.shifts_note _

end TavernLayout
