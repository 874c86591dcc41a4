import TavernLayout.Layout.Growth
import TavernLayout.Proofs.Shift.Placement

/-!
# Growth on a shifted plot

On a shifted plot over shifted ground a building grows in the same way: every attempt draws the
same answers and fails or succeeds alike.

* `Plot.shift`: the shifted plot;
* `moves_placeBeside`, `moves_placeUnder`: one room is placed;
* `shifts_addEntrance`, `shifts_growSide`, `shifts_digBasement`: one room is added;
* `shifts_grow`: all of them.
-/

namespace TavernLayout

variable {σ : Type} {src : Source σ} {t p : Vec2} {d : Dir} {free parent : Rect} {k : Kind}

/-! ## Shifted plots -/

/-- The plot moved in the plan, with the ground under it. -/
def Plot.shift (plot : Plot) (t : Vec2) : Plot :=
  { plot with terrain := plot.terrain.shift t, interior := plot.interior.shift t }

@[simp] theorem Plot.terrain_shift {plot : Plot} :
    (plot.shift t).terrain = plot.terrain.shift t := rfl

@[simp] theorem Plot.interior_shift {plot : Plot} :
    (plot.shift t).interior = plot.interior.shift t := rfl

@[simp] theorem Plot.temperature_shift {plot : Plot} :
    (plot.shift t).temperature = plot.temperature := rfl

theorem Terrain.floorLevel_shift {terrain : Terrain} :
    (terrain.shift t).floorLevel (p + t) = terrain.floorLevel p := by
  simp only [floorLevel, shift, Vec2.add_sub_cancel_right]

theorem Terrain.doorLevel_shift {terrain : Terrain} :
    (terrain.shift t).doorLevel (p + t) = terrain.doorLevel p := by
  simp only [doorLevel, shift, Vec2.add_sub_cancel_right]

theorem Works.others_shift {w : Works σ} {id : Ref .room} :
    (w.shift t).others id = (w.others id).map (·.shift t) := by
  simp only [others, shift, Store.entries_map, List.filter_map, List.map_map]
  rfl

/-! ## Placing a room -/

open Placement

theorem moves_placeBeside :
    Moves id (Option.map (·.shift t)) (placeBeside src k free d p)
      (placeBeside src k (free.shift t) d (p + t)) := by
  simp only [placeBeside, alongSides_shift, acrossSides_shift, Rect.size_shift, beside_shift,
    Rect.encloses_shift, Kind.accepts_shift]
  refine .ite Iff.rfl (fun _ => .pure rfl) fun _ => (Moves.refl _).bind fun a => ?_
  refine .ite Iff.rfl (fun _ => .pure rfl) fun _ => (Moves.refl _).bind fun b => ?_
  refine (Moves.refl _).bind fun odd => .pure ?_
  dsimp only [id_eq]
  split <;> rfl

/-- Whatever position is answered, the choice is a member. -/
theorem Source.mem_of_choose_eq {α : Type} {as : List α} {a : α} {st st' : Stream σ}
    (h : src.choose as st = .ok a st') : a ∈ as := by
  cases as with
  | nil => cases h
  | cons b bs =>
    cases h
    rw [List.getD_eq_getElem?_getD]
    cases hi : (b :: bs)[(src.nextIndex st.state (bs.length + 1)).1]? with
    | none => exact List.mem_cons_self
    | some c => exact List.mem_of_getElem? hi

theorem moves_placeUnder :
    Moves id (Option.map (·.shift t)) (placeUnder src k free parent)
      (placeUnder src k (free.shift t) (parent.shift t)) := by
  simp only [placeUnder, xSides_shift, ySides_shift, Rect.size_shift]
  refine .ite Iff.rfl (fun _ => .pure rfl) fun _ => (Moves.refl _).bind fun a => ?_
  refine .ite Iff.rfl (fun _ => .pure rfl) fun _ => (Moves.refl _).bind fun b => ?_
  refine (Moves.refl _).bind fun d => (Moves.refl _).bind_of_ok fun orth _ _ horth => .pure ?_
  have halong : orth.along t = d.orthogonal.along t := by
    have hmem := Source.mem_of_choose_eq horth
    simp only [List.mem_cons, List.not_mem_nil, or_false] at hmem
    rcases hmem with rfl | rfl
    · rfl
    · exact Dir.along_opposite _ _
  simp only [id_eq, underneath_shift halong, Kind.accepts_shift]
  split <;> rfl

/-! ## The entrance -/

variable {plot : Plot}

open Entrance in
theorem shifts_chooseEntrance {door : Vec2} :
    Shifts t (Prod.map id (·.shift t)) (chooseEntrance src plot k door d)
      (chooseEntrance src (plot.shift t) k (door + t) d) := by
  refine (Build.shifts_draw moves_placeBeside).bind fun r? => ?_
  cases r? with
  | some r => exact .pure rfl
  | none =>
    refine .ite Iff.rfl (fun _ => .throw trivial) fun _ => ?_
    refine (Build.shifts_note _).bind fun _ => ?_
    refine (Build.shifts_draw moves_placeBeside).bind fun r? => ?_
    cases r? with
    | some r => exact .pure rfl
    | none => exact .throw trivial

open Entrance in
theorem shifts_addEntrance {door : Vec3} :
    Shifts t id (addEntrance src plot door d)
      (addEntrance src (plot.shift t) (door.shift t) d) := by
  unfold addEntrance
  rw [Plot.temperature_shift, Plot.interior_shift, Kind.entranceLottery_shift]
  refine (Moves.lift _).bind fun lottery => (Build.shifts_draw (.refl _)).bind fun wanted => ?_
  refine (Build.shifts_draw (.refl _)).bind fun height => shifts_chooseEntrance.bind fun kr => ?_
  obtain ⟨k, r⟩ := kr
  dsimp only [id_eq, Prod.map, Vec3.plan_shift, Vec3.z_shift, Box.ofRect_shift]
  simp only [Box.sorted_shift, front_shift]
  refine (Build.shifts_addRoom _).bind fun i => (Build.shifts_addWall _).bind fun wall => ?_
  refine (Build.shifts_changeRoom i fun _ => rfl).bind fun _ => ?_
  exact (Build.shifts_offer _ _).bind fun _ => .pure rfl

/-! ## Rooms beside rooms -/

open SideRoom

theorem shifts_joinSideRoom {i : Ref .room} {room : Rect} {layers : Span} {n : Int} :
    Shifts t id (joinSideRoom i parent room d layers k n : Build σ _)
      (joinSideRoom i (parent.shift t) (room.shift t) d layers k n) := by
  unfold joinSideRoom
  simp only [Box.ofRect_shift, sharedWall_shift]
  refine (Build.shifts_addRoom _).bind fun id => (Build.shifts_addWall _).bind fun wall => ?_
  refine (Build.shifts_changeRoom _ fun _ => rfl).bind fun _ => ?_
  refine (Build.shifts_changeRoom _ fun _ => rfl).bind fun _ => ?_
  refine (Build.shifts_offer _ _).bind fun _ => (Build.shifts_note _).bind fun _ => .pure rfl

theorem shifts_growInto (hs : src.Shifting) {i : Ref .room} {layers : Span} :
    Shifts t id (growInto src i parent free d layers k)
      (growInto src i (parent.shift t) (free.shift t) d layers k) := by
  unfold growInto
  simp only [facing_shift, Span.lo_shift, Span.hi_shift]
  refine .ite (by omega) (fun _ => Build.shifts_refuse rfl rfl) fun _ => ?_
  have hbetween := Source.moves_between hs ((facing parent free d).lo + 1)
    ((facing parent free d).hi - 1) (d.orthogonal.along t)
  rw [Int.add_right_comm, show ∀ a b : Int, a - 1 + b = a + b - 1 by omega] at hbetween
  refine (Build.shifts_draw hbetween).bind fun c => ?_
  rw [wallPoint_shift]
  refine (Build.shifts_draw moves_placeBeside).bind fun r? => ?_
  cases r? with
  | none => exact Build.shifts_refuse rfl rfl
  | some room =>
    simp only [Option.map_some, wallLength_shift, doorOffset_shift]
    refine .ite Iff.rfl (fun _ => Build.shifts_refuse rfl rfl) fun _ => ?_
    refine (Build.shifts_draw (.refl _)).bind fun lower => ?_
    exact shifts_joinSideRoom.bind fun _ => .pure rfl

theorem shifts_growSide (hs : src.Shifting) {i : Ref .room} :
    Shifts t id (growSide src plot i d) (growSide src (plot.shift t) i d) := by
  unfold growSide
  refine (Build.shifts_room i).bind fun room => ?_
  simp only [Plot.interior_shift, Room.footprint_shift, space_shift, Rect.center_shift,
    Plot.terrain_shift, Terrain.floorLevel_shift, Room.bounds_shift, floorLevel_shift, limits_shift,
    Plot.temperature_shift]
  refine (Build.shifts_draw (.refl _)).bind fun height => (Moves.lift _).bind fun wanted => ?_
  refine Moves.get.bind fun w => ?_
  simp only [id_eq, layers_shift, Works.others_shift, clearSpace_shift]
  cases clearSpace (limits room.footprint (space plot.interior room.footprint d) d) _ _
      (w.others i) (space plot.interior room.footprint d) with
  | none => exact Build.shifts_refuse rfl rfl
  | some fitted =>
    simp only [Option.map_some, Kind.sideLottery?_shift]
    refine Moves.get.bind fun w => (Moves.lift _).bind fun lottery? => ?_
    cases lottery? with
    | none => exact Build.shifts_refuse rfl rfl
    | some lottery => exact (Build.shifts_draw (.refl _)).bind fun k => shifts_growInto hs

/-! ## Basements -/

theorem shifts_joinBasement {i : Ref .room} {room : Rect} {layers : Span} :
    Shifts t id (joinBasement i room layers k : Build σ _)
      (joinBasement i (room.shift t) layers k) := by
  unfold joinBasement
  simp only [Box.ofRect_shift]
  refine (Build.shifts_addRoom _).bind fun id => (Build.shifts_offer _ _).bind fun _ => ?_
  exact (Build.shifts_note _).bind fun _ => .pure rfl

theorem shifts_digBasement {i : Ref .room} :
    Shifts t id (digBasement src plot i) (digBasement src (plot.shift t) i) := by
  unfold digBasement
  refine (Build.shifts_room i).bind fun room => (Build.shifts_draw (.refl _)).bind fun height => ?_
  refine Moves.get.bind fun w => ?_
  simp only [Room.bounds_shift, Room.footprint_shift, Basement.limits_shift, id_eq,
    Basement.layers_shift, Works.others_shift, Plot.interior_shift, clearSpace_shift]
  cases clearSpace (Basement.limits room.footprint) _ _ (w.others i) plot.interior with
  | none => exact Build.shifts_refuse rfl rfl
  | some fitted =>
    simp only [Option.map_some, Room.kind_shift, Kind.basementLottery?_shift]
    refine Moves.get.bind fun w => (Moves.lift _).bind fun lottery? => ?_
    cases lottery? with
    | none => exact Build.shifts_refuse rfl rfl
    | some lottery =>
      refine (Build.shifts_draw (.refl _)).bind fun k => ?_
      refine (Build.shifts_draw moves_placeUnder).bind fun r? => ?_
      cases r? with
      | none => exact Build.shifts_refuse rfl rfl
      | some r => exact shifts_joinBasement.bind fun _ => .pure rfl

/-! ## Rounds -/

namespace Growth

theorem shifts_step (hs : src.Shifting) :
    Shifts t id (step src plot) (step src (plot.shift t)) := by
  refine Moves.get.bind fun w => (Build.shifts_draw (.refl _)).bind fun i => ?_
  simp only [id_eq, Works.frontier_shift]
  cases w.frontier[i.toNat]? with
  | none => exact .throw (.refl _)
  | some p =>
    refine Moves.bind (Moves.modify fun _ => rfl) fun _ => ?_
    refine (Build.shifts_draw (.refl _)).bind fun tp => ?_
    obtain ⟨trial, q⟩ := tp
    have hback : Shifts t id
        (if ¬q.exhausted then modify fun w => { w with frontier := w.frontier ++ [q] }
          else pure () : Build σ Unit)
        (if ¬q.exhausted then modify fun w => { w with frontier := w.frontier ++ [q] }
          else pure ()) :=
      .ite Iff.rfl (fun _ => .modify fun _ => rfl) fun _ => .pure rfl
    cases trial with
    | none => exact hback
    | some trial =>
      cases trial with
      | side d => exact (shifts_growSide hs).discard.bind fun _ => hback
      | basement => exact shifts_digBasement.discard.bind fun _ => hback

theorem shifts_run (hs : src.Shifting) (fuel : Nat) :
    Shifts t id (run src plot fuel) (run src (plot.shift t) fuel) := by
  induction fuel with
  | zero =>
    refine Moves.get.bind fun w => ?_
    exact .ite Iff.rfl (fun _ => .throw (.refl _)) fun _ => .pure rfl
  | succ fuel ih =>
    refine Moves.get.bind fun w => ?_
    exact .ite Iff.rfl (fun _ => (shifts_step hs).bind fun _ => ih) fun _ => .pure rfl

theorem extent_shift {w : Works σ} :
    extent (plot.shift t) (w.shift t) = (extent plot w).shift t := by
  have hfold : ∀ (rs : List Room) (r : Rect),
      ((rs.map (·.shift t)).map Room.footprint).foldl (fun r s => r.hull s.sorted) (r.shift t) =
        ((rs.map Room.footprint).foldl (fun r s => r.hull s.sorted) r).shift t := by
    intro rs
    induction rs with
    | nil => exact fun _ => rfl
    | cons a rs ih =>
      intro r
      simp only [List.map_cons, List.foldl_cons, Room.footprint_shift, Rect.sorted_shift,
        Rect.hull_shift]
      exact ih _
  unfold extent
  rw [show (plot.shift t).interior.sorted = plot.interior.sorted.shift t from Rect.sorted_shift]
  show Rect.grow _ 2 = _
  rw [← Rect.grow_shift, ← hfold]
  rfl

theorem bound_shift {w : Works σ} : bound (plot.shift t) (w.shift t) = bound plot w := by
  simp only [bound, extent_shift, Rect.cells_shift]
  rfl

end Growth

theorem shifts_grow (hs : src.Shifting) :
    Shifts t id (grow src plot) (grow src (plot.shift t)) := by
  refine Moves.get.bind fun w => ?_
  rw [Growth.bound_shift]
  exact Growth.shifts_run hs _

end TavernLayout
