import TavernLayout.Layout.Growth
import TavernLayout.Proofs.Alike.Programs

/-!
# Buildings that grow alike

Over two sources that give the same answers a building grows in the same way: every attempt draws
the same sides, meets the same rooms and adds the same walls. One statement for each program, up to
the growth of the whole building.

* `alike_placeBeside`, `alike_placeUnder`: the draws of a rectangle;
* `same_addEntrance`: the room behind the front door;
* `same_growSide`, `same_digBasement`: the two kinds of attempts;
* `same_grow`: all of the growth.
-/

namespace TavernLayout

section Alike

variable {σ τ : Type} {R : σ → τ → Prop} {src : Source σ} {src' : Source τ}

theorem Works.Alike.others {w : Works σ} {v : Works τ} (h : w.Alike R v) (id : Ref .room) :
    w.others id = v.others id := by
  rw [Works.others, Works.others, h.rooms]

theorem same_joinSideRoom (parent : Ref .room) (parentRect room : Rect) (d : Dir) (layers : Span)
    (k : Kind) (offset : Int) :
    Same R (joinSideRoom parent parentRect room d layers k offset)
      (joinSideRoom parent parentRect room d layers k offset) := by
  refine (Build.same_addRoom _).bind fun id => (Build.same_addWall _).bind fun wall => ?_
  refine (Build.same_changeRoom _ _).bind fun _ => (Build.same_changeRoom _ _).bind fun _ => ?_
  exact (Build.same_offer _ _).bind fun _ => (Build.same_note _).bind fun _ => .pure id

theorem same_joinBasement (parent : Ref .room) (room : Rect) (layers : Span) (k : Kind) :
    Same R (joinBasement parent room layers k) (joinBasement parent room layers k) := by
  refine (Build.same_addRoom _).bind fun id => (Build.same_offer _ _).bind fun _ => ?_
  exact (Build.same_note _).bind fun _ => .pure id

variable (h : src.Follows R src') (plot : Plot)

include h

/-! ## Rectangles -/

theorem alike_snapped (lo hi reach : Int) :
    Alike (Source.Kept R) (snapped src lo hi reach) (snapped src' lo hi reach) :=
  (Source.alike_between h lo hi).bind fun _ => .pure _

theorem alike_placeBeside (k : Kind) (space : Rect) (d : Dir) (p : Vec2) :
    Alike (Source.Kept R) (placeBeside src k space d p) (placeBeside src' k space d p) := by
  apply Alike.ite
  · exact .pure none
  · apply (alike_snapped h _ _ _).bind
    intro a
    apply Alike.ite
    · exact .pure none
    · refine (alike_snapped h _ _ _).bind fun b => ?_
      exact (Source.alike_between h 0 1).bind fun odd => .pure _

theorem alike_placeUnder (k : Kind) (space parent : Rect) :
    Alike (Source.Kept R) (placeUnder src k space parent) (placeUnder src' k space parent) := by
  apply Alike.ite
  · exact .pure none
  · apply (alike_snapped h _ _ _).bind
    intro a
    apply Alike.ite
    · exact .pure none
    · refine (alike_snapped h _ _ _).bind fun b => (Source.alike_choose h _).bind fun d => ?_
      exact (Source.alike_choose h _).bind fun orth => .pure _

/-! ## The entrance -/

theorem same_chooseEntrance (k : Kind) (door : Vec2) (facing : Dir) :
    Same R (chooseEntrance src plot k door facing) (chooseEntrance src' plot k door facing) := by
  apply (Build.same_draw (alike_placeBeside h _ _ _ _)).bind
  intro r?
  cases r? with
  | some r => exact .pure (k, r)
  | none =>
    refine .ite ((Alike.throw _).bind fun _ => ?_) ?_
    all_goals
      apply (Build.same_note _).bind
      intro _
      apply (Build.same_draw (alike_placeBeside h _ _ _ _)).bind
      intro r?
      cases r? with
      | some r => exact .pure (Kind.entrance, r)
      | none => exact .throw _

theorem same_addEntrance (door : Vec3) (facing : Dir) :
    Same R (addEntrance src plot door facing) (addEntrance src' plot door facing) := by
  refine (Alike.lift _).bind fun lottery => ?_
  refine (Build.same_draw (Source.alike_lottery h lottery)).bind fun wanted => ?_
  refine (Build.same_draw (Source.alike_between h _ _)).bind fun height => ?_
  refine (same_chooseEntrance h plot wanted door.plan facing).bind fun kr => ?_
  refine (Build.same_addRoom _).bind fun id => (Build.same_addWall _).bind fun wall => ?_
  refine (Build.same_changeRoom _ _).bind fun _ => (Build.same_offer _ _).bind fun _ => ?_
  exact .pure id

/-! ## Attempts -/

theorem same_growInto (parent : Ref .room) (parentRect space : Rect) (d : Dir) (layers : Span)
    (k : Kind) :
    Same R (growInto src parent parentRect space d layers k)
      (growInto src' parent parentRect space d layers k) := by
  apply Alike.ite
  · exact Build.same_refuse _
  · apply (Build.same_draw (Source.alike_between h _ _)).bind
    intro c
    apply (Build.same_draw (alike_placeBeside h _ _ _ _)).bind
    intro room?
    cases room? with
    | none => exact Build.same_refuse _
    | some room =>
      apply Alike.ite
      · exact Build.same_refuse _
      · refine (Build.same_draw (Source.alike_chance h _)).bind fun lower => ?_
        exact (same_joinSideRoom _ _ _ _ _ _ _).bind fun id => .pure (some id)

theorem same_growSide (parent : Ref .room) (d : Dir) :
    Same R (growSide src plot parent d) (growSide src' plot parent d) := by
  apply (Build.same_room parent).bind
  intro room
  apply (Build.same_draw (Source.alike_between h _ _)).bind
  intro height
  apply (Alike.lift _).bind
  intro wanted
  apply Alike.bind_get
  intro w v hwv
  rw [hwv.others parent]
  cases clearSpace _ _ _ (v.others parent) _ with
  | none => exact Build.same_refuse _
  | some fitted =>
    apply Alike.bind_get
    intro w v hwv
    rw [hwv.counts]
    apply (Alike.lift _).bind
    intro lottery?
    cases lottery? with
    | none => exact Build.same_refuse _
    | some lottery =>
      apply (Build.same_draw (Source.alike_lottery h lottery)).bind
      exact fun k => same_growInto h parent room.footprint fitted d _ k

theorem same_digBasement (parent : Ref .room) :
    Same R (digBasement src plot parent) (digBasement src' plot parent) := by
  apply (Build.same_room parent).bind
  intro room
  apply (Build.same_draw (Source.alike_between h _ _)).bind
  intro height
  apply Alike.bind_get
  intro w v hwv
  rw [hwv.others parent]
  cases clearSpace _ _ _ (v.others parent) _ with
  | none => exact Build.same_refuse _
  | some fitted =>
    apply Alike.bind_get
    intro w v hwv
    rw [hwv.counts]
    apply (Alike.lift _).bind
    intro lottery?
    cases lottery? with
    | none => exact Build.same_refuse _
    | some lottery =>
      apply (Build.same_draw (Source.alike_lottery h lottery)).bind
      intro k
      apply (Build.same_draw (alike_placeUnder h _ _ _)).bind
      intro r?
      cases r? with
      | none => exact Build.same_refuse _
      | some r => exact (same_joinBasement _ _ _ _).bind fun id => .pure (some id)

/-! ## Rounds -/

namespace Growth

theorem alike_nextTrial (p : Prospect) :
    Alike (Source.Kept R) (nextTrial src p) (nextTrial src' p) := by
  apply Alike.ite
  · exact (Source.alike_choose h _).bind fun d => .pure _
  · exact .ite (.pure _) (.pure _)

theorem same_step : Same R (step src plot) (step src' plot) := by
  apply Alike.bind_get
  intro w v hwv
  rw [hwv.frontier]
  apply (Build.same_draw (Source.alike_between h _ _)).bind
  intro i
  cases v.frontier[i.toNat]? with
  | none => exact .throw _
  | some p =>
    apply Alike.bind
    · exact .modify fun _ _ h => ⟨h.rooms, h.walls, h.counts, rfl, h.journal, h.stream⟩
    · intro _
      apply (Build.same_draw (alike_nextTrial h p)).bind
      rintro ⟨trial, q⟩
      have hback : Same R
          (if ¬q.exhausted then modify fun w => { w with frontier := w.frontier ++ [q] }
            else pure () : Build σ Unit)
          (if ¬q.exhausted then modify fun w => { w with frontier := w.frontier ++ [q] }
            else pure ()) :=
        .ite (.modify fun _ _ h =>
          ⟨h.rooms, h.walls, h.counts, by rw [h.frontier], h.journal, h.stream⟩) (.pure ())
      cases trial with
      | none => exact hback
      | some trial =>
        cases trial with
        | side d => exact (same_growSide h plot q.room d).discard.bind fun _ => hback
        | basement => exact (same_digBasement h plot q.room).discard.bind fun _ => hback

theorem same_run (fuel : Nat) : Same R (run src plot fuel) (run src' plot fuel) := by
  induction fuel with
  | zero =>
    apply Alike.bind_get
    intro w v hwv
    rw [hwv.frontier]
    exact .ite (.throw _) (.pure ())
  | succ fuel ih =>
    apply Alike.bind_get
    intro w v hwv
    rw [hwv.frontier]
    exact .ite ((same_step h plot).bind fun _ => ih) (.pure ())

end Growth

/-- Over sources that give the same answers buildings grow in the same way. -/
theorem same_grow : Same R (grow src plot) (grow src' plot) := by
  apply Alike.bind_get
  intro w v hwv
  have hbound : Growth.bound plot w = Growth.bound plot v := by
    simp only [Growth.bound, Growth.extent, hwv.rooms, hwv.frontier]
  rw [hbound]
  exact Growth.same_run h plot _

end Alike

end TavernLayout
