import TavernLayout.Proofs.Alike.Growth
import TavernLayout.Tavern

/-!
# Buildings that are finished alike

Over two sources that give the same answers the same walls close the sides of the rooms, the same
roofs are built and the same furniture is put into them; so the same building is laid out.

* `same_partitionRooms`: the walls;
* `same_roofBuilding`: the roofs;
* `same_furnishBuilding`: the furniture;
* `same_layOut`: the building from its entrance to its furniture.
-/

namespace TavernLayout

section Alike

variable {σ τ : Type} {R : σ → τ → Prop} {src : Source σ} {src' : Source τ}

/-! ## Walls -/

namespace Partition

theorem same_coverSide (d : Dir) (ids : List (Ref .wall)) (bare : Sides)
    (joined : List (Ref .room)) :
    Same R (coverSide d ids bare joined) (coverSide d ids bare joined) := by
  induction ids generalizing bare joined with
  | nil => exact .pure (bare, joined)
  | cons id ids ih => exact (Build.same_wall id).bind fun wall => ih _ _

theorem same_coverSides (room : Room) (ds : List Dir) (bare : Sides) (joined : List (Ref .room)) :
    Same R (coverSides room ds bare joined) (coverSides room ds bare joined) := by
  induction ds generalizing bare joined with
  | nil => exact .pure (bare, joined)
  | cons d ds ih => exact (same_coverSide d _ bare joined).bind fun _ => ih _ _

theorem same_closeSide (id : Ref .room) (room : Box) (d : Dir) (ss : List Span) :
    Same R (closeSide id room d ss) (closeSide id room d ss) := by
  induction ss with
  | nil => exact .pure ()
  | cons s ss ih =>
    apply (Build.same_addWall _).bind
    exact fun wall => (Build.same_changeRoom id _).bind fun _ => ih

theorem same_closeSides (id : Ref .room) (room : Box) (bare : Sides) (ds : List Dir) :
    Same R (closeSides id room bare ds) (closeSides id room bare ds) := by
  induction ds with
  | nil => exact .pure ()
  | cons d ds ih => exact (same_closeSide id room d _).bind fun _ => ih

variable (h : src.Follows R src')

include h

theorem alike_drawDoor (a b : Box) (along : Span) :
    Alike (Source.Kept R) (drawDoor src a b along) (drawDoor src' a b along) := by
  apply Alike.ite
  · apply (Source.alike_chance h _).bind
    intro wanted
    apply Alike.ite
    · exact (Source.alike_between h _ _).bind fun first => .pure _
    · exact .pure none
  · exact .pure none

theorem same_joinRoom (id : Ref .room) (room : Box) (other : Ref .room) (bare : Sides) :
    Same R (joinRoom src id room other bare) (joinRoom src' id room other bare) := by
  apply (Build.same_room other).bind
  intro r
  apply Alike.ite
  · exact .pure bare
  · apply Alike.ite
    · exact .pure bare
    · refine (Build.same_draw (alike_drawDoor h _ _ _)).bind fun door => ?_
      refine (Build.same_addWall _).bind fun wall => (Build.same_changeRoom id _).bind fun _ => ?_
      exact (Build.same_changeRoom other _).bind fun _ => .pure _

theorem same_joinRooms (id : Ref .room) (room : Box) (joined others : List (Ref .room))
    (bare : Sides) :
    Same R (joinRooms src id room joined others bare)
      (joinRooms src' id room joined others bare) := by
  induction others generalizing bare with
  | nil => exact .pure bare
  | cons other others ih =>
    exact .ite (ih bare) ((same_joinRoom h id room other bare).bind fun bare => ih bare)

theorem same_closeRoom (id : Ref .room) : Same R (closeRoom src id) (closeRoom src' id) := by
  apply (Build.same_room id).bind
  intro room
  apply (same_coverSides room _ _ _).bind
  rintro ⟨bare, joined⟩
  apply Alike.bind_get
  intro w v hwv
  rw [hwv.rooms]
  apply (same_joinRooms h id room.bounds joined _ bare).bind
  exact fun bare => same_closeSides id room.bounds bare _

theorem same_closeRooms (ids : List (Ref .room)) :
    Same R (closeRooms src ids) (closeRooms src' ids) := by
  induction ids with
  | nil => exact .pure ()
  | cons id ids ih => exact (same_closeRoom h id).bind fun _ => ih

end Partition

theorem same_partitionRooms (h : src.Follows R src') :
    Same R (partitionRooms src) (partitionRooms src') := by
  apply Alike.bind_get
  intro w v hwv
  apply Alike.bind_get
  intro w' v' hwv'
  rw [hwv.walls, hwv'.rooms]
  apply (Partition.same_closeRooms h _).bind
  intro _
  apply Alike.bind_get
  intro w'' v'' hwv''
  rw [hwv''.walls]
  exact Build.same_note _

/-! ## Roofs -/

namespace Roofing

theorem same_link (f : Room → Room) (ids : List (Ref .room)) :
    Same R (link f ids) (link f ids) := by
  induction ids with
  | nil => exact .pure ()
  | cons id ids ih => exact (Build.same_changeRoom id f).bind fun _ => ih

variable (h : src.Follows R src')

include h

theorem alike_mergeLoop (rooms : Store .room Room) (roofs : Store .roof Roof) (base : Int)
    (fuel : Nat) (c : Canopy) :
    Alike (Source.Kept R) (mergeLoop src rooms roofs base fuel c)
      (mergeLoop src' rooms roofs base fuel c) := by
  induction fuel generalizing c with
  | zero => exact .ite (.pure c) (.throw _)
  | succ fuel ih =>
    apply Alike.ite
    · exact .pure c
    · apply (Source.alike_between h _ _).bind
      intro i
      cases c.sides[i.toNat]? with
      | none => exact .throw _
      | some d => exact (Alike.lift _).bind fun c => ih c

theorem alike_merge (rooms : Store .room Room) (roofs : Store .roof Roof) (id : Ref .room)
    (bounds : Rect) (base : Int) :
    Alike (Source.Kept R) (merge src rooms roofs id bounds base)
      (merge src' rooms roofs id bounds base) :=
  (alike_mergeLoop h rooms roofs base _ _).bind fun _ => .pure _

theorem alike_drawRoof (rooms : Store .room Room) (walls : Store .wall Wall)
    (covered above : List (Ref .room)) (bounds : Rect) (base : Int) :
    Alike (Source.Kept R) (drawRoof src rooms walls covered above bounds base)
      (drawRoof src' rooms walls covered above bounds base) := by
  apply (Alike.lift _).bind
  intro candidates
  have hstyle : ∀ stairs, Alike (Source.Kept R)
      (do
        let lottery ← Lottery.build (← RoofStyle.options rooms covered above bounds base)
        let style ← lottery.draw src
        return ({ bounds, base, style, stairs } : Roof))
      (do
        let lottery ← Lottery.build (← RoofStyle.options rooms covered above bounds base)
        let style ← lottery.draw src'
        return { bounds, base, style, stairs }) := by
    intro stairs
    refine (Alike.lift _).bind fun options => (Alike.lift _).bind fun lottery => ?_
    exact (Source.alike_lottery h lottery).bind fun style => .pure _
  apply Alike.ite
  · exact (Alike.pure none).bind hstyle
  · exact ((Source.alike_choose h candidates).map some).bind hstyle

theorem same_roofRoom (id : Ref .room) (room : Room) (roofs : Store .roof Roof) :
    Same R (roofRoom src id room roofs) (roofRoom src' id room roofs) := by
  apply Alike.bind_get
  intro w v hwv
  rw [hwv.rooms, hwv.walls]
  apply (Build.same_draw (alike_merge h _ _ _ _ _)).bind
  rintro ⟨bounds, covered⟩
  apply (Build.same_draw (alike_drawRoof h _ _ _ _ _ _)).bind
  intro roof
  apply (Alike.lift _).bind
  rintro ⟨ref, roofs⟩
  refine (same_link _ covered).bind fun _ => (same_link _ _).bind fun _ => ?_
  exact (Build.same_note _).bind fun _ => .pure roofs

theorem same_roofRooms (ids : List (Ref .room)) (roofs : Store .roof Roof) :
    Same R (roofRooms src ids roofs) (roofRooms src' ids roofs) := by
  induction ids generalizing roofs with
  | nil => exact .pure roofs
  | cons id ids ih =>
    refine (Build.same_room id).bind fun room => (Alike.lift _).bind fun covered => ?_
    exact .ite (ih roofs) ((same_roofRoom h id room roofs).bind fun roofs => ih roofs)

end Roofing

theorem same_roofBuilding (h : src.Follows R src') :
    Same R (roofBuilding src) (roofBuilding src') := by
  apply Alike.bind_get
  intro w v hwv
  rw [hwv.rooms]
  exact Roofing.same_roofRooms h _ _

/-! ## Furniture -/

section Furnishing

open Furnishing

variable (h : src.Follows R src')

include h

theorem alike_setTables (chance : Float) (areas : List Rect) :
    Alike (Source.Kept R) (setTables src chance areas) (setTables src' chance areas) := by
  induction areas with
  | nil => exact .pure ([], [])
  | cons area areas ih =>
    have hwants : Alike (Source.Kept R) (wantsTable src chance area)
        (wantsTable src' chance area) := .ite (Source.alike_chance h chance) (.pure false)
    exact hwants.bind fun placed => ih.bind fun _ => .pure _

theorem alike_addTables (chance : Float) (r : Room) :
    Alike (Source.Kept R) (addTables src chance r) (addTables src' chance r) :=
  (alike_setTables h chance r.areas).bind fun _ => .pure _

theorem alike_furnish (r : Room) : Alike (Source.Kept R) (furnish src r) (furnish src' r) := by
  unfold furnish
  cases r.kind with
  | garden => exact alike_addTables h _ r
  | stage => exact alike_addTables h _ _
  | bar => exact alike_addTables h _ _
  | seating => exact alike_addTables h _ r
  | entrance => exact .pure r
  | cellar => exact .pure r

theorem same_furnishRoom (roofs : Store .roof Roof) (id : Ref .room) :
    Same R (furnishRoom src roofs id) (furnishRoom src' roofs id) := by
  apply (Build.same_room id).bind
  intro room
  apply Alike.bind_get
  intro w v hwv
  rw [hwv.walls]
  refine (Alike.lift _).bind fun avoid => (Build.same_draw (alike_furnish h _)).bind fun r => ?_
  exact Build.same_changeRoom id _

theorem same_furnishEach (roofs : Store .roof Roof) (ids : List (Ref .room)) :
    Same R (furnishEach src roofs ids) (furnishEach src' roofs ids) := by
  induction ids with
  | nil => exact .pure ()
  | cons id ids ih => exact (same_furnishRoom h roofs id).bind fun _ => ih

theorem same_furnishBuilding (roofs : Store .roof Roof) :
    Same R (furnishBuilding src roofs) (furnishBuilding src' roofs) := by
  apply Alike.bind_get
  intro w v hwv
  rw [hwv.rooms]
  exact same_furnishEach h roofs _

end Furnishing

/-! ## Buildings -/

/-- Over sources that give the same answers the same building is laid out. -/
theorem same_layOut (h : src.Follows R src') (plot : Plot) (door : Vec3) (facing : Dir) :
    Same R (Tavern.layOut src plot door facing) (Tavern.layOut src' plot door facing) := by
  refine (same_addEntrance h plot door facing).discard.bind fun _ => ?_
  refine (same_grow h plot).bind fun _ => (same_partitionRooms h).bind fun _ => ?_
  refine (same_roofBuilding h).bind fun roofs => (same_furnishBuilding h roofs).bind fun _ => ?_
  exact .pure roofs

end Alike

end TavernLayout
