import Mathlib.Data.List.InsertIdx
import TavernLayout.Layout.Furnishing
import TavernLayout.Proofs.Shift.Roofs

/-!
# Furniture of a shifted building

The free floor of a shifted room is its shifted free floor, and it is furnished in the same way.

* `reserved_map`: what stays free;
* `freeFloor_shift`: the areas of a floor;
* `moves_furnish`: the furniture of a room;
* `shifts_furnishBuilding`: all furniture.
-/

namespace TavernLayout

variable {σ : Type} {src : Source σ} {t p : Vec2} {d : Dir} {r area bounds : Rect}
  {x y top right : Int}
  {walls : Store .wall Wall} {roofs : Store .roof Roof} {obstacles avoid : List Rect}

/-! ## What stays free -/

namespace FreeFloor

theorem walkway_shift : walkway (r.shift t) d (area.shift t) = (walkway r d area).shift t := by
  simp only [walkway, Rect.min_shift, Rect.max_shift, Dir.onEdge_shift, Rect.center_shift,
    Dir.splice_shift, Rect.mk_shift, Rect.sorted_shift]

theorem sideWalkways_map (ids : List (Ref .wall)) :
    sideWalkways (walls.map (·.shift t)) (r.shift t) d ids =
      List.map (·.shift t) <$> sideWalkways walls r d ids := by
  unfold sideWalkways
  rw [mapM_map_except fun _ => Store.lookup_map]
  refine except_bind_map fun ws => ?_
  show Except.ok _ = Except.ok _
  rw [List.filterMap_map, List.map_filterMap, List.map_filterMap, List.map_filterMap]
  simp only [Function.comp_def, Wall.doorRect_shift, Option.map_map, walkway_shift]

theorem walkways_map {room : Room} :
    walkways (walls.map (·.shift t)) (room.shift t) =
      List.map (·.shift t) <$> walkways walls room := by
  have hside : ∀ s : Dir × List (Ref .wall),
      sideWalkways (walls.map (·.shift t)) (room.shift t).footprint s.1 s.2 =
        List.map (·.shift t) <$> sideWalkways walls room.footprint s.1 s.2 :=
    fun s => by rw [Room.footprint_shift, sideWalkways_map]
  unfold walkways
  rw [mapM_map_except hside]
  refine except_bind_map fun ways => ?_
  show Except.ok _ = Except.ok _
  rw [List.map_flatten]

theorem stairways_map (ids : List (Ref .roof)) :
    stairways (roofs.map (·.shift t)) ids = List.map (·.shift t) <$> stairways roofs ids := by
  unfold stairways
  rw [mapM_map_except fun _ => Store.lookup_map]
  refine except_bind_map fun rs => ?_
  show Except.ok _ = Except.ok _
  rw [List.filterMap_map, List.map_filterMap, List.map_filterMap, List.map_filterMap]
  simp only [Function.comp_def, Roof.shift, Option.map_map]
  rfl

theorem reserved_map {room : Room} :
    reserved (walls.map (·.shift t)) (roofs.map (·.shift t)) (room.shift t) =
      List.map (·.shift t) <$> reserved walls roofs room := by
  unfold reserved
  rw [walkways_map]
  refine except_bind_map fun ways => ?_
  rw [show (room.shift t).floors ++ (room.shift t).roofs = room.floors ++ room.roofs from rfl,
    stairways_map]
  refine except_bind_map fun stairs => ?_
  show Except.ok _ = Except.ok _
  rw [← List.map_append, List.map_map, List.filter_map, List.filter_map, List.map_map]
  simp only [Function.comp_def, Room.footprint_shift, Rect.inter_shift, Rect.valid_shift]

/-! ## Sweeping -/

theorem ceilingAbove_shift :
    ceilingAbove (x + t.x) (y + t.y) (top + t.y) (obstacles.map (·.shift t)) =
      ceilingAbove x y top obstacles + t.y := by
  unfold ceilingAbove
  induction obstacles generalizing top with
  | nil => rfl
  | cons a as ih =>
    have hblocks : (((a.shift t).min.x ≤ x + t.x ∧ x + t.x ≤ (a.shift t).max.x) ∧
        y + t.y < (a.shift t).min.y ∧ (a.shift t).min.y ≤ top + t.y) ↔
        (a.min.x ≤ x ∧ x ≤ a.max.x) ∧ y < a.min.y ∧ a.min.y ≤ top := by
      simp only [Rect.shift, Vec2.x_add, Vec2.y_add]
      omega
    rw [List.map_cons, List.foldl_cons, List.foldl_cons, ← ih]
    congr 1
    by_cases h : (a.min.x ≤ x ∧ x ≤ a.max.x) ∧ y < a.min.y ∧ a.min.y ≤ top
    · rw [if_pos h, if_pos (hblocks.2 h)]
      show a.min.y + t.y - 1 = a.min.y - 1 + t.y
      omega
    · rw [if_neg h, if_neg (mt hblocks.1 h)]

theorem reachRight_shift :
    reachRight (x + t.x) (y + t.y) (top + t.y) (right + t.x) (obstacles.map (·.shift t)) =
      reachRight x y top right obstacles + t.x := by
  have hblocks : ∀ a : Rect, (x + t.x < (a.shift t).min.x ∧ (a.shift t).min.y ≤ top + t.y ∧
      y + t.y ≤ (a.shift t).max.y) ↔ x < a.min.x ∧ a.min.y ≤ top ∧ y ≤ a.max.y := by
    intro a
    simp only [Rect.shift, Vec2.x_add, Vec2.y_add]
    omega
  unfold reachRight
  simp only [List.filter_map, Function.comp_def, hblocks]
  generalize obstacles.filter _ = bs
  induction bs generalizing right with
  | nil => rfl
  | cons b bs ih =>
    have hmin : min (right + t.x) ((b.shift t).min.x - 1) = min right (b.min.x - 1) + t.x := by
      rw [Rect.min_shift, Vec2.x_add]
      omega
    rw [List.map_cons, List.foldl_cons, hmin, ih, List.foldl_cons]

theorem areaAt_shift :
    areaAt (bounds.shift t) (obstacles.map (·.shift t)) (x + t.x) (y + t.y) =
      (areaAt bounds obstacles x y).shift t := by
  simp only [areaAt, Rect.max_shift, Vec2.y_add, Vec2.x_add, ceilingAbove_shift, reachRight_shift]
  rfl

theorem freeColumn_of_some {areas : List Rect} {b : Rect} (hy : y ≤ bounds.max.y)
    (hb : (avoid ++ areas).find? (fun a => decide ((⟨x, y⟩ : Vec2) ∈ a)) = some b) :
    freeColumn bounds avoid x y areas = freeColumn bounds avoid x (b.max.y + 1) areas := by
  rw [freeColumn, if_pos hy]
  split
  · next c hc =>
    rw [hb] at hc
    obtain rfl := Option.some.inj hc
    rfl
  · next hc =>
    rw [hb] at hc
    cases hc

theorem freeColumn_of_none {areas : List Rect} {a : Rect} (hy : y ≤ bounds.max.y)
    (hb : (avoid ++ areas).find? (fun a => decide ((⟨x, y⟩ : Vec2) ∈ a)) = none)
    (ha : areaAt bounds (avoid ++ areas) x y = a) :
    freeColumn bounds avoid x y areas = freeColumn bounds avoid x (a.max.y + 1) (areas ++ [a]) := by
  subst ha
  rw [freeColumn, if_pos hy]
  split
  · next c hc =>
    rw [hb] at hc
    cases hc
  · rfl

theorem freeColumn_shift (areas : List Rect) :
    freeColumn (bounds.shift t) (avoid.map (·.shift t)) (x + t.x) (y + t.y)
        (areas.map (·.shift t)) =
      (freeColumn bounds avoid x y areas).map (·.shift t) := by
  have hfind : ∀ (y : Int) (areas : List Rect),
      ((avoid.map (·.shift t) ++ areas.map (·.shift t)).find? fun a =>
          decide ((⟨x + t.x, y + t.y⟩ : Vec2) ∈ a)) =
        ((avoid ++ areas).find? fun a => decide ((⟨x, y⟩ : Vec2) ∈ a)).map (·.shift t) := by
    intro y areas
    have hmem : ∀ a : Rect, (⟨x + t.x, y + t.y⟩ : Vec2) ∈ a.shift t ↔ (⟨x, y⟩ : Vec2) ∈ a := by
      intro a
      simp only [Rect.mem_iff, Rect.min_shift, Rect.max_shift, Vec2.x_add, Vec2.y_add]
      omega
    rw [← List.map_append, List.find?_map]
    simp only [Function.comp_def, hmem]
  fun_induction freeColumn bounds avoid x y areas with
  | case1 y areas hy b hb ih =>
    rw [freeColumn_of_some (by rw [Rect.max_shift, Vec2.y_add]; omega)
      (by rw [hfind, hb, Option.map_some]), Rect.max_shift, Vec2.y_add, Int.add_right_comm]
    exact ih
  | case2 y areas hy hb area ih =>
    have harea : areaAt (bounds.shift t) (avoid.map (·.shift t) ++ areas.map (·.shift t)) (x + t.x)
        (y + t.y) = area.shift t := by
      rw [← List.map_append, areaAt_shift]
    rw [freeColumn_of_none (by rw [Rect.max_shift, Vec2.y_add]; omega)
      (by rw [hfind, hb, Option.map_none]) harea, Rect.max_shift, Vec2.y_add, Int.add_right_comm]
    rw [List.map_append] at ih
    exact ih
  | case3 y areas hy =>
    rw [freeColumn, if_neg]
    simp only [Rect.max_shift, Vec2.y_add]
    omega

end FreeFloor

open FreeFloor in
/-- The areas of a shifted floor are its shifted areas, in the same order. -/
theorem freeFloor_shift :
    freeFloor (bounds.shift t) (avoid.map (·.shift t)) =
      (freeFloor bounds avoid).map (·.shift t) := by
  have hfold : ∀ (is : List Nat) (areas : List Rect),
      is.foldl (fun areas i => freeColumn (bounds.shift t) (avoid.map (·.shift t))
          (bounds.min.x + t.x + (i : Nat)) (bounds.min.y + t.y) areas) (areas.map (·.shift t)) =
        (is.foldl (fun areas i => freeColumn bounds avoid (bounds.min.x + (i : Nat)) bounds.min.y
          areas) areas).map (·.shift t) := by
    intro is
    induction is with
    | nil => exact fun _ => rfl
    | cons i is ih =>
      intro areas
      rw [List.foldl_cons, Int.add_right_comm, freeColumn_shift, ih, List.foldl_cons]
  have hwidth : (bounds.shift t).max.x - (bounds.shift t).min.x = bounds.max.x - bounds.min.x :=
    Int.add_sub_add_right _ _ _
  unfold freeFloor
  rw [hwidth]
  exact hfold _ []

/-! ## Furniture -/

namespace Furnishing

theorem table_shift : table (p + t) (area.shift t) = (table p area).shift t := by
  simp only [table, Vec2.add_right_comm (t := t), Rect.mem_shift, Furniture.shift]

theorem moves_setTables {chance : Float} (areas : List Rect) :
    Moves id (Prod.map (List.map (·.shift t)) (List.map (·.shift t)))
      (setTables src chance areas) (setTables src chance (areas.map (·.shift t))) := by
  induction areas with
  | nil => exact .pure rfl
  | cons area areas ih =>
    have hwants : wantsTable src chance (area.shift t) = wantsTable src chance area := by
      unfold wantsTable hasTableSpace
      rw [Rect.size_shift]
    simp only [List.map_cons, setTables, hwants, Rect.center_shift, table_shift]
    refine (Moves.refl _).bind fun placed => ih.bind fun rest => .pure ?_
    cases placed <;> rfl

theorem bestScore_shift {score score' : Rect → Int} (hs : ∀ a : Rect, score' (a.shift t) = score a)
    (areas : List Rect) : bestScore score' (areas.map (·.shift t)) = bestScore score areas := by
  simp only [bestScore, List.map_map, Function.comp_def, hs]

theorem takeBest_shift {score score' : Rect → Int} (hs : ∀ a : Rect, score' (a.shift t) = score a)
    (areas : List Rect) :
    takeBest score' (areas.map (·.shift t)) =
      (takeBest score areas).map (Prod.map (·.shift t) (List.map (·.shift t))) := by
  simp only [takeBest, bestScore_shift hs]
  split
  · rfl
  · simp only [List.findIdx?_map, Function.comp_def, hs, List.getElem?_map]
    cases areas.findIdx? fun a => decide (score a = bestScore score areas) with
    | none => rfl
    | some i =>
      simp only [Option.bind_some, Option.map_map, Function.comp_def, Prod.map, List.eraseIdx_map]

theorem edgesShared_shift : edgesShared (r.shift t) (area.shift t) = edgesShared r area := by
  simp only [edgesShared, Dir.edge_shift, Int.add_left_inj]

theorem stageScore_shift : stageScore (r.shift t) (area.shift t) = stageScore r area := by
  simp only [stageScore, edgesShared_shift, Rect.area_shift]

theorem barScore_shift : barScore (r.shift t) (area.shift t) = barScore r area := by
  simp only [barScore, edgesShared_shift, Rect.area_shift]

theorem occupy_shift {score score' : Rect → Int} {piece : Rect → Furniture} {room : Room}
    (hs : ∀ a : Rect, score' (a.shift t) = score a)
    (hp : ∀ a : Rect, piece (a.shift t) = (piece a).shift t) :
    occupy score' piece (room.shift t) = (occupy score piece room).shift t := by
  have htake := takeBest_shift hs room.areas
  unfold occupy
  rw [show (room.shift t).areas = room.areas.map (·.shift t) from rfl, htake]
  cases takeBest score room.areas with
  | none => rfl
  | some best =>
    simp only [Option.map_some, Prod.map, hp, Room.shift, List.map_append, List.map_cons,
      List.map_nil]

theorem moves_addTables {chance : Float} {room : Room} :
    Moves id (·.shift t) (addTables src chance room) (addTables src chance (room.shift t)) := by
  refine (moves_setTables room.areas).bind fun tf => .pure ?_
  simp only [Room.shift, List.map_append]

end Furnishing

open Furnishing

theorem moves_furnish {room : Room} :
    Moves id (·.shift t) (furnish src room) (furnish src (room.shift t)) := by
  unfold furnish
  rw [Room.kind_shift, Room.footprint_shift]
  cases room.kind with
  | garden | seating => exact moves_addTables
  | stage =>
    rw [occupy_shift (fun _ => stageScore_shift) fun _ => rfl]
    exact moves_addTables
  | bar =>
    rw [occupy_shift (fun _ => barScore_shift) fun _ => rfl]
    exact moves_addTables
  | entrance | cellar => exact .pure rfl

theorem shifts_furnishRoom (i : Ref .room) :
    Shifts t id (furnishRoom src roofs i) (furnishRoom src (roofs.map (·.shift t)) i) := by
  unfold furnishRoom
  refine (Build.shifts_room i).bind fun room => Moves.get.bind fun w => ?_
  refine (Moves.lift_map FreeFloor.reserved_map).bind fun avoid => ?_
  rw [Room.footprint_shift, freeFloor_shift]
  exact (Build.shifts_draw moves_furnish).bind fun room => Build.shifts_changeRoom _ fun _ => rfl

theorem shifts_furnishEach (ids : List (Ref .room)) :
    Shifts t id (furnishEach src roofs ids) (furnishEach src (roofs.map (·.shift t)) ids) := by
  induction ids with
  | nil => exact .pure rfl
  | cons i ids ih => exact (shifts_furnishRoom i).bind fun _ => ih

/-- The furniture of a shifted building. -/
theorem shifts_furnishBuilding :
    Shifts t id (furnishBuilding src roofs) (furnishBuilding src (roofs.map (·.shift t))) := by
  refine Moves.get.bind fun w => ?_
  rw [Works.rooms_shift, Store.refs_map]
  exact shifts_furnishEach _

end TavernLayout
