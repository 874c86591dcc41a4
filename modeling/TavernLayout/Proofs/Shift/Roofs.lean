import TavernLayout.Layout.Roofing
import TavernLayout.Proofs.Shift.Programs

/-!
# Roofs of a shifted building

The roofs of a shifted building are its shifted roofs, for any source of randomness: roofing only
asks for positions in lists.

* `possibleStairs_map`: the staircases;
* `moves_merge`: a growing roof;
* `options_map`, `moves_drawRoof`: the shape of a roof;
* `shifts_roofBuilding`: all roofs.
-/

namespace TavernLayout

variable {σ : Type} {src : Source σ} {t : Vec2} {d orth : Dir} {roof r overlap : Rect}
  {base n : Int}
  {rooms : Store .room Room} {walls : Store .wall Wall} {roofs : Store .roof Roof}

/-! ## Computations that may fail -/

theorem except_bind_map {α β α' β' : Type} {f : α → α'} {g : β → β'} {x : Except Fault α}
    {k : α → Except Fault β} {k' : α' → Except Fault β'} (h : ∀ a, k' (f a) = g <$> k a) :
    (f <$> x >>= k') = g <$> (x >>= k) := by
  cases x with
  | error e => rfl
  | ok a => exact h a

theorem mapM_map_except {α β β' : Type} {f : β → β'} {g : α → Except Fault β}
    {g' : α → Except Fault β'} (h : ∀ a, g' a = f <$> g a) (as : List α) :
    as.mapM g' = List.map f <$> as.mapM g := by
  induction as with
  | nil => rfl
  | cons a as ih =>
    rw [List.mapM_cons, List.mapM_cons, h]
    refine except_bind_map fun b => ?_
    rw [ih]
    exact except_bind_map fun bs => rfl

/-! ## Doors and stairs -/

namespace Wall

variable {w : Wall}

@[simp] theorem direction_shift : (w.shift t).direction = w.direction := by
  simp only [direction, shift, Vec2.add_sub_add]

theorem post_shift : (w.shift t).post n = w.post n + t := by
  rw [post, direction_shift, post]
  exact Vec2.add_right_comm

theorem doorRect_shift : (w.shift t).doorRect = w.doorRect.map (·.shift t) := by
  simp only [doorRect, post_shift, Rect.mk_shift, Rect.sorted_shift, Option.map_map]
  rfl

end Wall

namespace Stairs

theorem flush_shift {lower upper : Rect} :
    flush (lower.shift t) (upper.shift t) (overlap.shift t) = flush lower upper overlap := by
  simp only [flush, Dir.edge_shift, Int.add_left_inj]

theorem place_shift : place (overlap.shift t) n d orth = (place overlap n d orth).shift t := by
  simp only [place, Rect.size_shift, Dir.trim_shift]

theorem isClear_shift (doors : List Rect) :
    isClear (r.shift t) (doors.map (·.shift t)) = isClear r doors := by
  simp only [isClear, List.all_map, Rect.grow_shift, Function.comp_def, Rect.collides_shift]

theorem inDirection_shift {bottom top : Int} {doors : List Rect} {dirs : List Dir} :
    inDirection (overlap.shift t) bottom top (doors.map (·.shift t)) dirs d =
      (inDirection overlap bottom top doors dirs d).map (·.shift t) := by
  unfold inDirection
  rw [List.map_filterMap, List.filterMap_map, List.filterMap_map]
  congr 1
  funext orth
  simp only [Function.comp_apply, place_shift, Rect.valid_shift, isClear_shift]
  split <;> rfl

theorem hasSpace_shift {lower upper : Room} :
    HasSpace (lower.shift t) (upper.shift t) ↔ HasSpace lower upper := by
  simp only [HasSpace, Room.footprint_shift, Rect.inter_shift, Rect.valid_shift, Rect.size_shift]
  rfl

theorem doors_map (ids : List (Ref .wall)) :
    doors (walls.map (·.shift t)) ids = List.map (·.shift t) <$> doors walls ids := by
  unfold doors
  rw [mapM_map_except fun _ => Store.lookup_map]
  refine except_bind_map fun ws => ?_
  rw [List.filterMap_map, Function.comp_def]
  simp only [Wall.doorRect_shift, ← List.map_filterMap]
  rfl

theorem betweenRooms_map {lower upper : Room} :
    betweenRooms (walls.map (·.shift t)) (lower.shift t) (upper.shift t) =
      List.map (·.shift t) <$> betweenRooms walls lower upper := by
  have hwalls : (lower.shift t).wallRefs ++ (upper.shift t).wallRefs =
      lower.wallRefs ++ upper.wallRefs := rfl
  unfold betweenRooms
  simp only [hasSpace_shift, Room.footprint_shift, Rect.inter_shift, flush_shift]
  split
  · rw [hwalls, doors_map]
    refine except_bind_map fun ds => ?_
    show Except.ok _ = Except.ok (List.map _ (List.flatMap _ _))
    rw [List.map_flatMap]
    congr 2
    funext d
    exact inDirection_shift
  · rfl

theorem toRoom_map {upper : Room} (ids : List (Ref .room)) :
    toRoom (rooms.map (·.shift t)) (walls.map (·.shift t)) (upper.shift t) ids =
      List.map (·.shift t) <$> toRoom rooms walls upper ids := by
  induction ids with
  | nil => rfl
  | cons id ids ih =>
    unfold toRoom
    rw [Store.lookup_map]
    refine except_bind_map fun lower => ?_
    rw [betweenRooms_map]
    refine except_bind_map fun found => ?_
    rw [ih]
    refine except_bind_map fun rest => ?_
    rw [← List.map_append]
    rfl

end Stairs

theorem possibleStairs_map {covered : List (Ref .room)} (ids : List (Ref .room)) :
    possibleStairs (rooms.map (·.shift t)) (walls.map (·.shift t)) covered ids =
      List.map (·.shift t) <$> possibleStairs rooms walls covered ids := by
  induction ids with
  | nil => rfl
  | cons id ids ih =>
    unfold possibleStairs
    rw [Store.lookup_map]
    refine except_bind_map fun upper => ?_
    rw [Stairs.toRoom_map]
    refine except_bind_map fun found => ?_
    rw [ih]
    refine except_bind_map fun rest => ?_
    rw [← List.map_append]
    rfl

/-! ## What a roof touches -/

theorem abuts_shift : Abuts (roof.shift t) d (r.shift t) n ↔ Abuts roof d r n := by
  have hgap : gap (roof.shift t) d (r.shift t) = gap roof d r := by
    simp only [gap, Dir.edge_shift, Dir.along_opposite, Int.add_sub_add_right]
  simp only [Abuts, hgap, Dir.edge_shift, Dir.along_opposite]
  omega

theorem overlookingTops_map (as : List Room) :
    overlookingTops (as.map (·.shift t)) (roof.shift t) base = overlookingTops as roof base := by
  have hover : ∀ (d : Dir) (a : Room), Overlooks (a.shift t) (roof.shift t) base d ↔
      Overlooks a roof base d := by
    intro d a
    simp only [Overlooks, Room.footprint_shift, abuts_shift]
    rfl
  simp only [overlookingTops, List.find?_map, Function.comp_def, hover, Option.map_map]
  rfl

/-! ## Shapes -/

namespace RoofStyle

theorem allGardens_map {f : Room → Room} (hf : ∀ a, (f a).kind = a.kind)
    (ids : List (Ref .room)) : allGardens (rooms.map f) ids = allGardens rooms ids := by
  induction ids with
  | nil => rfl
  | cons id ids ih =>
    unfold allGardens
    rw [Store.lookup_map, ih]
    cases rooms.lookup id with
    | error fault => rfl
    | ok a =>
      show (if (f a).kind = .garden then _ else _) = _
      rw [hf]
      rfl

theorem options_map {covered above : List (Ref .room)} :
    options (rooms.map (·.shift t)) covered above (roof.shift t) base =
      options rooms covered above roof base := by
  have hopen : ∀ gardens, openOptions (rooms.map (·.shift t)).items gardens (roof.shift t) base =
      openOptions rooms.items gardens roof base := by
    intro gardens
    simp only [openOptions, Store.map, overlookingTops_map, Rect.size_shift]
  have hkind : ∀ a : Room, (a.shift t).kind = a.kind := fun _ => rfl
  simp only [options, exactOptions, allGardens_map hkind, hopen]

end RoofStyle

/-! ## Growing roofs -/

namespace Roofing

def Canopy.shift (c : Canopy) (t : Vec2) : Canopy := { c with bounds := c.bounds.shift t }

theorem joins_shift {c : Canopy} {id : Ref .room} {room : Room} :
    Joins (c.shift t) base d id (room.shift t) ↔ Joins c base d id room := by
  simp only [Joins, Canopy.shift, Room.footprint_shift, abuts_shift]
  rfl

theorem extend_shift {c : Canopy} {id : Ref .room} {room : Room} :
    (c.shift t).extend d id (room.shift t) = (c.extend d id room).shift t := by
  simp only [Canopy.extend, Canopy.shift, Room.footprint_shift, Dir.edge_shift,
    Int.add_sub_add_right, Dir.push_shift]

theorem growOn_map {c : Canopy} :
    growOn (rooms.map (·.shift t)) (roofs.map (·.shift t)) base d (c.shift t) =
      (·.shift t) <$> growOn rooms roofs base d c := by
  unfold growOn
  rw [Store.entries_map, List.find?_map]
  simp only [Function.comp_def, Prod.map, joins_shift, id_eq]
  cases rooms.entries.find? fun e => decide (Joins c base d e.1 e.2) with
  | none => rfl
  | some e =>
    obtain ⟨id, room⟩ := e
    simp only [Option.map_some, Prod.map, Room.coveredBy_map, extend_shift]
    cases room.coveredBy roofs with
    | error fault => rfl
    | ok covered => cases covered <;> rfl

theorem moves_mergeLoop (fuel : Nat) (c : Canopy) :
    Moves id (·.shift t) (mergeLoop src rooms roofs base fuel c)
      (mergeLoop src (rooms.map (·.shift t)) (roofs.map (·.shift t)) base fuel (c.shift t)) := by
  induction fuel generalizing c with
  | zero => exact .ite Iff.rfl (fun _ => .pure rfl) fun _ => .throw (.refl _)
  | succ fuel ih =>
    refine .ite Iff.rfl (fun _ => .pure rfl) fun _ => (Moves.refl _).bind fun i => ?_
    simp only [id_eq, Canopy.shift]
    cases c.sides[i.toNat]? with
    | none => exact .throw (.refl _)
    | some d => exact (Moves.lift_map growOn_map).bind fun c => ih c

theorem moves_merge {i : Ref .room} :
    Moves id (Prod.map (·.shift t) id) (merge src rooms roofs i r base)
      (merge src (rooms.map (·.shift t)) (roofs.map (·.shift t)) i (r.shift t) base) := by
  unfold merge
  rw [Store.size_map]
  exact (moves_mergeLoop _ _).bind fun c => .pure rfl

theorem standingOn_map :
    standingOn (rooms.map (·.shift t)) (r.shift t) base = standingOn rooms r base := by
  have hstands : ∀ e : Ref .room × Room,
      ((e.2.shift t).bottom - 1 = base ∧ (e.2.shift t).footprint.Collides (r.shift t)) ↔
        (e.2.bottom - 1 = base ∧ e.2.footprint.Collides r) := by
    intro e
    rw [Room.footprint_shift, Rect.collides_shift]
    rfl
  simp only [standingOn, Store.entries_map, List.filter_map, List.map_map, Function.comp_def,
    Prod.map, hstands, id_eq]

theorem moves_drawRoof {covered above : List (Ref .room)} :
    Moves id (·.shift t) (drawRoof src rooms walls covered above r base)
      (drawRoof src (rooms.map (·.shift t)) (walls.map (·.shift t)) covered above (r.shift t)
        base) := by
  unfold drawRoof
  rw [possibleStairs_map, RoofStyle.options_map]
  refine (Moves.lift_map rfl).bind fun candidates => ?_
  have hshape : ∀ stairs : Option Stairs, Moves id (·.shift t)
      (do
        let lottery ← Lottery.build (← RoofStyle.options rooms covered above r base)
        let style ← lottery.draw src
        return { bounds := r, base, style, stairs } : Draw σ Roof)
      (do
        let lottery ← Lottery.build (← RoofStyle.options rooms covered above r base)
        let style ← lottery.draw src
        return { bounds := r.shift t, base, style, stairs := stairs.map (·.shift t) }) := by
    intro stairs
    refine (Moves.lift _).bind fun options => (Moves.lift _).bind fun lottery => ?_
    exact (Moves.refl _).bind fun style => .pure rfl
  refine .ite List.map_eq_nil_iff (fun _ => hshape none) fun _ => ?_
  have hchoose : Moves id (Option.map (·.shift t)) (some <$> src.choose candidates)
      (some <$> src.choose (candidates.map (·.shift t))) :=
    (Source.moves_choose _ _).map fun _ => rfl
  exact hchoose.bind hshape

/-! ## All roofs -/

theorem shifts_link {f : Room → Room} (hf : ∀ r : Room, f (r.shift t) = (f r).shift t)
    (ids : List (Ref .room)) : Shifts t id (link f ids : Build σ Unit) (link f ids) := by
  induction ids with
  | nil => exact .pure rfl
  | cons i ids ih => exact (Build.shifts_changeRoom i hf).bind fun _ => ih

theorem shifts_roofRoom {i : Ref .room} {room : Room} :
    Shifts t (Store.map (·.shift t)) (roofRoom src i room roofs)
      (roofRoom src i (room.shift t) (roofs.map (·.shift t))) := by
  refine Moves.get.bind fun w => ?_
  rw [Room.footprint_shift, Rect.grow_shift]
  refine (Build.shifts_draw moves_merge).bind fun bc => ?_
  obtain ⟨bounds, covered⟩ := bc
  simp only [Prod.map, id_eq, Works.rooms_shift, Works.walls_shift, Room.top_shift, standingOn_map]
  refine (Build.shifts_draw moves_drawRoof).bind fun roof => ?_
  refine (Moves.lift_map (Store.insert_map roof)).bind fun added => ?_
  obtain ⟨ref, roofs⟩ := added
  refine (shifts_link (fun _ => rfl) _).bind fun _ => ?_
  refine (shifts_link (fun _ => rfl) _).bind fun _ => ?_
  exact (Build.shifts_note _).bind fun _ => .pure rfl

theorem shifts_roofRooms (ids : List (Ref .room)) :
    Shifts t (Store.map (·.shift t)) (roofRooms src ids roofs)
      (roofRooms src ids (roofs.map (·.shift t))) := by
  induction ids generalizing roofs with
  | nil => exact .pure rfl
  | cons i ids ih =>
    refine (Build.shifts_room i).bind fun room => ?_
    rw [Room.coveredBy_map]
    refine (Moves.lift _).bind fun covered => ?_
    exact .ite Iff.rfl (fun _ => ih) fun _ => shifts_roofRoom.bind fun _ => ih

end Roofing

theorem shifts_roofBuilding :
    Shifts t (Store.map (·.shift t)) (roofBuilding src) (roofBuilding src) := by
  refine Moves.get.bind fun w => ?_
  rw [Works.rooms_shift, Store.refs_map]
  exact Roofing.shifts_roofRooms _

end TavernLayout
