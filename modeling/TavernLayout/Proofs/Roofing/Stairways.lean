import TavernLayout.Proofs.Roofing.Coverage

/-!
# Where stairs may stand

The staircases that may be drawn for a roof are listed pair by pair, corner by corner. In each of
the eight corners between a direction and a perpendicular one exactly one staircase has the right
size, and it lies in both rooms. All corners are tried, since every edge of an overlap is a side of
one of the two rooms; only doors exclude a corner.

* `Enumerates`: a list of the values of a relation, one for each key, and how such lists are made;
* `Stairs.InCorner`, `inCorner_iff`: the staircase of a corner;
* `Stairs.InCorner.inside`, `flush_eq`: it lies in both rooms, and all corners are tried;
* `Stairs.Candidate`: a staircase between two rooms that keeps clear of their doors;
* `stairs_of_corners`: the list of all candidates.
-/

namespace TavernLayout

variable {rooms : Store .room Room} {walls : Store .wall Wall} {covered above : List (Ref .room)}

/-! ## Lists of all values -/

/-- The list has one entry for each key that the relation gives a value, and this entry is the
value. -/
def Enumerates {κ α : Type} (P : κ → α → Prop) (as : List α) : Prop :=
  ∃ es : List (κ × α), (es.map Prod.fst).Nodup ∧ es.map Prod.snd = as ∧ ∀ k a, (k, a) ∈ es ↔ P k a

namespace Enumerates

variable {ι κ α : Type} {P Q : κ → α → Prop} {as bs : List α}

theorem congr (h : Enumerates P as) (hpq : ∀ k a, P k a ↔ Q k a) : Enumerates Q as := by
  obtain ⟨es, hn, hmap, hmem⟩ := h
  exact ⟨es, hn, hmap, fun k a => (hmem k a).trans (hpq k a)⟩

theorem nil (h : ∀ k a, ¬ P k a) : Enumerates P [] :=
  ⟨[], List.nodup_nil, rfl, fun k a => by simp [h k a]⟩

theorem append (hp : Enumerates P as) (hq : Enumerates Q bs)
    (hpq : ∀ k a b, P k a → ¬ Q k b) : Enumerates (fun k a => P k a ∨ Q k a) (as ++ bs) := by
  obtain ⟨es, hn, rfl, hmem⟩ := hp
  obtain ⟨fs, hn', rfl, hmem'⟩ := hq
  refine ⟨es ++ fs, ?_, List.map_append, fun k a => by rw [List.mem_append, hmem, hmem']⟩
  rw [List.map_append, List.nodup_append]
  refine ⟨hn, hn', ?_⟩
  rintro k hk l hl rfl
  obtain ⟨⟨k, a⟩, ha, rfl⟩ := List.mem_map.1 hk
  obtain ⟨⟨l, b⟩, hb, hkl⟩ := List.mem_map.1 hl
  obtain rfl : l = k := hkl
  exact hpq l a b ((hmem l a).1 ha) ((hmem' l b).1 hb)

theorem toList (k : κ) (o : Option α) :
    Enumerates (fun l a => l = k ∧ o = some a) o.toList := by
  cases o with
  | none => exact .nil fun l a => by simp
  | some a => exact ⟨[(k, a)], List.nodup_singleton k, rfl, fun l b => by simp [eq_comm]⟩

theorem flatMap {R : ι → κ → α → Prop} {is : List ι} {f : ι → List α} (hn : is.Nodup)
    (h : ∀ i ∈ is, Enumerates (R i) (f i))
    (hr : ∀ i j k a b, R i k a → R j k b → i = j) :
    Enumerates (fun k a => ∃ i ∈ is, R i k a) (is.flatMap f) := by
  induction is with
  | nil => exact .nil fun k a => by simp
  | cons i is ih =>
    obtain ⟨hi, hn⟩ := List.nodup_cons.1 hn
    have hrest := ih hn fun j hj => h j (List.mem_cons_of_mem i hj)
    refine (((h i List.mem_cons_self).append hrest ?_).congr fun k a => by simp)
    rintro k a b ha ⟨j, hj, hb⟩
    exact hi (hr i j k a b ha hb ▸ hj)

theorem filterMap {is : List ι} {f : ι → Option α} (key : ι → κ) (hn : is.Nodup)
    (hkey : ∀ i j, key i = key j → i = j) :
    Enumerates (fun k a => ∃ i ∈ is, k = key i ∧ f i = some a) (is.filterMap f) := by
  rw [List.filterMap_eq_flatMap_toList]
  exact flatMap hn (fun i _ => toList (key i) (f i)) fun i j k a b hi hj =>
    hkey i j (hi.1.symm.trans hj.1)

end Enumerates

namespace Stairs

/-! ## Corners -/

variable {lower upper : Room} {o r : Rect} {n : Int} {d orth : Dir} {s : Stairs}

def Perpendicular (d orth : Dir) : Prop := orth.axis ≠ d.axis

instance (d orth : Dir) : Decidable (Perpendicular d orth) := inferInstanceAs (Decidable (_ ≠ _))

/-- Two perpendicular directions and their opposites are all directions. -/
theorem Perpendicular.forall_iff {P : Dir → Prop} (h : Perpendicular d orth) :
    (∀ e, P e) ↔ P d ∧ P d.opposite ∧ P orth ∧ P orth.opposite := by
  constructor
  · intro hall
    exact ⟨hall _, hall _, hall _, hall _⟩
  · rintro ⟨h1, h2, h3, h4⟩ e
    have he : e = d ∨ e = d.opposite ∨ e = orth ∨ e = orth.opposite := by
      revert h
      cases d <;> cases orth <;> cases e <;> decide
    rcases he with rfl | rfl | rfl | rfl <;> assumption

theorem Perpendicular.ne (h : Perpendicular d orth) : d ≠ orth ∧ d ≠ orth.opposite := by
  revert h
  cases d <;> cases orth <;> decide

/-- A staircase begins at both edges of its corner and is moved nowhere else. -/
theorem reach_place (h : Perpendicular d orth) (o : Rect) (n : Int) :
    (d.reach (place o n d orth) = d.reach o ∧ d.opposite.reach (place o n d orth) = n - d.reach o) ∧
      orth.reach (place o n d orth) = orth.reach o ∧
      orth.opposite.reach (place o n d orth) = width - 1 - orth.reach o := by
  obtain ⟨hne, hne'⟩ := h.ne
  have hback : d.opposite ≠ orth.opposite := fun heq => by
    rw [← Dir.opposite_opposite d, heq, Dir.opposite_opposite] at hne
    exact hne rfl
  have hside : orth ≠ d.opposite := fun heq => by
    rw [heq, Dir.opposite_opposite] at hne'
    exact hne' rfl
  unfold place Dir.trim
  refine ⟨⟨?_, ?_⟩, ?_, ?_⟩
  · rw [Dir.reach_push_of_ne hne', Dir.reach_push_of_ne (Dir.opposite_ne d).symm]
  · rw [Dir.reach_push_of_ne hback, Dir.reach_push, Dir.along_size]
    omega
  · rw [Dir.reach_push_of_ne (Dir.opposite_ne orth).symm, Dir.reach_push_of_ne hside]
  · rw [Dir.reach_push, Dir.reach_push_of_ne hback.symm, Dir.along_size]
    omega

/-- The only rectangle of a given length and the width of a staircase in a corner. -/
theorem eq_place_iff (h : Perpendicular d orth) : r = place o n d orth ↔
    d.edge r = d.edge o ∧ orth.edge r = orth.edge o ∧ d.along r.size = n ∧
      orth.along r.size + 1 = width := by
  obtain ⟨⟨h1, h2⟩, h3, h4⟩ := reach_place h o n
  rw [Rect.ext_iff_reach, h.forall_iff, h1, h2, h3, h4, Dir.edge_eq_iff, Dir.edge_eq_iff,
    Dir.along_size, Dir.along_size]
  omega

def climb (lower upper : Room) : Int := upper.bottom - 1 - lower.bottom

/-- The staircase climbs in direction `d` and stands in the corner between `d` and `orth` of the
overlap of two rooms. It is as long as it is high. -/
structure InCorner (lower upper : Room) (d orth : Dir) (s : Stairs) : Prop where
  perpendicular : Perpendicular d orth
  direction : s.climbing = d
  front : d.edge s.bounds.footprint = d.edge (lower.footprint.inter upper.footprint)
  side : orth.edge s.bounds.footprint = orth.edge (lower.footprint.inter upper.footprint)
  long : d.along s.bounds.footprint.size = climb lower upper
  wide : orth.along s.bounds.footprint.size + 1 = width
  bottom : s.bounds.min.z = lower.bottom
  top : s.bounds.max.z = upper.bottom - 1

def inCorner (lower upper : Room) (d orth : Dir) : Stairs :=
  ⟨.ofRect (place (lower.footprint.inter upper.footprint) (climb lower upper) d orth) lower.bottom
    (upper.bottom - 1), d⟩

theorem inCorner_iff :
    InCorner lower upper d orth s ↔ Perpendicular d orth ∧ s = inCorner lower upper d orth := by
  constructor
  · rintro ⟨hperp, rfl, hfront, hside, hlong, hwide, hbottom, htop⟩
    refine ⟨hperp, ?_⟩
    obtain ⟨⟨⟨x1, y1, z1⟩, x2, y2, z2⟩, d⟩ := s
    have hplace := (eq_place_iff hperp).2 ⟨hfront, hside, hlong, hwide⟩
    rw [inCorner, ← hplace, ← hbottom, ← htop]
    rfl
  · rintro ⟨hperp, rfl⟩
    obtain ⟨hfront, hside, hlong, hwide⟩ := (eq_place_iff hperp).1 rfl
    exact ⟨hperp, rfl, hfront, hside, hlong, hwide, rfl, rfl⟩

theorem least_le_along (d : Dir) (v : Vec2) : v.least ≤ d.along v := by
  cases d <;> simp only [Vec2.least, Dir.along, Dir.isY, if_true, if_false, Bool.false_eq_true] <;>
    omega

/-- A staircase that is no longer than the overlap of two rooms lies in both. -/
theorem InCorner.inside (h : InCorner lower upper d orth s) (hspace : HasSpace lower upper)
    (hrise : lower.bottom < upper.bottom) : s.bounds.footprint.Valid ∧
      lower.footprint.Encloses s.bounds.footprint ∧
      upper.footprint.Encloses s.bounds.footprint := by
  obtain ⟨hperp, -, hfront, hside, hlong, hwide, -, -⟩ := h
  have hpos : 0 ≤ climb lower upper := by
    unfold climb
    omega
  have hshort : ∀ e : Dir,
      climb lower upper < e.along (lower.footprint.inter upper.footprint).size :=
    fun e => Int.lt_of_lt_of_le hspace.2 (least_le_along e _)
  have hd := hshort d
  have hside' := hshort orth
  have hwidth : width = 2 := rfl
  rw [Dir.edge_eq_iff] at hfront hside
  rw [Dir.along_size] at hlong hwide hd hside'
  have hin : (lower.footprint.inter upper.footprint).Encloses s.bounds.footprint := by
    rw [Dir.encloses_iff_reach, hperp.forall_iff]
    omega
  refine ⟨?_, (Rect.encloses_inter_left _ _).trans hin, (Rect.encloses_inter_right _ _).trans hin⟩
  rw [Dir.valid_iff_reach, hperp.forall_iff, Dir.opposite_opposite, Dir.opposite_opposite]
  omega

/-- Every edge of the overlap of two rectangles is an edge of one of them. -/
theorem flush_eq (r s : Rect) : flush r s (r.inter s) = Dir.all := by
  refine List.filter_eq_self.2 fun d _ => decide_eq_true ?_
  cases d <;> simp [Dir.edge, Rect.inter] <;> omega

/-! ## Doors -/

/-- The rectangle, with one voxel added all around, meets no door of the two rooms. -/
def KeepsClear (walls : Store .wall Wall) (lower upper : Room) (r : Rect) : Prop :=
  ∀ id ∈ lower.wallRefs ++ upper.wallRefs, ∀ wall door, walls.lookup id = .ok wall →
    wall.doorRect = some door → ¬ (r.grow 1).Collides door

variable {ds : List Rect}

theorem mem_doors_iff {ids : List (Ref .wall)} (h : doors walls ids = .ok ds) {door : Rect} :
    door ∈ ds ↔ ∃ id ∈ ids, ∃ wall, walls.lookup id = .ok wall ∧ wall.doorRect = some door := by
  obtain ⟨wls, hwls, hds⟩ := except_bind_eq_ok_iff.1 h
  obtain rfl := Except.ok.inj hds
  rw [List.mem_filterMap]
  constructor
  · rintro ⟨wall, hwall, hdoor⟩
    obtain ⟨id, hid, hlookup⟩ := (mem_iff_of_mapM_ok hwls).1 hwall
    exact ⟨id, hid, wall, hlookup, hdoor⟩
  · rintro ⟨id, hid, wall, hlookup, hdoor⟩
    exact ⟨wall, (mem_iff_of_mapM_ok hwls).2 ⟨id, hid, hlookup⟩, hdoor⟩

theorem isClear_iff (h : doors walls (lower.wallRefs ++ upper.wallRefs) = .ok ds) :
    isClear r ds = true ↔ KeepsClear walls lower upper r := by
  simp only [isClear, List.all_eq_true, decide_eq_true_eq]
  constructor
  · intro hall id hid wall door hlookup hdoor
    exact hall door ((mem_doors_iff h).2 ⟨id, hid, wall, hlookup, hdoor⟩)
  · intro hclear door hmem
    obtain ⟨id, hid, wall, hlookup, hdoor⟩ := (mem_doors_iff h).1 hmem
    exact hclear id hid wall door hlookup hdoor

/-! ## All corners -/

structure Corner where
  lower : Ref .room
  upper : Ref .room
  front : Dir
  side : Dir

/-- The staircase stands in a corner of the overlap of two rooms, which has space for it, and keeps
clear of their doors. -/
structure Connects (walls : Store .wall Wall) (lower upper : Room) (c : Corner) (s : Stairs) :
    Prop where
  space : HasSpace lower upper
  corner : InCorner lower upper c.front c.side s
  clear : KeepsClear walls lower upper s.bounds.footprint

/-- The staircase leads from a room under a roof to one above it. -/
structure Candidate (rooms : Store .room Room) (walls : Store .wall Wall)
    (covered above : List (Ref .room)) (c : Corner) (s : Stairs) : Prop where
  covered : c.lower ∈ covered
  above : c.upper ∈ above
  joins : ∃ lower upper, rooms.lookup c.lower = .ok lower ∧ rooms.lookup c.upper = .ok upper ∧
    Connects walls lower upper c s

/-- The staircases that climb in one direction. -/
theorem enumerates_inDirection (hrise : lower.bottom < upper.bottom)
    (hspace : HasSpace lower upper)
    (hds : doors walls (lower.wallRefs ++ upper.wallRefs) = .ok ds) (i j : Ref .room) (d : Dir) :
    Enumerates (fun c s => c.lower = i ∧ c.upper = j ∧ c.front = d ∧ Connects walls lower upper c s)
      (inDirection (lower.footprint.inter upper.footprint) (rise lower upper).lo
        (rise lower upper).hi ds Dir.all d) := by
  have hnodup : (Dir.all.filter fun orth => decide (orth.axis ≠ d.axis)).Nodup :=
    List.Nodup.filter _ (by decide)
  unfold inDirection
  rw [List.filterMap_map]
  refine (Enumerates.filterMap (Corner.mk i j d) hnodup
    fun e f hef => (Corner.mk.inj hef).2.2.2).congr fun c s => ?_
  simp only [List.mem_filter, Dir.mem_all, true_and, decide_eq_true_eq, Function.comp]
  constructor
  · rintro ⟨orth, hperp, rfl, hs⟩
    split at hs
    · next hok =>
      have hs : inCorner lower upper d orth = s := Option.some.inj hs
      have hcorner : InCorner lower upper d orth s := inCorner_iff.2 ⟨hperp, hs.symm⟩
      refine ⟨rfl, rfl, rfl, hspace, hcorner, (isClear_iff hds).1 ?_⟩
      rw [← hs]
      exact hok.2
    · cases hs
  · rintro ⟨rfl, rfl, rfl, -, hcorner, hclear⟩
    have hvalid := (hcorner.inside hspace hrise).1
    obtain ⟨hperp, rfl⟩ := inCorner_iff.1 hcorner
    exact ⟨c.side, hperp, rfl, if_pos ⟨hvalid, (isClear_iff hds).2 hclear⟩⟩

/-- The staircases between two rooms. -/
theorem enumerates_betweenRooms (hl : walls.Resolves lower.wallRefs)
    (hu : walls.Resolves upper.wallRefs) (hrise : lower.bottom < upper.bottom) (i j : Ref .room) :
    ∃ ss, betweenRooms walls lower upper = .ok ss ∧
      Enumerates (fun c s => c.lower = i ∧ c.upper = j ∧ Connects walls lower upper c s) ss := by
  unfold betweenRooms
  split
  · next hspace =>
    obtain ⟨wls, hwls⟩ := mapM_ok fun id hid => (List.mem_append.1 hid).elim (hl id) (hu id)
    have hds : doors walls (lower.wallRefs ++ upper.wallRefs) =
        .ok (wls.filterMap Wall.doorRect) := by
      rw [doors, hwls]
      rfl
    dsimp only
    rw [hds, flush_eq]
    refine ⟨_, rfl, (Enumerates.flatMap (by decide)
      (fun d _ => enumerates_inDirection hrise hspace hds i j d) ?_).congr fun c s => ?_⟩
    · rintro d e c s t ⟨-, -, rfl, -⟩ ⟨-, -, rfl, -⟩
      rfl
    · constructor
      · rintro ⟨d, -, hi, hj, -, hc⟩
        exact ⟨hi, hj, hc⟩
      · rintro ⟨hi, hj, hc⟩
        exact ⟨c.front, Dir.mem_all _, hi, hj, rfl, hc⟩
  · next hspace =>
    exact ⟨[], rfl, .nil fun c s hc => hspace hc.2.2.space⟩

/-- The staircases to one room. -/
theorem enumerates_toRoom {ids : List (Ref .room)} (hw : Surrounded rooms walls)
    (hu : walls.Resolves upper.wallRefs) (hids : rooms.Resolves ids) (hn : ids.Nodup)
    (hrise : ∀ id ∈ ids, ∀ lower, rooms.lookup id = .ok lower → lower.bottom < upper.bottom)
    (j : Ref .room) :
    ∃ ss, toRoom rooms walls upper ids = .ok ss ∧
      Enumerates (fun c s => c.lower ∈ ids ∧ c.upper = j ∧
        ∃ lower, rooms.lookup c.lower = .ok lower ∧ Connects walls lower upper c s) ss := by
  induction ids with
  | nil => exact ⟨[], rfl, .nil fun c s hc => List.not_mem_nil hc.1⟩
  | cons i ids ih =>
    obtain ⟨hi, hn⟩ := List.nodup_cons.1 hn
    obtain ⟨lower, hlower⟩ := hids i List.mem_cons_self
    obtain ⟨found, hfound, hlist⟩ := enumerates_betweenRooms (hw lower (Store.mem_of_lookup hlower))
      hu (hrise i List.mem_cons_self lower hlower) i j
    obtain ⟨rest, hrest, hlist'⟩ := ih (fun k hk => hids k (List.mem_cons_of_mem _ hk)) hn
      fun k hk => hrise k (List.mem_cons_of_mem _ hk)
    refine ⟨found ++ rest, ?_, (hlist.append hlist' ?_).congr fun c s => ?_⟩
    · rw [toRoom, hlower]
      simp only [bind, Except.bind, hfound, hrest]
      rfl
    · rintro c s t ⟨rfl, -⟩ ⟨hc, -⟩
      exact hi hc
    · constructor
      · rintro (⟨rfl, hj, hc⟩ | ⟨hmem, hj, hc⟩)
        · exact ⟨List.mem_cons_self, hj, lower, hlower, hc⟩
        · exact ⟨List.mem_cons_of_mem _ hmem, hj, hc⟩
      · rintro ⟨hmem, hj, other, hother, hc⟩
        rcases List.mem_cons.1 hmem with heq | hmem
        · rw [heq, hlower] at hother
          obtain rfl := Except.ok.inj hother
          exact .inl ⟨heq, hj, hc⟩
        · exact .inr ⟨hmem, hj, other, hother, hc⟩

end Stairs

open Stairs

/-- All staircases from the rooms under a roof to the rooms above it. -/
theorem enumerates_possibleStairs (hw : Surrounded rooms walls) (hc : rooms.Resolves covered)
    (ha : rooms.Resolves above) (hcn : covered.Nodup) (han : above.Nodup)
    (hrise : ∀ i ∈ covered, ∀ j ∈ above, ∀ lower upper, rooms.lookup i = .ok lower →
      rooms.lookup j = .ok upper → lower.bottom < upper.bottom) :
    ∃ ss, possibleStairs rooms walls covered above = .ok ss ∧
      Enumerates (Candidate rooms walls covered above) ss := by
  induction above with
  | nil => exact ⟨[], rfl, .nil fun c s h => List.not_mem_nil h.above⟩
  | cons j ids ih =>
    obtain ⟨hj, han⟩ := List.nodup_cons.1 han
    obtain ⟨upper, hupper⟩ := ha j List.mem_cons_self
    obtain ⟨found, hfound, hlist⟩ := enumerates_toRoom hw (hw upper (Store.mem_of_lookup hupper)) hc
      hcn (fun i hi lower hlower => hrise i hi j List.mem_cons_self lower upper hlower hupper) j
    obtain ⟨rest, hrest, hlist'⟩ := ih (fun k hk => ha k (List.mem_cons_of_mem _ hk)) han
      fun i hi k hk => hrise i hi k (List.mem_cons_of_mem _ hk)
    refine ⟨found ++ rest, ?_, (hlist.append hlist' ?_).congr fun c s => ?_⟩
    · rw [possibleStairs, hupper]
      simp only [bind, Except.bind, hfound, hrest]
      rfl
    · rintro c s t ⟨-, rfl, -⟩ hc'
      exact hj hc'.above
    · constructor
      · rintro (⟨hmem, rfl, lower, hlower, hc'⟩ | ⟨hmem, hj', hc'⟩)
        · exact ⟨hmem, List.mem_cons_self, lower, upper, hlower, hupper, hc'⟩
        · exact ⟨hmem, List.mem_cons_of_mem _ hj', hc'⟩
      · rintro ⟨hmem, hj', lower, other, hlower, hother, hc'⟩
        rcases List.mem_cons.1 hj' with heq | hj'
        · rw [heq, hupper] at hother
          obtain rfl := Except.ok.inj hother
          exact .inl ⟨hmem, heq, lower, hlower, hc'⟩
        · exact .inr ⟨hmem, hj', lower, other, hlower, hother, hc'⟩

/-- From the rooms under a roof to higher ones, the staircases that may be drawn are listed with one
entry for each corner of each overlap that has space for them, unless its staircase comes near a
door. All corners are tried; every corner has one staircase of the right size; and whatever is
listed lies in both rooms. -/
theorem stairs_of_corners (hw : Surrounded rooms walls) (hc : rooms.Resolves covered)
    (ha : rooms.Resolves above) (hcn : covered.Nodup) (han : above.Nodup)
    (hrise : ∀ i ∈ covered, ∀ j ∈ above, ∀ lower upper, rooms.lookup i = .ok lower →
      rooms.lookup j = .ok upper → lower.bottom < upper.bottom) :
    (∃ ss, possibleStairs rooms walls covered above = .ok ss ∧
      Enumerates (Candidate rooms walls covered above) ss) ∧
    (∀ lower upper : Room, flush lower.footprint upper.footprint
        (lower.footprint.inter upper.footprint) = Dir.all ∧
      ∀ d orth, Perpendicular d orth → ∃! s, InCorner lower upper d orth s) ∧
    ∀ c s, Candidate rooms walls covered above c s →
      ∃ lower upper, rooms.lookup c.lower = .ok lower ∧ rooms.lookup c.upper = .ok upper ∧
        s.bounds.footprint.Valid ∧ lower.footprint.Encloses s.bounds.footprint ∧
        upper.footprint.Encloses s.bounds.footprint := by
  refine ⟨enumerates_possibleStairs hw hc ha hcn han hrise,
    fun lower upper => ⟨flush_eq _ _, ?_⟩, ?_⟩
  · intro d orth hperp
    exact ⟨inCorner lower upper d orth, inCorner_iff.2 ⟨hperp, rfl⟩,
      fun s hs => (inCorner_iff.1 hs).2⟩
  · rintro c s ⟨hi, hj, lower, upper, hlower, hupper, hspace, hcorner, -⟩
    exact ⟨lower, upper, hlower, hupper,
      hcorner.inside hspace (hrise _ hi _ hj lower upper hlower hupper)⟩

/-- Of the eight corners between two of the stacked rooms, three are too near to the door. -/
theorem stairs_of_stackedRooms :
    Surrounded Roofing.stackedRooms.rooms Roofing.stackedRooms.walls ∧
    ∃ ss, possibleStairs Roofing.stackedRooms.rooms Roofing.stackedRooms.walls [⟨0⟩] [⟨1⟩] =
        .ok ss ∧ ss.length = 5 ∧
      Enumerates (Candidate Roofing.stackedRooms.rooms Roofing.stackedRooms.walls [⟨0⟩] [⟨1⟩])
        ss := by
  have hw : Surrounded Roofing.stackedRooms.rooms Roofing.stackedRooms.walls := by
    intro r hr id hid
    obtain rfl : id = ⟨0⟩ := by
      revert id
      revert r
      decide
    exact ⟨_, rfl⟩
  have hresolves : ∀ i : Ref .room, i = ⟨0⟩ ∨ i = ⟨1⟩ →
      ∃ r, Roofing.stackedRooms.rooms.lookup i = .ok r := by
    rintro i (rfl | rfl)
    · exact ⟨_, rfl⟩
    · exact ⟨_, rfl⟩
  obtain ⟨⟨ss, hrun, hlist⟩, -, -⟩ := stairs_of_corners hw
    (fun i hi => hresolves i (.inl (List.mem_singleton.1 hi)))
    (fun i hi => hresolves i (.inr (List.mem_singleton.1 hi))) (List.nodup_singleton _)
    (List.nodup_singleton _) fun i hi j hj lower upper hlower hupper => by
      obtain rfl := List.mem_singleton.1 hi
      obtain rfl := List.mem_singleton.1 hj
      cases hlower
      cases hupper
      decide
  refine ⟨hw, ss, hrun, ?_, hlist⟩
  cases hrun
  decide

end TavernLayout
