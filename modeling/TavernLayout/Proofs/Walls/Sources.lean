import TavernLayout.Proofs.Growth.Separation
import TavernLayout.Proofs.Walls.Joining

/-!
# Where walls come from

Every wall of a building is the front wall, the wall that a room got when it was added beside
another one, or a wall that the partition added. What holds of these three, whatever rooms are added
later, holds of all walls.

* `EveryWall`: a property of all walls of a building and of the boxes of its rooms;
* `reach_opposite_of_found`: a room that is added beside another one leaves one line free between
  them, for the wall;
* `Tidy`, `Grown.tidy`: rooms that the partition may join;
* `Growth.everyWall_of_built`, `Partition.Closes.everyWall`: from the three sources to all walls.
-/

namespace TavernLayout

variable {σ : Type} {src : Source σ} {plot : Plot} {u v w : Works σ} {P : Wall → List Box → Prop}

/-- The property holds of every wall, with the boxes of all rooms. -/
def EveryWall (P : Wall → List Box → Prop) (w : Works σ) : Prop :=
  ∀ wl ∈ w.walls.items, P wl w.boxes

theorem EveryWall.of_same (h : EveryWall P u) (hr : v.rooms = u.rooms) (hw : v.walls = u.walls) :
    EveryWall P v := by
  unfold EveryWall Works.boxes
  rw [hr, hw]
  exact h

/-- One more wall that has the property, where the boxes of the rooms are as before. -/
theorem EveryWall.add {wl : Wall} (h : EveryWall P u) (hb : v.boxes = u.boxes)
    (hw : v.walls.items = u.walls.items ++ [wl]) (hnew : P wl u.boxes) : EveryWall P v := by
  intro wl' hwl'
  rw [hb]
  rw [hw] at hwl'
  rcases List.mem_append.1 hwl' with hwl' | hwl'
  · exact h wl' hwl'
  · obtain rfl := List.mem_singleton.1 hwl'
    exact hnew

/-! ## Boxes -/

theorem Works.boxes_eq_map (w : Works σ) : w.boxes = w.outlines.map Outline.box := by
  rw [Works.boxes, Works.outlines, List.map_map]
  rfl

theorem Works.length_boxes (w : Works σ) : w.boxes.length = w.rooms.size := List.length_map _

theorem boxes_addBeside (u : Works σ) (i : Nat) (parent room : Rect) (d : Dir) (layers : Span)
    (k : Kind) (offset : Int) : (u.addBeside i parent room d layers k offset).boxes =
      u.boxes ++ [.ofRect room layers.lo layers.hi] := by
  rw [Works.boxes_eq_map, Works.outlines_addBeside, List.map_append, ← Works.boxes_eq_map]
  rfl

theorem boxes_addUnder (u : Works σ) (room : Rect) (layers : Span) (k : Kind) :
    (u.addUnder room layers k).boxes = u.boxes ++ [.ofRect room layers.lo layers.hi] := by
  rw [Works.boxes_eq_map, Works.outlines_addUnder, List.map_append, ← Works.boxes_eq_map]
  rfl

theorem boxes_addFront (u : Works σ) (bounds : Box) (room : Rect) (k : Kind) (door : Vec2)
    (facing : Dir) : (u.addFront bounds room k door facing).boxes = u.boxes ++ [bounds] := by
  rw [Works.boxes_eq_map, Works.outlines_addFront, List.map_append, ← Works.boxes_eq_map]
  rfl

/-! ## Rooms beside rooms -/

theorem SideRoom.along_wallPoint (parent : Rect) (d : Dir) (c : Int) :
    d.sign * d.along (wallPoint parent d c) = d.reach parent + 1 := by
  rw [wallPoint, Dir.edgePoint, Dir.along_add, Dir.along_onEdge, Dir.along_toVec2, Int.mul_add,
    Dir.sign_mul_sign]
  rfl

/-- What is left of the space beside a room begins two cells beyond the room, if it is deep enough
for any kind. -/
theorem SideRoom.reach_opposite_of_cleared {interior parent fitted : Rect} {d : Dir}
    (hparent : d.reach parent ≤ d.reach interior) (hin : (space interior parent d).Encloses fitted)
    (hkeeps : Clearance.KeepsTo (limits parent (space interior parent d) d) fitted)
    (hdeep : 3 ≤ d.reach fitted + d.opposite.reach fitted) :
    d.opposite.reach fitted = -(d.reach parent + 2) := by
  rw [Dir.encloses_iff_reach] at hin
  have hfar := hin d
  have hback := hin d.opposite
  have hlimit := hkeeps d _ (by rw [limits, DirMap.get_ofFn, if_pos rfl])
  rw [Dir.sign_mul_edge_opposite, reach_opposite_space] at hlimit
  rw [reach_space] at hfar
  rw [reach_opposite_space] at hback
  omega

/-- A room beside another one begins two cells beyond it. -/
theorem reach_opposite_of_found {i : Nat} {d : Dir} {parent : Room} {fitted room : Rect}
    {layers : Span} {k : Kind} {offset : Int} (hs : src.Lawful)
    (hsound : ∀ o ∈ u.outlines, o.Sound plot.interior)
    (hf : SideRoom.Found src plot u i d parent fitted room layers k offset) :
    d.opposite.reach room = -(d.reach parent.footprint + 2) := by
  change _ = -(d.reach parent.outline.footprint + 2)
  have hset := hf.settled
  obtain ⟨hv, hin, hkeeps, -⟩ := hset.cleared_ok hsound
  have hparent := Dir.encloses_iff_reach.1 (hsound _ (List.mem_of_getElem? hset.elder)).inside d
  have hinside := Dir.encloses_iff_reach.1 hset.inside
  have hstart : d.opposite.reach fitted = -(d.reach parent.outline.footprint + 2) := by
    refine SideRoom.reach_opposite_of_cleared hparent hin hkeeps ?_
    have hwide := (hset.sound hsound).accepted.three_le d
    have hfront := hinside d
    have hback := hinside d.opposite
    omega
  obtain ⟨hlong, c, -, -, st, st', hplace⟩ := hf.placed
  obtain ⟨a, b, odd, ha, -, -, rfl⟩ := Placement.besides_of_placeBeside hs hplace
  have hside : 3 ≤ k.sides.lo := by cases k <;> decide
  have hlo : k.sides.lo ≤ a := ha.1
  rw [Placement.reach_opposite_beside hv (by omega) (Int.le_trans ha.2 (Int.min_le_left ..)),
    hstart]
  rw [SideRoom.along_wallPoint, hstart]
  change d.reach parent.outline.footprint + 1 + 1 = _
  omega

/-! ## Rooms that the partition joins -/

/-- Rooms are at least three cells wide, and those of overlapping layers do not collide. -/
structure Tidy (boxes : List Box) : Prop where
  wide : ∀ (i : Nat) a, boxes[i]? = some a →
    ∀ d : Dir, 3 ≤ d.reach a.footprint + d.opposite.reach a.footprint
  high : ∀ (i : Nat) a, boxes[i]? = some a → a.min.z ≤ a.max.z
  apart : ∀ (i j : Nat) a b, i ≠ j → boxes[i]? = some a → boxes[j]? = some b → a.Overlaps b →
    ¬ a.footprint.Collides b.footprint

theorem Tidy.valid {boxes : List Box} {i : Nat} {a : Box} (h : Tidy boxes)
    (ha : boxes[i]? = some a) : a.footprint.Valid :=
  Dir.valid_iff_reach.2 fun e => by
    have := h.wide i a ha e
    omega

theorem Outline.Apart.symm {a b : Outline} (h : a.Apart b) : b.Apart a :=
  h.imp Or.symm fun hc hba => hc hba.symm

theorem Grown.tidy {interior : Rect} {os : List Outline} (h : Grown interior os) :
    Tidy (os.map Outline.box) := by
  have hmem : ∀ {i : Nat} {a : Box}, (os.map Outline.box)[i]? = some a →
      ∃ o, os[i]? = some o ∧ o.box = a := by
    intro i a ha
    rwa [List.getElem?_map, Option.map_eq_some_iff] at ha
  refine ⟨?_, ?_, ?_⟩
  · intro i a ha
    obtain ⟨o, ho, rfl⟩ := hmem ha
    exact (h.sound o (List.mem_of_getElem? ho)).accepted.three_le
  · intro i a ha
    obtain ⟨o, ho, rfl⟩ := hmem ha
    have := (h.sound o (List.mem_of_getElem? ho)).high
    omega
  · intro i j a b hij ha hb hover
    obtain ⟨o, ho, rfl⟩ := hmem ha
    obtain ⟨p, hp, rfl⟩ := hmem hb
    have hapart : o.Apart p := by
      obtain ⟨hi, rfl⟩ := List.getElem?_eq_some_iff.1 ho
      obtain ⟨hj, rfl⟩ := List.getElem?_eq_some_iff.1 hp
      have hpair := List.pairwise_iff_getElem.1 h.pairwise_apart
      rcases Nat.lt_or_gt_of_ne hij with hlt | hlt
      · exact hpair i j hi hj hlt
      · exact (hpair j i hj hi hlt).symm
    rcases hapart with hst | hfree
    · unfold Outline.Stacked at hst
      unfold Box.Overlaps at hover
      omega
    · exact hfree

/-! ## All walls -/

namespace Growth

/-- What holds of the front wall and of the walls to rooms that are added beside others, and stays
so when rooms are added, holds of every wall of a building that grows. -/
theorem everyWall_of_built {es : List Event}
    (happend : ∀ wl boxes more, P wl boxes → P wl (boxes ++ more))
    (hfront : ∀ {door : Vec3} {bounds : Box} {room : Rect} {k : Kind} {facing : Dir},
      Entrance.Found plot door bounds room k →
      P (Entrance.front room ⟨bounds.min.z, bounds.max.z⟩ ⟨((0 : Nat) : Int)⟩ door.plan facing)
        [bounds])
    (hbeside : ∀ {u : Works σ} {i : Nat} {d : Dir} {parent : Room} {fitted room : Rect}
      {layers : Span} {k : Kind} {offset : Int}, (∀ o ∈ u.outlines, o.Sound plot.interior) →
      SideRoom.Found src plot u i d parent fitted room layers k offset →
      P (SideRoom.sharedWall parent.footprint room d layers ⟨(i : Int)⟩ ⟨(u.boxes.length : Int)⟩
        offset) (u.boxes ++ [.ofRect room layers.lo layers.hi]))
    (h : Built src plot es w) : EveryWall P w := by
  induction h with
  | @front u v door bounds room k facing hr hw hf hi =>
    refine EveryWall.of_same ?_ hi.rooms hi.walls
    have hboxes : u.boxes = [] := by rw [Works.boxes, hr]; rfl
    intro wl hwl
    rw [boxes_addFront, hboxes]
    simp only [Works.addFront, hw, hr, Store.empty, Store.size, List.nil_append, List.length_nil,
      List.mem_singleton] at hwl
    subst hwl
    exact hfront hf
  | idle _ _ hr hw ih => exact ih.of_same hr hw
  | @beside es fs u v i d parent fitted room layers k offset hb _ hf _ hr hw ih =>
    refine EveryWall.of_same ?_ hr hw
    intro wl hwl
    rw [boxes_addBeside]
    rcases List.mem_append.1 hwl with hwl | hwl
    · exact happend wl _ _ (ih wl hwl)
    · obtain rfl := List.mem_singleton.1 hwl
      rw [← Works.length_boxes]
      exact hbeside hb.grown.sound hf
  | @under es u v i parent fitted room layers k l _ hf hr hw ih =>
    refine EveryWall.of_same (u := u.addUnder room layers k) ?_ hr hw
    intro wl hwl
    rw [boxes_addUnder]
    exact happend wl _ _ (ih wl hwl)

end Growth

namespace Partition

/-- What holds of the walls that the partition adds between rooms and around them, and of the walls
before it, holds of all walls after it. -/
theorem Closes.everyWall (ht : Tidy u.boxes)
    (hshared : ∀ {i j : Nat} {a b : Box} {d : Dir} {door : Option Span}, i ≠ j →
      u.boxes[i]? = some a → u.boxes[j]? = some b → a.Overlaps b →
      a.footprint.Adjoins d b.footprint →
      (∀ s, door = some s → 0 < s.lo ∧ s.lo < s.hi ∧
        s.hi < (extent (contact a.footprint b.footprint d) d).hi -
          (extent (contact a.footprint b.footprint d) d).lo) →
      P (sharedWall ⟨(i : Int)⟩ ⟨(j : Int)⟩ a b (contact a.footprint b.footprint d) d door) u.boxes)
    (houter : ∀ {i : Nat} {a : Box} {d : Dir} {s : Span}, u.boxes[i]? = some a →
      P (outerWall ⟨(i : Int)⟩ a d s) u.boxes)
    (h : Closes u v) (hp : EveryWall P u) : EveryWall P v := by
  induction h with
  | refl => exact hp
  | @tail v w hcl hadd ih =>
    have hboxes := Closes.boxes hcl
    have hkeep := hadd.boxes
    rw [← hboxes] at ht hshared houter
    cases hadd with
    | idle hi => exact ih.of_same hi.rooms hi.walls
    | @shared i j a b d c door hij ha hb hover hd hc hvalid hnew hdoor =>
      subst hc hd
      have hadj := adjoins_of_contact (ht.valid ha) (ht.valid hb) (ht.apart i j a b hij ha hb hover)
        hvalid
      exact ih.add hkeep rfl (hshared hij ha hb hover hadj hdoor)
    | outer ha => exact ih.add hkeep rfl (houter ha)

end Partition

end TavernLayout
