import TavernLayout.Proofs.Finishing
import TavernLayout.Proofs.Walls.Sources

/-!
# Straight walls

A wall stands on two lines of the plan: one voxel beyond the room behind it, and one voxel before
the room ahead of it. Where there is one free voxel between the two rooms the lines are the same and
the wall is straight. Rooms that were built onto each other always leave that voxel. Rooms that the
partition joins may touch instead; then each post of their wall stands inside one of them.

* `Wall.Stands`: the lines on which the posts of a wall stand;
* `Growth.stands_of_built`, `Partition.Closes.stands`: so stand all walls;
* `Wall.Stands.straight_iff`: a wall is straight unless its rooms touch;
* `walls_straight_iff`: which walls of a tavern are straight, and in which taverns all are;
* `crooked_tavern`: a tavern with a wall that is not.
-/

namespace TavernLayout

/-! ## Lines beside rooms -/

/-- The line one voxel beyond the side of a rectangle. -/
def Dir.beyond (d : Dir) (r : Rect) : Int := d.edge r + d.sign

namespace Rect

/-- The rectangle `s` faces the rectangle `r` with no free line between them. -/
def Flush (r : Rect) (d : Dir) (s : Rect) : Prop := gap r d s = 1 ∧ r.Abreast d s

instance (r : Rect) (d : Dir) (s : Rect) : Decidable (r.Flush d s) :=
  inferInstanceAs (Decidable (_ = _ ∧ _ ≤ _ ∧ _ ≤ _))

variable {r s : Rect} {d e : Dir}

theorem Flush.adjoins (h : r.Flush d s) : r.Adjoins d s :=
  ⟨by rw [h.1]; decide, h.2⟩

theorem Flush.symm (h : r.Flush d s) : s.Flush d.opposite r := by
  unfold Flush Abreast gap at *
  cases d <;>
    simp [Dir.orthogonal, Dir.along, Dir.isY, Dir.sign, Dir.opposite, Dir.edge] at h ⊢ <;> omega

/-- Rectangles that touch in one direction touch in every direction in which they adjoin. -/
theorem Flush.of_adjoins (hr : r.Valid) (hs : s.Valid) (h : r.Flush d s) (ha : r.Adjoins e s) :
    r.Flush e s := by
  have hd := Partition.toward_eq hr hs h.adjoins.1.1 h.2
  have he := Partition.toward_eq hr hs ha.1.1 ha.2
  rw [← he, hd]
  exact h

end Rect

namespace Wall

/-- Both posts stand on one line: one voxel beyond the room behind the wall and one voxel before the
room ahead of it. -/
structure Straight (wl : Wall) (rooms : Store .room Room) : Prop where
  level : wl.toward.along wl.start = wl.toward.along wl.stop
  behind : ∀ id r, wl.behind = some id → rooms.lookup id = .ok r →
    wl.toward.along wl.start = wl.toward.edge r.footprint + wl.toward.sign
  ahead : ∀ id r, wl.ahead = some id → rooms.lookup id = .ok r →
    wl.toward.along wl.start = wl.toward.opposite.edge r.footprint - wl.toward.sign

/-- The lines on which the posts of a wall stand: those of its rooms, in the order of their
coordinates. -/
inductive Stands (wl : Wall) (boxes : List Box) : Prop
  | before {j : Nat} {b : Box} : wl.behind = none → wl.ahead = some ⟨(j : Int)⟩ →
      boxes[j]? = some b → wl.toward.along wl.start = wl.toward.opposite.beyond b.footprint →
      wl.toward.along wl.stop = wl.toward.opposite.beyond b.footprint → Stands wl boxes
  | beyond {i : Nat} {a : Box} : wl.behind = some ⟨(i : Int)⟩ → wl.ahead = none →
      boxes[i]? = some a → wl.toward.along wl.start = wl.toward.beyond a.footprint →
      wl.toward.along wl.stop = wl.toward.beyond a.footprint → Stands wl boxes
  | between {i j : Nat} {a b : Box} : wl.behind = some ⟨(i : Int)⟩ → wl.ahead = some ⟨(j : Int)⟩ →
      boxes[i]? = some a → boxes[j]? = some b → i ≠ j → a.Overlaps b →
      a.footprint.Adjoins wl.toward b.footprint →
      wl.toward.along wl.start =
        min (wl.toward.beyond a.footprint) (wl.toward.opposite.beyond b.footprint) →
      wl.toward.along wl.stop =
        max (wl.toward.beyond a.footprint) (wl.toward.opposite.beyond b.footprint) →
      Stands wl boxes

variable {wl : Wall} {boxes : List Box} {rooms : Store .room Room}

theorem Stands.append (h : wl.Stands boxes) (more : List Box) : wl.Stands (boxes ++ more) := by
  cases h with
  | before hb ha hj h1 h2 => exact .before hb ha (getElem?_append_of_eq_some hj more) h1 h2
  | beyond hb ha hi h1 h2 => exact .beyond hb ha (getElem?_append_of_eq_some hi more) h1 h2
  | between hb ha hi hj hij hover hadj h1 h2 =>
    exact .between hb ha (getElem?_append_of_eq_some hi more) (getElem?_append_of_eq_some hj more)
      hij hover hadj h1 h2

/-- The lines between two rooms are the same unless the rooms touch. -/
theorem lines_of_adjoins {r s : Rect} {d : Dir} (h : r.Adjoins d s) :
    (r.Flush d s ∧ d.opposite.edge s = d.beyond r ∧ d.edge r = d.opposite.beyond s) ∨
    (¬ r.Flush d s ∧ d.beyond r = d.opposite.beyond s) := by
  obtain ⟨⟨h1, h2⟩, habreast⟩ := h
  unfold Rect.Flush Dir.beyond
  simp only [habreast, and_true]
  unfold gap at *
  cases d <;> simp only [Dir.sign, Dir.opposite, Dir.edge] at h1 h2 ⊢ <;> omega

theorem bounds_of_lookup (hb : rooms.items.map Room.bounds = boxes) {i : Nat} {r : Room} {a : Box}
    (hr : rooms.lookup ⟨(i : Int)⟩ = .ok r) (ha : boxes[i]? = some a) : r.bounds = a := by
  rw [← hb, List.getElem?_map, Store.lookup_natCast_iff.1 hr] at ha
  exact Option.some.inj ha

/-- The footprint of the room at a side of a wall. -/
theorem footprint_of_side (hb : rooms.items.map Room.bounds = boxes) {side : Option (Ref .room)}
    {i : Nat} {a : Box} (hi : side = some ⟨(i : Int)⟩) (ha : boxes[i]? = some a) {id : Ref .room}
    {r : Room} (hid : side = some id) (hr : rooms.lookup id = .ok r) :
    r.footprint = a.footprint := by
  obtain rfl := Option.some.inj (hi.symm.trans hid)
  rw [Room.footprint, bounds_of_lookup hb hr ha]

theorem lookup_of_bounds (hb : rooms.items.map Room.bounds = boxes) {i : Nat} {a : Box}
    (ha : boxes[i]? = some a) : ∃ r, rooms.lookup ⟨(i : Int)⟩ = .ok r ∧ r.bounds = a := by
  rw [← hb, List.getElem?_map, Option.map_eq_some_iff] at ha
  obtain ⟨r, hr, rfl⟩ := ha
  exact ⟨r, Store.lookup_natCast hr, rfl⟩

theorem Stands.neighbours_ne_nil (h : wl.Stands boxes) : wl.neighbours ≠ [] := by
  cases h with
  | before _ hahead => simp [neighbours, hahead]
  | beyond hbehind => simp [neighbours, hbehind]
  | between hbehind => simp [neighbours, hbehind]

theorem Stands.rooms_known (hb : rooms.items.map Room.bounds = boxes) (h : wl.Stands boxes) :
    rooms.Resolves wl.neighbours := by
  intro id hid
  have hside := mem_neighbours.1 hid
  cases h with
  | @before j b hbehind hahead hj =>
    simp [hbehind, hahead] at hside
    subst hside
    obtain ⟨r, hr, -⟩ := lookup_of_bounds hb hj
    exact ⟨r, hr⟩
  | @beyond i a hbehind hahead hi =>
    simp [hbehind, hahead] at hside
    subst hside
    obtain ⟨r, hr, -⟩ := lookup_of_bounds hb hi
    exact ⟨r, hr⟩
  | @between i j a b hbehind hahead hi hj =>
    simp [hbehind, hahead] at hside
    rcases hside with rfl | rfl
    · obtain ⟨r, hr, -⟩ := lookup_of_bounds hb hi
      exact ⟨r, hr⟩
    · obtain ⟨r, hr, -⟩ := lookup_of_bounds hb hj
      exact ⟨r, hr⟩

def Parts (wl : Wall) (rooms : Store .room Room) : Prop :=
  ∀ i j r s, wl.behind = some i → wl.ahead = some j → rooms.lookup i = .ok r →
    rooms.lookup j = .ok s → ¬ r.footprint.Flush wl.toward s.footprint

/-- A wall is straight unless its rooms touch. -/
theorem Stands.straight_iff (hb : rooms.items.map Room.bounds = boxes) (h : wl.Stands boxes) :
    wl.Straight rooms ↔ wl.Parts rooms := by
  cases h with
  | @before j b hbehind hahead hj h1 h2 =>
    constructor
    · intro _ i _ r s hi
      rw [hbehind] at hi
      cases hi
    · intro _
      refine ⟨h1.trans h2.symm, fun id r hid => ?_, fun id r hid hr => ?_⟩
      · rw [hbehind] at hid
        cases hid
      · rw [h1, footprint_of_side hb hahead hj hid hr, Dir.beyond, Dir.sign_opposite]
        rfl
  | @beyond i a hbehind hahead hi h1 h2 =>
    constructor
    · intro _ _ j r s _ hj
      rw [hahead] at hj
      cases hj
    · intro _
      refine ⟨h1.trans h2.symm, fun id r hid hr => ?_, fun id r hid => ?_⟩
      · rw [h1, footprint_of_side hb hbehind hi hid hr, Dir.beyond]
      · rw [hahead] at hid
        cases hid
  | @between i j a b hbehind hahead hi hj _ _ hadj h1 h2 =>
    rcases lines_of_adjoins hadj with ⟨hflush, hedge, hline⟩ | ⟨hapart, hline⟩
    · have hcrooked : ¬ wl.Straight rooms := by
        intro hstraight
        have hlevel := hstraight.level
        rw [h1, h2, ← hline, Dir.beyond] at hlevel
        cases hd : wl.toward <;> simp only [hd, Dir.sign] at hlevel <;> omega
      obtain ⟨r, hr, hra⟩ := lookup_of_bounds hb hi
      obtain ⟨s, hs, hsb⟩ := lookup_of_bounds hb hj
      simp only [hcrooked, false_iff]
      intro hparts
      apply hparts _ _ r s hbehind hahead hr hs
      rw [Room.footprint, Room.footprint, hra, hsb]
      exact hflush
    · constructor
      · intro _ id id' r s hid hid' hr hs
        rw [footprint_of_side hb hbehind hi hid hr, footprint_of_side hb hahead hj hid' hs]
        exact hapart
      · intro _
        rw [← hline, Int.min_self] at h1
        rw [← hline, Int.max_self] at h2
        refine ⟨h1.trans h2.symm, fun id r hid hr => ?_, fun id r hid hr => ?_⟩
        · rw [h1, footprint_of_side hb hbehind hi hid hr, Dir.beyond]
        · rw [h1, hline, footprint_of_side hb hahead hj hid hr, Dir.beyond, Dir.sign_opposite]
          rfl

/-- What is known of a wall between two rooms. -/
theorem Stands.of_both (hb : rooms.items.map Room.bounds = boxes) (h : wl.Stands boxes)
    {i j : Ref .room} {r s : Room} (hi : wl.behind = some i) (hj : wl.ahead = some j)
    (hr : rooms.lookup i = .ok r) (hs : rooms.lookup j = .ok s) :
    (∃ m n : Nat, m ≠ n ∧ rooms.items[m]? = some r ∧ rooms.items[n]? = some s) ∧
      r.bounds.Overlaps s.bounds ∧ r.footprint.Adjoins wl.toward s.footprint ∧
      wl.toward.along wl.start =
        min (wl.toward.beyond r.footprint) (wl.toward.opposite.beyond s.footprint) ∧
      wl.toward.along wl.stop =
        max (wl.toward.beyond r.footprint) (wl.toward.opposite.beyond s.footprint) := by
  cases h with
  | before hbehind =>
    rw [hbehind] at hi
    cases hi
  | beyond _ hahead =>
    rw [hahead] at hj
    cases hj
  | between hbehind hahead hi' hj' hij hover hadj h1 h2 =>
    obtain rfl := Option.some.inj (hbehind.symm.trans hi)
    obtain rfl := Option.some.inj (hahead.symm.trans hj)
    rw [Room.footprint, Room.footprint, bounds_of_lookup hb hr hi', bounds_of_lookup hb hs hj']
    exact ⟨⟨_, _, hij, Store.lookup_natCast_iff.1 hr, Store.lookup_natCast_iff.1 hs⟩, hover, hadj,
      h1, h2⟩

/-- The posts of a wall between rooms that touch stand on the edges of the two. -/
theorem Stands.crooked (hb : rooms.items.map Room.bounds = boxes) (h : wl.Stands boxes)
    {i j : Ref .room} {r s : Room} (hi : wl.behind = some i) (hj : wl.ahead = some j)
    (hr : rooms.lookup i = .ok r) (hs : rooms.lookup j = .ok s)
    (hflush : r.footprint.Flush wl.toward s.footprint) :
    wl.toward.along wl.start =
        min (wl.toward.edge r.footprint) (wl.toward.opposite.edge s.footprint) ∧
      wl.toward.along wl.stop = wl.toward.along wl.start + 1 := by
  obtain ⟨-, -, hadj, h1, h2⟩ := h.of_both hb hi hj hr hs
  rcases lines_of_adjoins hadj with ⟨-, hedge, hline⟩ | ⟨hapart, -⟩
  · rw [h1, h2, ← hline, hedge, Dir.beyond]
    cases hd : wl.toward <;> simp only [Dir.sign] <;> omega
  · exact absurd hflush hapart

end Wall

/-! ## Where walls stand -/

variable {σ : Type} {src : Source σ} {plot : Plot} {u v w w' : Works σ}

theorem Entrance.stands_front {door : Vec3} {bounds : Box} {room : Rect} {k : Kind} {facing : Dir}
    (hf : Found plot door bounds room k) :
    (front room ⟨bounds.min.z, bounds.max.z⟩ ⟨((0 : Nat) : Int)⟩ door.plan facing).Stands
      [bounds] := by
  obtain ⟨height, -, rfl⟩ := hf.storey
  apply Wall.Stands.before (j := 0) rfl rfl rfl <;> rw [Box.footprint_ofRect] <;>
    cases facing <;> simp [front, Dir.beyond, Dir.edgePoint, Dir.onEdge, Dir.isY, Dir.edge,
      Dir.sign, Dir.opposite, Dir.cw, Dir.ccw, Dir.along, Dir.toVec2]

theorem SideRoom.along_wallPoint_eq (parent : Rect) (d : Dir) (c : Int) :
    d.along (wallPoint parent d c) = d.beyond parent := by
  rw [wallPoint, Dir.edgePoint, Dir.along_add, Dir.along_onEdge, Dir.along_toVec2, Dir.beyond]

theorem SideRoom.along_posts (parent room : Rect) (d : Dir) :
    d.along (firstPost parent room d) = d.beyond parent ∧
      d.along (lastPost parent room d) = d.beyond parent := by
  unfold firstPost lastPost
  dsimp only
  rw [Dir.along_add, Dir.along_add, along_wallPoint_eq, along_wallPoint_eq]
  cases d <;> simp [Dir.along, Dir.isY, Dir.orthogonal, Dir.opposite, Dir.toVec2]

theorem SideRoom.stands_sharedWall {i : Nat} {d : Dir} {parent : Room} {fitted room : Rect}
    {layers : Span} {k : Kind} {offset : Int} (hs : src.Lawful)
    (hsound : ∀ o ∈ u.outlines, o.Sound plot.interior)
    (hf : Found src plot u i d parent fitted room layers k offset) :
    (sharedWall parent.footprint room d layers ⟨(i : Int)⟩ ⟨(u.boxes.length : Int)⟩ offset).Stands
      (u.boxes ++ [.ofRect room layers.lo layers.hi]) := by
  have hnext := reach_opposite_of_found hs hsound hf
  have hlong := hf.placed.1
  have hstorey : layers.lo ≤ parent.bounds.min.z ∧ parent.bounds.max.z ≤ layers.hi :=
    hf.settled.storey
  have hhigh : parent.bounds.min.z + 3 ≤ parent.bounds.max.z :=
    (hsound _ (List.mem_of_getElem? hf.settled.elder)).high
  have hold : u.boxes[i]? = some parent.bounds := Works.getElem?_boxes.2 ⟨parent, hf.elder, rfl⟩
  have hline : d.beyond parent.footprint = d.opposite.beyond room := by
    cases d <;> simp [Dir.beyond, Dir.edge, Dir.sign, Dir.opposite] at hnext ⊢ <;> omega
  obtain ⟨hfirst, hlast⟩ := along_posts parent.footprint room d
  apply Wall.Stands.between (a := parent.bounds) (b := .ofRect room layers.lo layers.hi) rfl rfl
    (getElem?_append_of_eq_some hold _) List.getElem?_concat_length
  · have := (List.getElem?_eq_some_iff.1 hold).1
    omega
  · show parent.bounds.min.z < layers.hi ∧ layers.lo < parent.bounds.max.z
    omega
  · show parent.footprint.Adjoins d _
    rw [Box.footprint_ofRect]
    unfold Rect.Adjoins Rect.Abreast gap
    cases d <;> simp [wallLength, firstPost, lastPost, wallPoint, Dir.edgePoint, Dir.onEdge,
      Dir.isY, Dir.edge, Dir.sign, Dir.opposite, Dir.orthogonal, Dir.along, Dir.toVec2]
      at hnext hlong ⊢ <;> omega
  · show d.along (firstPost parent.footprint room d) =
      min (d.beyond parent.footprint) (d.opposite.beyond _)
    rw [Box.footprint_ofRect, ← hline, Int.min_self, hfirst]
  · show d.along (lastPost parent.footprint room d) =
      max (d.beyond parent.footprint) (d.opposite.beyond _)
    rw [Box.footprint_ofRect, ← hline, Int.max_self, hlast]

/-- Every wall of a building that grows stands on the lines of its rooms. -/
theorem Growth.stands_of_built {es : List Event} (hs : src.Lawful) (h : Built src plot es w) :
    EveryWall Wall.Stands w :=
  everyWall_of_built (fun _ _ more hwl => hwl.append more) (fun hf => Entrance.stands_front hf)
    (fun hsound hf => SideRoom.stands_sharedWall hs hsound hf) h

namespace Partition

theorem stands_sharedWall {boxes : List Box} {i j : Nat} {a b : Box} {d : Dir}
    (door : Option Span) (ht : Tidy boxes) (hij : i ≠ j) (ha : boxes[i]? = some a)
    (hb : boxes[j]? = some b) (hover : a.Overlaps b) (hadj : a.footprint.Adjoins d b.footprint) :
    (sharedWall ⟨(i : Int)⟩ ⟨(j : Int)⟩ a b (contact a.footprint b.footprint d) d door).Stands
      boxes := by
  have hgap := hadj.1
  have hav := ht.valid ha
  have hbv := ht.valid hb
  unfold gap at hgap
  simp only [Rect.Valid] at hav hbv
  apply Wall.Stands.between rfl rfl ha hb hij hover hadj <;>
    cases d <;> simp [sharedWall, contact, Dir.push, Rect.inter, Dir.beyond, Dir.isY, Dir.edge,
      Dir.sign, Dir.opposite, Dir.orthogonal, Dir.along, Dir.toVec2] at hgap ⊢ <;> omega

theorem stands_outerWall {boxes : List Box} {i : Nat} {a : Box} {d : Dir} {s : Span}
    (ha : boxes[i]? = some a) : (outerWall ⟨(i : Int)⟩ a d s).Stands boxes := by
  apply Wall.Stands.beyond rfl rfl ha <;> cases d <;> rfl

theorem Closes.stands (ht : Tidy u.boxes) (h : Closes u v) (hu : EveryWall Wall.Stands u) :
    EveryWall Wall.Stands v :=
  Closes.everyWall ht
    (fun hij ha hb hover hadj _ => stands_sharedWall _ ht hij ha hb hover hadj)
    (fun ha => stands_outerWall ha) h hu

end Partition

/-! ## Taverns -/

namespace Tavern

open Growth

theorem Planned.tidy (hs : src.Lawful) (h : Planned src plot u v w) : Tidy w.boxes := by
  obtain ⟨es, hb⟩ := h.built hs
  rw [(h.closes hs).1.boxes, Works.boxes_eq_map]
  exact hb.grown.tidy

theorem Planned.stands (hs : src.Lawful) (h : Planned src plot u v w) :
    EveryWall Wall.Stands w := by
  obtain ⟨es, hb⟩ := h.built hs
  have ht := h.tidy hs
  rw [(h.closes hs).1.boxes] at ht
  exact (h.closes hs).1.stands ht (stands_of_built hs hb)

theorem boxes_of_outlines {rooms : Store .room Room}
    (h : rooms.items.map Room.outline = w.outlines) : rooms.items.map Room.bounds = w.boxes := by
  rw [Works.boxes_eq_map, ← h, List.map_map]
  rfl

/-- Two rooms that touch have a wall with its posts on two lines. -/
theorem Planned.exists_crooked (hs : src.Lawful) (h : Planned src plot u v w)
    {rooms : Store .room Room} (hb : rooms.items.map Room.bounds = w.boxes) {i j : Nat}
    {r s : Room} {d : Dir} (hij : i ≠ j) (hr : rooms.items[i]? = some r)
    (hsj : rooms.items[j]? = some s) (hover : r.bounds.Overlaps s.bounds)
    (hflush : r.footprint.Flush d s.footprint) :
    ∃ wl ∈ w.walls.items, wl.toward.along wl.stop = wl.toward.along wl.start + 1 := by
  have ha : w.boxes[i]? = some r.bounds := by rw [← hb, List.getElem?_map, hr]; rfl
  have hb' : w.boxes[j]? = some s.bounds := by rw [← hb, List.getElem?_map, hsj]; rfl
  have hrv := (h.tidy hs).valid ha
  have hsv := (h.tidy hs).valid hb'
  obtain ⟨hcl, hall⟩ := h.closes hs
  rw [hcl.boxes] at ha hb'
  obtain ⟨rfl, hc⟩ := Partition.contact_of_adjoins hrv hsv hflush.adjoins
  obtain ⟨wl, hwl, hjoins⟩ := hall i j _ _ hij ha hb' ⟨hover, hc⟩
  have hstands := h.stands hs wl hwl
  have hlr := Store.lookup_natCast hr
  have hls := Store.lookup_natCast hsj
  refine ⟨wl, hwl, ?_⟩
  rcases hjoins with ⟨hbehind, hahead⟩ | ⟨hbehind, hahead⟩
  · obtain ⟨-, -, hadj, -⟩ := hstands.of_both hb hbehind hahead hlr hls
    exact (hstands.crooked hb hbehind hahead hlr hls (hflush.of_adjoins hrv hsv hadj)).2
  · obtain ⟨-, -, hadj, -⟩ := hstands.of_both hb hbehind hahead hls hlr
    exact (hstands.crooked hb hbehind hahead hls hlr (hflush.symm.of_adjoins hsv hrv hadj)).2

/-- Every wall of a tavern lies between the rooms that it lists, and it is straight unless two of
them touch; then its posts stand on the edges of the two. All walls of a tavern are straight exactly
if no two rooms of overlapping layers touch. -/
theorem walls_straight_iff {streams : Streams σ} (hs : streams.layout.Lawful) {terrain : Terrain}
    {site : SiteMap} {req : TavernRequest} {stream : Stream σ} {tavern : Tavern} {t : Works σ}
    (h : generate streams terrain site req { stream } = .ok tavern t) :
    (∀ wl ∈ tavern.walls.items, wl.neighbours ≠ [] ∧ tavern.rooms.Resolves wl.neighbours ∧
      (wl.Straight tavern.rooms ↔ wl.Parts tavern.rooms) ∧
      ∀ i j r s, wl.behind = some i → wl.ahead = some j → tavern.rooms.lookup i = .ok r →
        tavern.rooms.lookup j = .ok s → r.footprint.Flush wl.toward s.footprint →
        wl.toward.along wl.start =
            min (wl.toward.edge r.footprint) (wl.toward.opposite.edge s.footprint) ∧
          wl.toward.along wl.stop = wl.toward.along wl.start + 1) ∧
    ((∀ wl ∈ tavern.walls.items, wl.Straight tavern.rooms) ↔
      ∀ (i j : Nat) r s d, i ≠ j → tavern.rooms.items[i]? = some r →
        tavern.rooms.items[j]? = some s → r.bounds.Overlaps s.bounds →
        ¬ r.footprint.Flush d s.footprint) := by
  obtain ⟨temperature, u, v, w, hplan, hwalls, houtlines⟩ := planned_of_generate h
  have hb := boxes_of_outlines houtlines
  have hstands : ∀ wl ∈ tavern.walls.items, wl.Stands w.boxes := by
    rw [hwalls]
    exact hplan.stands hs
  constructor
  · intro wl hwl
    have hwl := hstands wl hwl
    exact ⟨hwl.neighbours_ne_nil, hwl.rooms_known hb, hwl.straight_iff hb,
      fun i j r s hi hj hr hs hflush => hwl.crooked hb hi hj hr hs hflush⟩
  · constructor
    · intro hall i j r s d hij hr hsj hover hflush
      obtain ⟨wl, hwl, hcrooked⟩ := hplan.exists_crooked hs hb hij hr hsj hover hflush
      rw [← hwalls] at hwl
      have hlevel := (hall wl hwl).level
      omega
    · intro hfree wl hwl
      have hwl := hstands wl hwl
      apply (hwl.straight_iff hb).2
      intro i j r s hi hj hr hs hflush
      obtain ⟨⟨m, n, hmn, hm, hn⟩, hover, -⟩ := hwl.of_both hb hi hj hr hs
      exact hfree m n r s _ hmn hm hn hover hflush

/-! ## A crooked tavern -/

def crookedSite : SiteMap := TileGrid.toMap { origin := ⟨-1, -1⟩, tileSize := 1 }

def crookedRequest : TavernRequest where
  doorTile := ⟨16, 0⟩
  facing := .negY
  tiles := ⟨⟨0, 0⟩, ⟨33, 23⟩⟩
  level := some 0
  name := some "The Crooked Wall"

theorem finiteEverywhere_smallPlot : smallPlot.terrain.FiniteEverywhere :=
  ⟨finiteAltitudes_smallPlot,
    fun _ => ⟨0.0, rfl, false, 0, Number.leastExponent, by decide +kernel⟩⟩

theorem crookedRequest_answered : ∃ tavern t, generate (.single Script.source) smallPlot.terrain
    crookedSite crookedRequest { stream := smallScript } = .ok tavern t := by
  have hs : (Streams.single Script.source).layout.Lawful := Script.lawful_source
  have hfaults : FaultsIn (TooSmall (plotBounds crookedSite crookedRequest.tiles) .negY)
      (generate (.single Script.source) smallPlot.terrain crookedSite crookedRequest)
      { stream := smallScript } :=
    faultsIn_generate hs finiteEverywhere_smallPlot (by decide) (by decide)
  cases h : generate (.single Script.source) smallPlot.terrain crookedSite crookedRequest
      { stream := smallScript } with
  | ok tavern t => exact ⟨tavern, t, rfl⟩
  | error e t =>
    rcases hfaults e t h with ⟨-, hempty⟩ | ⟨-, hsmall⟩
    · exact absurd (by decide) hempty
    · exact absurd hsmall (by decide)

/-- The first rooms of that tavern are those of the small plot. -/
theorem outlines_of_crookedRequest {tavern : Tavern} {t : Works Script}
    (h : generate (.single Script.source) smallPlot.terrain crookedSite crookedRequest
      { stream := smallScript } = .ok tavern t) :
    ∃ u v w : Works Script, Planned Script.source smallPlot u v w ∧
      tavern.walls.items = w.walls.items ∧
      tavern.rooms.items.map Room.outline = w.outlines ∧
      [⟨.entrance, ⟨12, 1, 0⟩, ⟨18, 4, 4⟩⟩, ⟨.stage, ⟨11, 6, 0⟩, ⟨23, 20, 6⟩⟩,
        ⟨.bar, ⟨0, 0, 0⟩, ⟨10, 16, 5⟩⟩] <+: w.outlines := by
  obtain ⟨stream, temperature, level, roofs, works, hname, -, htemperature, hlevel, hlay, heq⟩ :=
    generate_cases h
  obtain ⟨-, hstream⟩ := pure_eq_ok_iff.1 hname
  obtain rfl := congrArg Works.stream hstream
  obtain rfl := Except.ok.inj htemperature
  obtain rfl := Except.ok.inj hlevel
  obtain ⟨id, u, v, w, hentrance, hplan, hsame⟩ := planned_of_layOut hlay
  obtain ⟨x, hx, hos⟩ := rounds_of_survey_from survey_smallPlot hentrance
  obtain ⟨n, hn⟩ := hplan.grown
  obtain ⟨k, hk⟩ := hx.rest Script.lawful_source hn hplan.finished
  have hkeep := outlines_of_rounds Script.lawful_source
    ((Tended.opened Script.lawful_source hplan.opened).rounds Script.lawful_source hx) hk
  refine ⟨u, v, w, hplan, ?_, ?_, ?_⟩
  · rw [heq]
    show works.walls.items = w.walls.items
    rw [hsame.walls]
  · rw [heq]
    exact hsame.outlines
  · rw [hplan.outlines Script.lawful_source, ← hos]
    exact hkeep

theorem walls_of_crookedRequest : ∃ tavern t, generate (.single Script.source) smallPlot.terrain
    crookedSite crookedRequest { stream := smallScript } = .ok tavern t ∧
    ((∀ wl ∈ tavern.walls.items, wl.Straight tavern.rooms) ↔
      ∀ (i j : Nat) r s d, i ≠ j → tavern.rooms.items[i]? = some r →
        tavern.rooms.items[j]? = some s → r.bounds.Overlaps s.bounds →
        ¬ r.footprint.Flush d s.footprint) := by
  obtain ⟨tavern, t, h⟩ := crookedRequest_answered
  have hs : (Streams.single Script.source).layout.Lawful := Script.lawful_source
  exact ⟨tavern, t, h, (walls_straight_iff hs h).2⟩

/-- The stage and the bar touch, and the posts of the wall between them stand on two lines. -/
theorem crooked_tavern : ∃ tavern t, generate (.single Script.source) smallPlot.terrain
    crookedSite crookedRequest { stream := smallScript } = .ok tavern t ∧
    Script.source.Lawful ∧ smallPlot.terrain.FiniteEverywhere ∧
    ∃ wl ∈ tavern.walls.items, wl.toward.along wl.start ≠ wl.toward.along wl.stop := by
  obtain ⟨tavern, t, h⟩ := crookedRequest_answered
  obtain ⟨u, v, w, hplan, hwalls, houtlines, more, hmore⟩ := outlines_of_crookedRequest h
  have hrooms : ∀ {i : Nat} {o : Outline}, w.outlines[i]? = some o →
      ∃ r, tavern.rooms.items[i]? = some r ∧ r.outline = o := by
    intro i o ho
    rwa [← houtlines, List.getElem?_map, Option.map_eq_some_iff] at ho
  obtain ⟨r, hr, hro⟩ := hrooms (i := 1) (by rw [← hmore]; rfl)
  obtain ⟨s, hs, hso⟩ := hrooms (i := 2) (by rw [← hmore]; rfl)
  have htouch : r.outline.box.Overlaps s.outline.box ∧
      r.outline.footprint.Flush .negX s.outline.footprint := by
    rw [hro, hso]
    decide
  obtain ⟨wl, hwl, hcrooked⟩ := hplan.exists_crooked Script.lawful_source
    (boxes_of_outlines houtlines) (by decide) hr hs htouch.1 htouch.2
  rw [← hwalls] at hwl
  exact ⟨tavern, t, h, Script.lawful_source, finiteEverywhere_smallPlot, wl, hwl, by omega⟩

end Tavern

end TavernLayout
