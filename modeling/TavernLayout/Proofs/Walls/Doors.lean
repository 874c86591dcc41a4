import TavernLayout.Proofs.Walls.Sources

/-!
# Where doors lead

Doors come from three places: the front wall, the wall that a room gets when it is added beside
another one, and the walls that the partition adds between rooms that touch. Each door lies between
the posts of its wall, and one step through it leads from every cell of the opening into the room at
that side.

* `Wall.direction_eq`: the direction of a wall, read off its posts;
* `Wall.mem_doorRect`: the cells of an opening are the posts that the door leaves out;
* `Wall.OpensInto`: all of an opening leads into a rectangle;
* `Entrance.opens_front`, `SideRoom.opens_sharedWall`, `Partition.opens_sharedWall`: the doors from
  the three places;
* `Wall.Leads`, `leads_of_built`, `Partition.Closes.leads`: every door of a building leads into its
  rooms;
* `doors_lead_into_rooms`: so it is in every building that is partitioned after it grew.
-/

namespace TavernLayout

namespace Wall

/-- The wall runs in the direction in which its posts are farthest apart. -/
theorem direction_eq {wl : Wall} {e : Dir}
    (h1 : e.orthogonal.along (wl.stop - wl.start) < e.sign * e.along (wl.stop - wl.start))
    (h2 : -e.orthogonal.along (wl.stop - wl.start) < e.sign * e.along (wl.stop - wl.start)) :
    wl.direction = e ∧ wl.length = e.sign * e.along (wl.stop - wl.start) := by
  have hd : wl.direction = e := Dir.ofVec2_of_lt h1 h2
  have hpos : 0 < e.sign * e.along (wl.stop - wl.start) := by omega
  refine ⟨hd, ?_⟩
  unfold length
  rw [hd]
  cases e <;> simp only [Dir.sign] at hpos ⊢ <;> omega

/-- The cells of an opening are the posts that the door leaves out. -/
theorem mem_doorRect {wl : Wall} {door : Span} {opening : Rect} {q : Vec2}
    (hdoor : wl.door = some door) (hopening : wl.doorRect = some opening)
    (hle : door.lo ≤ door.hi) : q ∈ opening ↔ ∃ o ∈ door, q = wl.post o := by
  rw [doorRect, hdoor] at hopening
  obtain rfl := Option.some.inj hopening
  rw [Rect.mem_iff]
  constructor
  · intro h
    refine ⟨wl.direction.sign * wl.direction.along (q - wl.start), ?_, ?_⟩
    · rw [Span.mem_iff]
      unfold post at h
      cases hd : wl.direction <;>
        simp [hd, Rect.sorted, Dir.toVec2, Dir.sign, Dir.along, Dir.isY] at h ⊢ <;> omega
    · unfold post at h ⊢
      cases hd : wl.direction <;> ext <;>
        simp [hd, Rect.sorted, Dir.toVec2, Dir.sign, Dir.along, Dir.isY] at h ⊢ <;> omega
  · rintro ⟨o, ho, rfl⟩
    rw [Span.mem_iff] at ho
    unfold post
    cases wl.direction <;> simp [Rect.sorted, Dir.toVec2] <;> omega

/-- All of the opening, one step to a side of the wall, lies in the rectangle. -/
def OpensInto (wl : Wall) (door : Span) (side : Dir) (r : Rect) : Prop :=
  ∀ o ∈ door, wl.post o + side.toVec2 ∈ r

end Wall

/-! ## Openings -/

section Openings

attribute [local simp] Dir.edgePoint Dir.onEdge Dir.edge Dir.isY Dir.cw Dir.ccw Dir.toVec2 Dir.along
  Dir.sign Dir.opposite Dir.orthogonal

variable {parent room : Rect} {d : Dir}

namespace Entrance

variable {p : Vec2} {door : Span}

theorem run_front (room : Rect) (layers : Span) (i : Ref .room) (p : Vec2) (d : Dir) :
    d.ccw.sign * d.ccw.along ((front room layers i p d).stop - (front room layers i p d).start) =
      d.cw.reach room + d.ccw.reach room + 2 := by
  cases d <;> simp [front] <;> omega

theorem width_front (layers : Span) (i : Ref .room) (p : Vec2) (d : Dir)
    (hside : 0 ≤ d.cw.reach room + d.ccw.reach room) :
    ((d.cw.along ((front room layers i p d).stop - (front room layers i p d).start)).natAbs : Int) =
      d.cw.reach room + d.ccw.reach room + 2 := by
  have hrun := run_front room layers i p d
  have hpos : 0 < d.ccw.sign *
      d.ccw.along ((front room layers i p d).stop - (front room layers i p d).start) := by omega
  rw [← hrun]
  cases d <;> simp only [Dir.cw, Dir.ccw, Dir.along, Dir.isY, Dir.sign, Bool.false_eq_true,
    if_false, if_true] at hpos ⊢ <;> omega

theorem runs_front (layers : Span) (i : Ref .room) (p : Vec2) (d : Dir)
    (hwide : ∀ d : Dir, 3 ≤ d.reach room + d.opposite.reach room) :
    (front room layers i p d).direction = d.ccw ∧
      (front room layers i p d).length = d.cw.reach room + d.ccw.reach room + 2 := by
  have hside := hwide d.cw
  have hrun := run_front room layers i p d
  rw [← hrun]
  apply Wall.direction_eq <;> rw [hrun] <;> cases d <;> simp [front] at hside ⊢ <;> omega

/-- The front door leads into the room behind it. -/
theorem opens_front {layers : Span} {i : Ref .room}
    (hwide : ∀ d : Dir, 3 ≤ d.reach room + d.opposite.reach room)
    (hdoor : (front room layers i p d).door = some door) :
    (0 < door.lo ∧ door.lo ≤ door.hi ∧ door.hi < (front room layers i p d).length) ∧
      (front room layers i p d).OpensInto door d.opposite room := by
  have hdeep := hwide d
  have hside := hwide d.cw
  have hrun := run_front room layers i p d
  obtain ⟨hd, hl⟩ := runs_front layers i p d hwide
  have hlong : 5 ≤ d.cw.reach room + d.ccw.reach room + 2 := by
    cases d <;> simp at hside ⊢ <;> omega
  -- the wall is at least five long, so three door voxels fit between its posts
  have hmid : 0 < door.lo ∧ door.lo ≤ door.hi ∧
      door.hi < d.cw.reach room + d.ccw.reach room + 2 := by
    have hlength := width_front layers i p d (show 0 ≤ d.cw.reach room + d.ccw.reach room by omega)
    obtain rfl := Option.some.inj hdoor
    simp only [front] at hlength ⊢
    rw [hlength]
    have h1 := le_clamp ((d.cw.along (p - (d.edgePoint room (d.cw.edge room) + d.cw.toVec2 +
      d.toVec2))).natAbs : Int) 2 (d.cw.reach room + d.ccw.reach room + 2 - 2)
    have h2 := clamp_le ((d.cw.along (p - (d.edgePoint room (d.cw.edge room) + d.cw.toVec2 +
      d.toVec2))).natAbs : Int)
      (show (2 : Int) ≤ d.cw.reach room + d.ccw.reach room + 2 - 2 by omega)
    omega
  rw [hl]
  refine ⟨hmid, fun o ho => ?_⟩
  rw [Span.mem_iff] at ho
  unfold Wall.post
  rw [hd, Rect.mem_iff]
  cases d <;> simp [front] at hdeep hside hmid ⊢ <;> omega

end Entrance

namespace SideRoom

theorem runs_sharedWall (layers : Span) (i j : Ref .room) (offset : Int)
    (hlong : 3 ≤ wallLength parent room d) :
    (sharedWall parent room d layers i j offset).direction = d.orthogonal ∧
      (sharedWall parent room d layers i j offset).length = wallLength parent room d := by
  have hrun : d.orthogonal.sign * d.orthogonal.along
      ((sharedWall parent room d layers i j offset).stop -
        (sharedWall parent room d layers i j offset).start) = wallLength parent room d := by
    cases d <;> simp [sharedWall, wallLength]
  rw [← hrun]
  apply Wall.direction_eq <;> rw [hrun] <;> cases d <;>
    simp [sharedWall, firstPost, lastPost, wallPoint] <;> omega

/-- The door between a room and a new one that begins two cells beyond it leads into both. -/
theorem opens_sharedWall (layers : Span) (i j : Ref .room) {offset : Int} (hp : parent.Valid)
    (hr : room.Valid)
    (hnext : d.opposite.reach room = -(d.reach parent + 2))
    (hlong : 3 ≤ wallLength parent room d) (h1 : 1 ≤ offset)
    (h2 : offset ≤ wallLength parent room d - 2) :
    (sharedWall parent room d layers i j offset).OpensInto ⟨offset, offset + 1⟩ d room ∧
      (sharedWall parent room d layers i j offset).OpensInto ⟨offset, offset + 1⟩ d.opposite
        parent := by
  have hd := (runs_sharedWall layers i j offset hlong).1
  simp only [Rect.Valid] at hp hr
  constructor <;>
  · intro o ho
    rw [Span.mem_iff] at ho
    unfold Wall.post
    rw [hd, Rect.mem_iff]
    cases d <;>
      simp [sharedWall, wallLength, firstPost, lastPost, wallPoint] at hlong hnext h2 ho ⊢ <;>
      omega

end SideRoom

namespace Partition

variable {r s : Rect} {opening : Span}

theorem runs_sharedWall (i j : Ref .room) (a b : Box) (door : Option Span) (hr : r.Valid)
    (hs : s.Valid) (hadj : r.Adjoins d s)
    (hlong : 1 ≤ (extent (contact r s d) d).hi - (extent (contact r s d) d).lo) :
    (sharedWall i j a b (contact r s d) d door).direction = d.orthogonal ∧
      (sharedWall i j a b (contact r s d) d door).length =
        (extent (contact r s d) d).hi - (extent (contact r s d) d).lo + 2 := by
  have hrun : d.orthogonal.sign * d.orthogonal.along
      ((sharedWall i j a b (contact r s d) d door).stop -
        (sharedWall i j a b (contact r s d) d door).start) =
      (extent (contact r s d) d).hi - (extent (contact r s d) d).lo + 2 := by
    cases d <;> simp [sharedWall, extent] <;> omega
  rw [← hrun]
  simp only [Rect.Valid] at hr hs
  unfold Rect.Adjoins Rect.Abreast gap at *
  apply Wall.direction_eq <;> rw [hrun] <;> cases d <;>
    simp [sharedWall, extent, contact, Dir.push, Rect.inter] at hadj hlong ⊢ <;> omega

/-- A door on the contact of two rooms leads into both. -/
theorem opens_sharedWall (i j : Ref .room) (a b : Box) (door : Option Span)
    (hr : ∀ d : Dir, 3 ≤ d.reach r + d.opposite.reach r)
    (hs : ∀ d : Dir, 3 ≤ d.reach s + d.opposite.reach s) (hadj : r.Adjoins d s)
    (h1 : 0 < opening.lo) (h2 : opening.lo < opening.hi)
    (h3 : opening.hi < (extent (contact r s d) d).hi - (extent (contact r s d) d).lo) :
    (sharedWall i j a b (contact r s d) d door).OpensInto opening d s ∧
      (sharedWall i j a b (contact r s d) d door).OpensInto opening d.opposite r := by
  have hrv : r.Valid := Dir.valid_iff_reach.2 fun e => by have := hr e; omega
  have hsv : s.Valid := Dir.valid_iff_reach.2 fun e => by have := hs e; omega
  have hd := (runs_sharedWall i j a b door hrv hsv hadj (by omega)).1
  have hdeep := hr d
  have hdeep' := hs d
  unfold Rect.Adjoins Rect.Abreast gap at *
  constructor <;>
  · intro o ho
    rw [Span.mem_iff] at ho
    unfold Wall.post
    rw [hd, Rect.mem_iff]
    cases d <;>
      simp [sharedWall, extent, contact, Dir.push, Rect.inter] at hadj hdeep hdeep' h3 ⊢ <;> omega

end Partition

end Openings

/-! ## Doors and rooms -/

def Box.Level (a b : Box) : Prop :=
  ∃ z, (a.min.z ≤ z ∧ z ≤ a.max.z) ∧ b.min.z ≤ z ∧ z ≤ b.max.z

namespace Wall

/-- The room of that number is where the opening leads on a side of the wall. -/
def OpensOn (wl : Wall) (boxes : List Box) (door : Span) (side : Dir) (id : Ref .room) : Prop :=
  ∃ (i : Nat) (a : Box), id = ⟨(i : Int)⟩ ∧ boxes[i]? = some a ∧ wl.OpensInto door side a.footprint

/-- The door lies between the posts and leads into the rooms at both sides, which share a layer. -/
structure Leads (wl : Wall) (boxes : List Box) (door : Span) : Prop where
  fits : 0 < door.lo ∧ door.lo ≤ door.hi ∧ door.hi < wl.length
  ahead : ∀ id, wl.ahead = some id → wl.OpensOn boxes door wl.toward id
  behind : ∀ id, wl.behind = some id → wl.OpensOn boxes door wl.toward.opposite id
  level : ∀ (i j : Nat) a b, wl.behind = some ⟨(i : Int)⟩ → wl.ahead = some ⟨(j : Int)⟩ →
    boxes[i]? = some a → boxes[j]? = some b → a.Level b

variable {wl : Wall} {boxes more : List Box} {door : Span} {side : Dir} {id : Ref .room}

theorem OpensOn.append (h : wl.OpensOn boxes door side id) :
    wl.OpensOn (boxes ++ more) door side id := by
  obtain ⟨i, a, rfl, ha, h⟩ := h
  refine ⟨i, a, rfl, ?_, h⟩
  rw [List.getElem?_append_left (List.getElem?_eq_some_iff.1 ha).1, ha]

theorem OpensOn.lt_length {i : Nat} (h : wl.OpensOn boxes door side ⟨(i : Int)⟩) :
    i < boxes.length := by
  obtain ⟨j, a, hj, ha, -⟩ := h
  obtain rfl : i = j := Ref.natCast_inj.1 hj
  exact (List.getElem?_eq_some_iff.1 ha).1

/-- More rooms do not change where a door leads. -/
theorem Leads.append (h : wl.Leads boxes door) : wl.Leads (boxes ++ more) door := by
  refine ⟨h.fits, fun id hid => (h.ahead id hid).append, fun id hid => (h.behind id hid).append, ?_⟩
  intro i j a b hi hj ha hb
  rw [List.getElem?_append_left (h.behind _ hi).lt_length] at ha
  rw [List.getElem?_append_left (h.ahead _ hj).lt_length] at hb
  exact h.level i j a b hi hj ha hb

end Wall

variable {σ : Type} {src : Source σ} {plot : Plot} {u v w w' : Works σ}

def DoorsLead (w : Works σ) : Prop :=
  ∀ wl ∈ w.walls.items, ∀ door, wl.door = some door → wl.Leads w.boxes door

/-! ## Buildings that grow -/

/-- The front door leads into the room behind it. -/
theorem Entrance.leads_front {door : Vec3} {bounds : Box} {room : Rect} {k : Kind} {facing : Dir}
    (hf : Found plot door bounds room k) {opening : Span}
    (hopening : (front room ⟨bounds.min.z, bounds.max.z⟩ ⟨((0 : Nat) : Int)⟩ door.plan
      facing).door = some opening) :
    (front room ⟨bounds.min.z, bounds.max.z⟩ ⟨((0 : Nat) : Int)⟩ door.plan facing).Leads [bounds]
      opening := by
  obtain ⟨hfits, hopens⟩ := opens_front hf.accepted.three_le hopening
  refine ⟨hfits, fun id hid => ?_, fun id hid => (by cases hid), fun i j a b hid => by cases hid⟩
  obtain rfl := Option.some.inj hid
  obtain ⟨height, -, rfl⟩ := hf.storey
  exact ⟨0, .ofRect room door.z (door.z + height), rfl, rfl, hopens⟩

/-- The door to a room that is added beside another one leads into both. -/
theorem SideRoom.leads_sharedWall {i : Nat} {d : Dir} {parent : Room} {fitted room : Rect}
    {layers : Span} {k : Kind} {offset : Int} (hs : src.Lawful)
    (hsound : ∀ o ∈ u.outlines, o.Sound plot.interior)
    (hf : Found src plot u i d parent fitted room layers k offset) {opening : Span}
    (hopening : (sharedWall parent.footprint room d layers ⟨(i : Int)⟩ ⟨(u.boxes.length : Int)⟩
      offset).door = some opening) :
    (sharedWall parent.footprint room d layers ⟨(i : Int)⟩ ⟨(u.boxes.length : Int)⟩ offset).Leads
      (u.boxes ++ [.ofRect room layers.lo layers.hi]) opening := by
  obtain rfl := Option.some.inj hopening
  have hset := hf.settled
  have hnew := hset.sound hsound
  have hparent := hsound _ (List.mem_of_getElem? hset.elder)
  obtain ⟨hlong, c, -, ⟨lower, hoffset⟩, -⟩ := hf.placed
  have h1 : 1 ≤ offset := by
    rw [hoffset]
    exact le_clamp ..
  have h2 : offset ≤ wallLength parent.footprint room d - 2 := by
    rw [hoffset]
    exact clamp_le _ (by omega)
  obtain ⟨hinto, hback⟩ := opens_sharedWall layers ⟨(i : Int)⟩ ⟨(u.boxes.length : Int)⟩
    hparent.accepted.1 hnew.accepted.1 (reach_opposite_of_found hs hsound hf) hlong h1 h2
  have hlength :=
    (runs_sharedWall layers ⟨(i : Int)⟩ ⟨(u.boxes.length : Int)⟩ offset hlong).2
  have hold : (u.boxes ++ [.ofRect room layers.lo layers.hi])[i]? = some parent.bounds :=
    getElem?_append_of_eq_some (Works.getElem?_boxes.2 ⟨parent, hf.elder, rfl⟩) _
  have hself : (u.boxes ++ [.ofRect room layers.lo layers.hi])[u.boxes.length]? =
      some (.ofRect room layers.lo layers.hi) := List.getElem?_concat_length
  constructor
  · rw [hlength]
    show 0 < offset ∧ offset ≤ offset + 1 ∧ offset + 1 < _
    omega
  · intro id hid
    obtain rfl := Option.some.inj hid
    exact ⟨u.boxes.length, .ofRect room layers.lo layers.hi, rfl, hself, hinto⟩
  · intro id hid
    obtain rfl := Option.some.inj hid
    exact ⟨i, parent.bounds, rfl, hold, hback⟩
  · intro m n a b hm hn ha hb
    obtain rfl : i = m := Ref.natCast_inj.1 (Option.some.inj hm)
    obtain rfl : u.boxes.length = n := Ref.natCast_inj.1 (Option.some.inj hn)
    obtain rfl := Option.some.inj (hold.symm.trans ha)
    obtain rfl := Option.some.inj (hself.symm.trans hb)
    have hstorey : layers.lo ≤ parent.bounds.min.z ∧ parent.bounds.max.z ≤ layers.hi := hset.storey
    have hhigh : parent.bounds.min.z + 3 ≤ parent.bounds.max.z := hparent.high
    refine ⟨parent.bounds.min.z, ⟨Int.le_refl _, by omega⟩, hstorey.1, ?_⟩
    show parent.bounds.min.z ≤ layers.hi
    omega

/-- Every door of a building that grows leads into the rooms at both sides. -/
theorem Growth.leads_of_built {es : List Event} (hs : src.Lawful) (h : Built src plot es w) :
    DoorsLead w :=
  everyWall_of_built (P := fun wl boxes => ∀ door, wl.door = some door → wl.Leads boxes door)
    (fun _ _ _ hl door hdoor => (hl door hdoor).append)
    (fun hf _ hopening => Entrance.leads_front hf hopening)
    (fun hsound hf _ hopening => SideRoom.leads_sharedWall hs hsound hf hopening) h

/-! ## Buildings that are partitioned -/

namespace Partition

/-- The door of a wall that the partition adds leads into the rooms at both sides. -/
theorem leads_sharedWall {boxes : List Box} {i j : Nat} {a b : Box} {d : Dir} {door : Option Span}
    (ht : Tidy boxes) (ha : boxes[i]? = some a) (hb : boxes[j]? = some b) (hover : a.Overlaps b)
    (hadj : a.footprint.Adjoins d b.footprint)
    (hdoor : ∀ s, door = some s → 0 < s.lo ∧ s.lo < s.hi ∧
      s.hi < (extent (contact a.footprint b.footprint d) d).hi -
        (extent (contact a.footprint b.footprint d) d).lo) {opening : Span}
    (hopening : door = some opening) :
    (sharedWall ⟨(i : Int)⟩ ⟨(j : Int)⟩ a b (contact a.footprint b.footprint d) d door).Leads boxes
      opening := by
  obtain ⟨h1, h2, h3⟩ := hdoor opening hopening
  obtain ⟨hinto, hback⟩ := opens_sharedWall ⟨(i : Int)⟩ ⟨(j : Int)⟩ a b door (ht.wide i a ha)
    (ht.wide j b hb) hadj h1 h2 h3
  have hlength := (runs_sharedWall ⟨(i : Int)⟩ ⟨(j : Int)⟩ a b door (ht.valid ha) (ht.valid hb) hadj
    (by omega)).2
  constructor
  · rw [hlength]
    omega
  · intro id hid
    obtain rfl := Option.some.inj hid
    exact ⟨j, b, rfl, hb, hinto⟩
  · intro id hid
    obtain rfl := Option.some.inj hid
    exact ⟨i, a, rfl, ha, hback⟩
  · intro m n r s hm hn hr hs
    obtain rfl : i = m := Ref.natCast_inj.1 (Option.some.inj hm)
    obtain rfl : j = n := Ref.natCast_inj.1 (Option.some.inj hn)
    obtain rfl := Option.some.inj (ha.symm.trans hr)
    obtain rfl := Option.some.inj (hb.symm.trans hs)
    have h4 := ht.high i a ha
    have h5 := ht.high j b hb
    obtain ⟨h6, h7⟩ := hover
    exact ⟨max a.min.z b.min.z, by omega, by omega⟩

theorem Closes.leads (h : Closes u v) (ht : Tidy u.boxes) (hd : DoorsLead u) : DoorsLead v :=
  Closes.everyWall (P := fun wl boxes => ∀ door, wl.door = some door → wl.Leads boxes door) ht
    (fun _ ha hb hover hadj hdoor _ hopening =>
      leads_sharedWall ht ha hb hover hadj hdoor hopening)
    (fun _ _ hopening => by cases hopening) h hd

end Partition

/-- A step back is a step in the opposite direction. -/
theorem Vec2.sub_toVec2 (p : Vec2) (d : Dir) : p - d.toVec2 = p + d.opposite.toVec2 := by
  cases d <;> ext <;> simp [Dir.toVec2, Dir.opposite] <;> omega

namespace Growth

theorem lookup_of_boxes {i : Nat} {a : Box} (h : w.boxes[i]? = some a) :
    ∃ r, w.rooms.lookup ⟨(i : Int)⟩ = .ok r ∧ r.bounds = a := by
  obtain ⟨r, hr, ha⟩ := Works.getElem?_boxes.1 h
  exact ⟨r, Store.lookup_natCast_iff.2 hr, ha⟩

/-- A building that has grown can be partitioned, and then every door lies strictly between the
posts of its wall. From each voxel of the opening one step in the direction of the wall leads into
the room ahead, and one step back leads into the room behind, where there are such rooms; and where
there are both, they share a layer. -/
theorem doors_lead_into_rooms {n : Nat} (hs : src.Lawful) (ho : Opened src plot w)
    (h : Rounds src plot w n w') :
    ∃ w'', partitionRooms src w' = .ok () w'' ∧
      ∀ wl ∈ w''.walls.items, ∀ door, wl.door = some door →
        (0 < door.lo ∧ door.lo ≤ door.hi ∧ door.hi < wl.length) ∧
        (∀ id, wl.ahead = some id → ∃ r, w''.rooms.lookup id = .ok r ∧
          ∀ o, door.lo ≤ o → o ≤ door.hi → wl.post o + wl.toward.toVec2 ∈ r.footprint) ∧
        (∀ id, wl.behind = some id → ∃ r, w''.rooms.lookup id = .ok r ∧
          ∀ o, door.lo ≤ o → o ≤ door.hi → wl.post o - wl.toward.toVec2 ∈ r.footprint) ∧
        ∀ id id' r s, wl.behind = some id → wl.ahead = some id' →
          w''.rooms.lookup id = .ok r → w''.rooms.lookup id' = .ok s →
          ∃ z, (r.bottom ≤ z ∧ z ≤ r.top) ∧ s.bottom ≤ z ∧ z ≤ s.top := by
  obtain ⟨es, -, hb⟩ := built_of_rounds hs ho h
  have hc := (consistent_of_built hb).1
  have hopen := ((Tended.opened hs ho).rounds hs h).walls
  cases hrun : partitionRooms src w' with
  | error e t =>
    have hfrozen := ((Partition.ends_partitionRooms hs hc.issued).2 e t hrun).2
    rw [hopen] at hfrozen
    cases hfrozen
  | ok u w'' =>
    refine ⟨w'', rfl, fun wl hwl door hdoor => ?_⟩
    have hcl := (Partition.joined_of_partitionRooms hs hc hrun).1
    have htidy : Tidy w'.boxes := by
      rw [Works.boxes_eq_map]
      exact hb.grown.tidy
    have hl := hcl.leads htidy (leads_of_built hs hb) wl hwl door hdoor
    refine ⟨hl.fits, fun id hid => ?_, fun id hid => ?_, fun id id' r s hid hid' hr hr' => ?_⟩
    · obtain ⟨i, a, rfl, ha, hopens⟩ := hl.ahead id hid
      obtain ⟨r, hr, rfl⟩ := lookup_of_boxes ha
      exact ⟨r, hr, fun o h1 h2 => hopens o ⟨h1, h2⟩⟩
    · obtain ⟨i, a, rfl, ha, hopens⟩ := hl.behind id hid
      obtain ⟨r, hr, rfl⟩ := lookup_of_boxes ha
      refine ⟨r, hr, fun o h1 h2 => ?_⟩
      rw [Vec2.sub_toVec2]
      exact hopens o ⟨h1, h2⟩
    · obtain ⟨i, a, rfl, ha, -⟩ := hl.behind id hid
      obtain ⟨j, b, rfl, hb', -⟩ := hl.ahead id' hid'
      obtain ⟨r', hr1, rfl⟩ := lookup_of_boxes ha
      obtain ⟨s', hs1, rfl⟩ := lookup_of_boxes hb'
      obtain rfl := Except.ok.inj (hr1.symm.trans hr)
      obtain rfl := Except.ok.inj (hs1.symm.trans hr')
      exact hl.level i j _ _ hid hid' ha hb'

theorem doors_of_smallPlot : ∃ w w' w'' : Works Script, Opened Script.source smallPlot w ∧
    Rounds Script.source smallPlot w 2 w' ∧ w'.rooms.size = 3 ∧
    partitionRooms Script.source w' = .ok () w'' ∧
    ∀ wl ∈ w''.walls.items, ∀ door, wl.door = some door →
      (0 < door.lo ∧ door.lo ≤ door.hi ∧ door.hi < wl.length) ∧
      (∀ id, wl.ahead = some id → ∃ r, w''.rooms.lookup id = .ok r ∧
        ∀ o, door.lo ≤ o → o ≤ door.hi → wl.post o + wl.toward.toVec2 ∈ r.footprint) ∧
      (∀ id, wl.behind = some id → ∃ r, w''.rooms.lookup id = .ok r ∧
        ∀ o, door.lo ≤ o → o ≤ door.hi → wl.post o - wl.toward.toVec2 ∈ r.footprint) ∧
      ∀ id id' r s, wl.behind = some id → wl.ahead = some id' →
        w''.rooms.lookup id = .ok r → w''.rooms.lookup id' = .ok s →
        ∃ z, (r.bottom ≤ z ∧ z ≤ r.top) ∧ s.bottom ≤ z ∧ z ≤ s.top := by
  obtain ⟨w, w', ho, hr, hos⟩ := rounds_of_survey survey_smallPlot
  obtain ⟨w'', hrun, hdoors⟩ := doors_lead_into_rooms Script.lawful_source ho hr
  have hsize : w'.rooms.size = 3 := by
    rw [← Works.length_outlines, hos]
    rfl
  exact ⟨w, w', w'', ho, hr, hsize, hrun, hdoors⟩

end Growth

end TavernLayout
