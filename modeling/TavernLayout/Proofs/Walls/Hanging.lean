import TavernLayout.Proofs.Growth.History
import TavernLayout.Proofs.Partition

/-!
# Walls and the rooms that list them

A wall names the rooms at its sides, and a room lists the walls on its sides. The two agree in every
building that grows: a room lists a wall once on the side on which it stands, and nowhere else. No
two walls join the same rooms.

* `Wall.Faces`, `Wall.Joins`: what a wall says about rooms;
* `Consistent`: walls and rooms agree;
* `Raised`, `Consistent.raise`: a new wall between rooms that no other wall joins keeps this;
* `consistent_of_built`: it holds in every building that grows.
-/

namespace TavernLayout

namespace Wall

def Faces (wl : Wall) (id : Ref .room) (d : Dir) : Prop :=
  (wl.behind = some id ∧ wl.toward = d) ∨ (wl.ahead = some id ∧ wl.toward = d.opposite)

instance (wl : Wall) (id : Ref .room) (d : Dir) : Decidable (wl.Faces id d) :=
  inferInstanceAs (Decidable ((_ ∧ _) ∨ (_ ∧ _)))

def Joins (wl : Wall) (a b : Ref .room) : Prop :=
  (wl.behind = some a ∧ wl.ahead = some b) ∨ (wl.behind = some b ∧ wl.ahead = some a)

variable {wl : Wall} {a b : Ref .room} {d : Dir}

theorem Joins.symm (h : wl.Joins a b) : wl.Joins b a := Or.symm h

theorem Joins.faces (h : wl.Joins a b) : ∃ d, wl.Faces a d := by
  rcases h with ⟨h, -⟩ | ⟨-, h⟩
  · exact ⟨wl.toward, .inl ⟨h, rfl⟩⟩
  · exact ⟨wl.toward.opposite, .inr ⟨h, (Dir.opposite_opposite _).symm⟩⟩

theorem Joins.mem_neighbours (h : wl.Joins a b) : a ∈ wl.neighbours ∧ b ∈ wl.neighbours := by
  rw [Wall.mem_neighbours, Wall.mem_neighbours]
  rcases h with ⟨ha, hb⟩ | ⟨hb, ha⟩
  · exact ⟨.inl ha, .inr hb⟩
  · exact ⟨.inr ha, .inl hb⟩

theorem Faces.mem_neighbours (h : wl.Faces a d) : a ∈ wl.neighbours := by
  rw [Wall.mem_neighbours]
  exact h.imp And.left And.left

/-- A wall on the side of one room joins it to every other room that it names. -/
theorem Faces.joins (h : wl.Faces a d) (hb : b ∈ wl.neighbours) (hne : b ≠ a) : wl.Joins a b := by
  rcases Wall.mem_neighbours.1 hb with hb | hb <;> rcases h with ⟨ha, -⟩ | ⟨ha, -⟩
  · exact absurd (Option.some.inj (hb.symm.trans ha)) hne
  · exact .inr ⟨hb, ha⟩
  · exact .inl ⟨ha, hb⟩
  · exact absurd (Option.some.inj (hb.symm.trans ha)) hne

end Wall

variable {σ : Type} {src : Source σ} {plot : Plot} {u v w w' : Works σ} {wl : Wall}

/-- A room lists a wall once on the side on which the wall stands and nowhere else, and no two walls
join the same rooms. -/
structure Consistent (w : Works σ) : Prop where
  issued : Partition.Issued w
  hung : ∀ (i : Nat) r, w.rooms.items[i]? = some r → ∀ (k : Nat) wl, w.walls.items[k]? = some wl →
    ∀ d, (r.walls.get d).count ⟨(k : Int)⟩ = if wl.Faces ⟨(i : Int)⟩ d then 1 else 0
  single : ∀ (k l : Nat) wl wl', w.walls.items[k]? = some wl → w.walls.items[l]? = some wl' →
    ∀ a b, wl.Joins a b → wl'.Joins a b → k = l

def Joined (w : Works σ) (a b : Ref .room) : Prop := ∃ wl ∈ w.walls.items, wl.Joins a b

theorem Joined.symm {a b : Ref .room} (h : Joined w a b) : Joined w b a := by
  obtain ⟨wl, hwl, h⟩ := h
  exact ⟨wl, hwl, h.symm⟩

/-- Rooms whose walls are in order are joined by one wall at most. -/
theorem Consistent.exists_unique (h : Consistent w) {a b : Ref .room} (hj : Joined w a b) :
    ∃! k : Nat, ∃ wl, w.walls.items[k]? = some wl ∧ wl.Joins a b := by
  obtain ⟨wl, hwl, hj⟩ := hj
  obtain ⟨k, hk⟩ := List.mem_iff_getElem?.1 hwl
  refine ⟨k, ⟨wl, hk, hj⟩, ?_⟩
  rintro l ⟨wl', hl, hj'⟩
  exact h.single l k wl' wl hl hk a b hj' hj

/-- A room lists a wall on a side exactly when the wall stands there. -/
theorem Consistent.mem_iff (h : Consistent w) {i k : Nat} {r : Room} {d : Dir}
    (hr : w.rooms.items[i]? = some r) (hk : w.walls.items[k]? = some wl) :
    (⟨(k : Int)⟩ : Ref .wall) ∈ r.walls.get d ↔ wl.Faces ⟨(i : Int)⟩ d := by
  rw [← List.count_pos_iff, h.hung i r hr k wl hk d]
  split <;> simp [*]

theorem Consistent.of_same (h : Consistent u) (hr : v.rooms = u.rooms) (hw : v.walls = u.walls) :
    Consistent v := by
  obtain ⟨h1, h2, h3⟩ := h
  constructor
  · unfold Partition.Issued
    rw [hr, hw]
    exact h1
  · rw [hr, hw]
    exact h2
  · rw [hw]
    exact h3

/-! ## One more wall -/

/-- The building `w'` has one more wall, and the rooms list it where it stands. -/
structure Raised (w w' : Works σ) (wl : Wall) : Prop where
  walls : w'.walls.items = w.walls.items ++ [wl]
  rooms : ∀ (i : Nat) r', w'.rooms.items[i]? = some r' → ∃ r, w.rooms.items[i]? = some r ∧
    ∀ d, r'.walls.get d =
      r.walls.get d ++ if wl.Faces ⟨(i : Int)⟩ d then [⟨(w.walls.size : Int)⟩] else []

def Wall.side (wl : Wall) (id : Ref .room) : Option Dir :=
  if wl.behind = some id then some wl.toward
  else if wl.ahead = some id then some wl.toward.opposite else none

/-- The room with a wall on one of its sides, or on none. -/
def Room.hung (r : Room) (id : Ref .wall) : Option Dir → Room
  | none => r
  | some d => r.addWall d id

theorem Room.get_hung (r : Room) (id : Ref .wall) (side : Option Dir) (d : Dir) :
    (r.hung id side).walls.get d = r.walls.get d ++ if side = some d then [id] else [] := by
  cases side with
  | none => simp [hung]
  | some e =>
    by_cases he : d = e
    · subst he
      simp [hung, get_addWall_self]
    · simp [hung, get_addWall_of_ne he, Ne.symm he]

/-- A wall between different rooms stands on one side of each room at most. -/
theorem Wall.faces_iff_side {a : Ref .room} {d : Dir}
    (h : wl.behind = some a → wl.ahead ≠ some a) : wl.Faces a d ↔ wl.side a = some d := by
  unfold Faces side
  by_cases hb : wl.behind = some a
  · simp [hb, h hb]
  · by_cases ha : wl.ahead = some a
    · simp only [hb, ha, false_and, true_and, false_or, if_false, if_true, Option.some.injEq]
      constructor
      · intro hd
        rw [hd, Dir.opposite_opposite]
      · rintro rfl
        rw [Dir.opposite_opposite]
    · simp [hb, ha]

/-- A wall that every room gets on the side on which it stands. -/
theorem Raised.of_side (hwalls : w'.walls.items = w.walls.items ++ [wl])
    (hdiff : ∀ a, wl.behind = some a → wl.ahead ≠ some a)
    (hrooms : ∀ (i : Nat) r', w'.rooms.items[i]? = some r' → ∃ r, w.rooms.items[i]? = some r ∧
      r' = r.hung ⟨(w.walls.size : Int)⟩ (wl.side ⟨(i : Int)⟩)) : Raised w w' wl := by
  refine ⟨hwalls, fun i r' hr' => ?_⟩
  obtain ⟨r, hr, rfl⟩ := hrooms i r' hr'
  refine ⟨r, hr, fun d => ?_⟩
  rw [Room.get_hung, ← if_congr (Wall.faces_iff_side (hdiff _)) rfl rfl]

theorem Raised.issued (h : Raised w w' wl) (hw : Partition.Issued w) :
    Partition.Issued w' := by
  intro r' hr' d id hid
  obtain ⟨i, hi⟩ := List.mem_iff_getElem?.1 hr'
  obtain ⟨r, hr, hlist⟩ := h.rooms i r' hi
  have hsize : w'.walls.size = w.walls.size + 1 := by
    rw [Store.size, h.walls, List.length_append]
    rfl
  rw [hlist] at hid
  rcases List.mem_append.1 hid with hid | hid
  · obtain ⟨k, rfl, hk⟩ := hw r (List.mem_of_getElem? hr) d id hid
    exact ⟨k, rfl, by omega⟩
  · split at hid
    · obtain rfl := List.mem_singleton.1 hid
      exact ⟨w.walls.size, rfl, by omega⟩
    · cases hid

/-- A wall that nothing lists yet is not among those that were issued. -/
theorem Partition.Issued.not_mem (h : Issued w) {r : Room} (hr : r ∈ w.rooms.items) (d : Dir) :
    (⟨(w.walls.size : Int)⟩ : Ref .wall) ∉ r.walls.get d := by
  intro hid
  obtain ⟨k, hk, hlt⟩ := h r hr d _ hid
  have := Ref.natCast_inj.1 hk
  omega

/-- A wall between rooms that were not joined yet keeps walls and rooms consistent. -/
theorem Consistent.raise (h : Consistent w) (hr : Raised w w' wl)
    (hnew : ∀ a b, wl.Joins a b → ¬ Joined w a b) : Consistent w' := by
  refine ⟨hr.issued h.issued, ?_, ?_⟩
  · intro i r' hr' k wl' hk d
    obtain ⟨r, hri, hlist⟩ := hr.rooms i r' hr'
    rw [hr.walls] at hk
    rw [hlist, List.count_append]
    rcases getElem?_append_singleton hk with ⟨hlt, hk⟩ | ⟨rfl, rfl⟩
    · have hne : (⟨(w.walls.size : Int)⟩ : Ref .wall) ≠ ⟨(k : Int)⟩ := by
        rw [ne_eq, Ref.mk.injEq, Store.size]
        omega
      rw [h.hung i r hri k wl' hk d]
      split <;> split <;> simp [hne]
    · have hzero := List.count_eq_zero.2 (h.issued.not_mem (List.mem_of_getElem? hri) d)
      unfold Store.size at hzero ⊢
      rw [hzero]
      split <;> simp
  · intro k l wl1 wl2 hk hl a b h1 h2
    rw [hr.walls] at hk hl
    rcases getElem?_append_singleton hk with ⟨-, hold⟩ | ⟨rfl, rfl⟩ <;>
      rcases getElem?_append_singleton hl with ⟨-, hold'⟩ | ⟨rfl, rfl⟩
    · exact h.single k l wl1 wl2 hold hold' a b h1 h2
    · exact absurd ⟨wl1, List.mem_of_getElem? hold, h1⟩ (hnew a b h2)
    · exact absurd ⟨wl2, List.mem_of_getElem? hold', h2⟩ (hnew a b h1)
    · rfl

theorem Raised.joined (h : Raised w w' wl) {a b : Ref .room} :
    Joined w' a b ↔ Joined w a b ∨ wl.Joins a b := by
  unfold Joined
  rw [h.walls]
  constructor
  · rintro ⟨wl', hmem, hj⟩
    rcases List.mem_append.1 hmem with hmem | hmem
    · exact .inl ⟨wl', hmem, hj⟩
    · obtain rfl := List.mem_singleton.1 hmem
      exact .inr hj
  · rintro (⟨wl', hmem, hj⟩ | hj)
    · exact ⟨wl', List.mem_append_left _ hmem, hj⟩
    · exact ⟨wl, List.mem_append_right _ (List.mem_singleton.2 rfl), hj⟩

/-! ## One more room -/

def Works.withRoom (w : Works σ) (r : Room) : Works σ :=
  { w with rooms := { w.rooms with items := w.rooms.items ++ [r] } }

def Founded (w : Works σ) : Prop :=
  ∀ wl ∈ w.walls.items, ∀ a ∈ wl.neighbours, ∃ i : Nat, i < w.rooms.size ∧ a = ⟨(i : Int)⟩

theorem Founded.of_same (h : Founded u) (hr : v.rooms = u.rooms) (hw : v.walls = u.walls) :
    Founded v := by
  unfold Founded
  rw [hr, hw]
  exact h

theorem Founded.not_mem (h : Founded w) (hwl : wl ∈ w.walls.items) :
    (⟨(w.rooms.size : Int)⟩ : Ref .room) ∉ wl.neighbours := by
  intro hmem
  obtain ⟨i, hi, heq⟩ := h wl hwl _ hmem
  have := Ref.natCast_inj.1 heq
  omega

theorem Founded.raise {r : Room} (h : Founded w) (hr : Raised (w.withRoom r) w' wl)
    (hsize : w'.rooms.size = w.rooms.size + 1)
    (hnew : ∀ a ∈ wl.neighbours, ∃ i : Nat, i ≤ w.rooms.size ∧ a = ⟨(i : Int)⟩) : Founded w' := by
  intro wl' hwl' a ha
  rw [hr.walls] at hwl'
  rcases List.mem_append.1 hwl' with hwl' | hwl'
  · obtain ⟨i, hi, rfl⟩ := h wl' hwl' a ha
    exact ⟨i, by omega, rfl⟩
  · obtain rfl := List.mem_singleton.1 hwl'
    obtain ⟨i, hi, rfl⟩ := hnew a ha
    exact ⟨i, by omega, rfl⟩

/-- A room that no wall names may be added. -/
theorem Consistent.withRoom (h : Consistent w) (hf : Founded w) {r : Room}
    (hr : ∀ d, r.walls.get d = []) : Consistent (w.withRoom r) := by
  refine ⟨?_, ?_, h.single⟩
  · intro r' hr' d id hid
    rcases List.mem_append.1 hr' with hr' | hr'
    · exact h.issued r' hr' d id hid
    · obtain rfl := List.mem_singleton.1 hr'
      rw [hr d] at hid
      cases hid
  · intro i r' hr' k wl hk d
    rcases getElem?_append_singleton hr' with ⟨-, hr'⟩ | ⟨rfl, rfl⟩
    · exact h.hung i r' hr' k wl hk d
    · have hno : ¬ wl.Faces ⟨(w.rooms.items.length : Int)⟩ d := fun hface =>
        hf.not_mem (List.mem_of_getElem? hk) hface.mem_neighbours
      rw [hr d, if_neg hno]
      rfl

theorem walls_get_of_mk (bounds : Box) (k : Kind) (d : Dir) :
    ({ bounds, kind := k } : Room).walls.get d = [] := DirMap.get_const _ _

theorem getElem?_withRoom_of_lt {r : Room} {j : Nat} (h : j < w.rooms.size) :
    (w.withRoom r).rooms.items[j]? = w.rooms.items[j]? := List.getElem?_append_left h

theorem getElem?_withRoom_self (w : Works σ) (r : Room) :
    (w.withRoom r).rooms.items[w.rooms.size]? = some r := by
  show (w.rooms.items ++ [r])[w.rooms.items.length]? = some r
  rw [List.getElem?_append_right (Nat.le_refl _), Nat.sub_self]
  rfl

theorem raised_addFront (u : Works σ) (bounds : Box) (room : Rect) (k : Kind) (door : Vec2)
    (facing : Dir) :
    Raised (u.withRoom { bounds, kind := k }) (u.addFront bounds room k door facing)
      (Entrance.front room ⟨bounds.min.z, bounds.max.z⟩ ⟨(u.rooms.size : Int)⟩ door facing) := by
  refine .of_side rfl (fun a h => by cases h) fun j r' hr' => ?_
  rcases getElem?_append_singleton hr' with ⟨hlt, hr'⟩ | ⟨rfl, rfl⟩
  · refine ⟨r', (getElem?_withRoom_of_lt hlt).trans hr', ?_⟩
    have hne : u.rooms.size ≠ j := Nat.ne_of_gt hlt
    simp [Wall.side, Entrance.front, Room.hung, hne]
  · refine ⟨_, getElem?_withRoom_self u _, ?_⟩
    simp [Wall.side, Entrance.front, Room.hung, Works.withRoom, Store.size]

theorem raised_addBeside {u : Works σ} {i : Nat} (hi : i < u.rooms.size) (parent room : Rect)
    (d : Dir) (layers : Span) (k : Kind) (offset : Int) :
    Raised (u.withRoom { bounds := .ofRect room layers.lo layers.hi, kind := k })
      (u.addBeside i parent room d layers k offset)
      (SideRoom.sharedWall parent room d layers ⟨(i : Int)⟩ ⟨(u.rooms.size : Int)⟩ offset) := by
  refine .of_side rfl (fun a h => ?_) fun j r' hr' => ?_
  · obtain rfl := Option.some.inj h
    simp only [SideRoom.sharedWall, ne_eq, Option.some.injEq, Ref.mk.injEq]
    omega
  · rcases Works.getElem?_addBeside hr' with ⟨hlt, r, hr, rfl⟩ | ⟨rfl, rfl⟩
    · refine ⟨r, (getElem?_withRoom_of_lt hlt).trans hr, ?_⟩
      have hne : u.rooms.size ≠ j := Nat.ne_of_gt hlt
      by_cases hij : i = j <;>
        simp [Wall.side, SideRoom.sharedWall, Room.hung, Works.withRoom, hne, hij]
    · refine ⟨_, getElem?_withRoom_self u _, ?_⟩
      simp [Wall.side, SideRoom.sharedWall, Room.hung, Works.withRoom, Nat.ne_of_lt hi]

/-! ## Buildings that grow -/

namespace Growth

/-- In every building that grows, walls and rooms agree, and walls name rooms of the building. -/
theorem consistent_of_built {es : List Event} (h : Built src plot es w) :
    Consistent w ∧ Founded w := by
  induction h with
  | @front u v door bounds room k facing hr hw hf hi =>
    have hempty : Consistent u ∧ Founded u := by
      refine ⟨⟨?_, ?_, ?_⟩, ?_⟩ <;> simp [Partition.Issued, Founded, hr, hw, Store.empty]
    have hraised := raised_addFront u bounds room k door.plan facing
    have hfounded : Founded (u.addFront bounds room k door.plan facing) := by
      refine hempty.2.raise hraised (List.length_append.trans rfl) fun a ha => ?_
      obtain rfl := List.mem_singleton.1 ha
      exact ⟨u.rooms.size, Nat.le_refl _, rfl⟩
    refine ⟨Consistent.of_same ?_ hi.rooms hi.walls, hfounded.of_same hi.rooms hi.walls⟩
    refine (hempty.1.withRoom hempty.2 (walls_get_of_mk bounds k)).raise hraised ?_
    rintro a b (⟨ha, -⟩ | ⟨hb, -⟩) -
    · cases ha
    · cases hb
  | idle _ _ hr hw ih => exact ⟨ih.1.of_same hr hw, ih.2.of_same hr hw⟩
  | @beside es fs u v i d parent fitted room layers k offset _ _ hf _ hr hw ih =>
    have hi : i < u.rooms.size := (List.getElem?_eq_some_iff.1 hf.elder).1
    have hraised := raised_addBeside hi parent.footprint room d layers k offset
    have hfounded : Founded (u.addBeside i parent.footprint room d layers k offset) := by
      refine ih.2.raise hraised ?_ fun a ha => ?_
      · simp [Works.addBeside, Store.size]
      · simp only [Wall.neighbours, SideRoom.sharedWall, Option.toList_some, List.cons_append,
          List.nil_append, List.mem_cons, List.not_mem_nil, or_false] at ha
        rcases ha with rfl | rfl
        · exact ⟨i, Nat.le_of_lt hi, rfl⟩
        · exact ⟨u.rooms.size, Nat.le_refl _, rfl⟩
    refine ⟨Consistent.of_same ?_ hr hw, hfounded.of_same hr hw⟩
    refine (ih.1.withRoom ih.2 (walls_get_of_mk _ k)).raise hraised ?_
    rintro a b hnew ⟨wl, hwl, hold⟩
    have hname := ih.2.not_mem hwl
    obtain ⟨ha, hb⟩ := hold.mem_neighbours
    rcases hnew with ⟨-, hahead⟩ | ⟨-, hahead⟩
    · obtain rfl := Option.some.inj hahead
      exact hname hb
    · obtain rfl := Option.some.inj hahead
      exact hname ha
  | @under es u v i parent fitted room layers k l _ hf hr hw ih =>
    refine ⟨Consistent.of_same (ih.1.withRoom ih.2 (walls_get_of_mk _ k)) hr hw, ?_⟩
    refine Founded.of_same (u := u.addUnder room layers k) ?_ hr hw
    intro wl hwl a ha
    obtain ⟨j, hj, rfl⟩ := ih.2 wl hwl a ha
    exact ⟨j, by simp only [Works.addUnder, Store.size, List.length_append] at hj ⊢; omega, rfl⟩

end Growth

end TavernLayout
