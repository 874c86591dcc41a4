import TavernLayout.Layout.Partition
import TavernLayout.Proofs.Works
import TavernLayout.Random.Script

/-!
# Closed rooms

After the partition every position along every side of every room lies strictly between the posts
of a wall of that side. A position is either covered by a wall that the room had, or by the wall
on a contact with another room, or it is still bare in the end and gets an outer wall.

* `mem_cut`: a cut takes nothing from a side but what is cut;
* `Builds`: what every part of the partition does to a building;
* `ends_closeRoom`: one room is closed, and stays closed;
* `rooms_enclosed`: every room is closed, and every new door fits into its wall.
-/

namespace TavernLayout

/-! ## Spans -/

namespace Span

variable {c s : Span} {ss : List Span} {n : Int}

/-- Nothing but the cut is lost, whichever way its ends lie. -/
theorem mem_minus (hn : n ∈ s) (hc : ¬ n ∈ c) : ∃ t ∈ s.minus c, n ∈ t := by
  rw [mem_iff] at hn hc
  unfold minus
  split
  · exact ⟨s, List.mem_singleton.2 rfl, hn⟩
  · by_cases h : n < c.lo
    · refine ⟨⟨s.lo, c.lo - 1⟩, List.mem_append_left _ ?_, ?_⟩
      · rw [if_pos (by omega)]
        exact List.mem_singleton.2 rfl
      · show s.lo ≤ n ∧ n ≤ c.lo - 1
        omega
    · refine ⟨⟨c.hi + 1, s.hi⟩, List.mem_append_right _ ?_, ?_⟩
      · rw [if_pos (by omega)]
        exact List.mem_singleton.2 rfl
      · show c.hi + 1 ≤ n ∧ n ≤ s.hi
        omega

theorem mem_cut (h : ∃ s ∈ ss, n ∈ s) : n ∈ c ∨ ∃ t ∈ cut ss c, n ∈ t := by
  obtain ⟨s, hs, hn⟩ := h
  by_cases hc : n ∈ c
  · exact .inl hc
  · obtain ⟨t, ht, hnt⟩ := mem_minus hn hc
    exact .inr ⟨t, List.mem_flatMap.2 ⟨s, hs, ht⟩, hnt⟩

end Span

/-! ## Walls -/

namespace Partition

theorem sign_orthogonal (d : Dir) : d.orthogonal.along d.orthogonal.toVec2 = 1 := by
  cases d <;> rfl

theorem along_orthogonal_toVec2 (d : Dir) : d.orthogonal.along d.toVec2 = 0 := by
  cases d <;> rfl

theorem along_orthogonal_diag (d : Dir) (c : Int) : d.orthogonal.along (Vec2.diag c) = c := by
  cases d <;> rfl

theorem extent_le {c : Rect} (h : c.Valid) (d : Dir) : (extent c d).lo ≤ (extent c d).hi := by
  obtain ⟨hx, hy⟩ := h
  cases d
  · exact hy
  · exact hx
  · exact hy
  · exact hx

/-- The wall on a contact covers the contact. -/
theorem covered_sharedWall {c : Rect} (h : c.Valid) (i j : Ref .room) (a b : Box) (d : Dir)
    (door : Option Span) : covered d (sharedWall i j a b c d door) = extent c d := by
  have hle := extent_le h d
  unfold extent at *
  unfold covered sharedWall Span.between
  simp only [Dir.along_sub, Dir.along_add, sign_orthogonal, Span.mk.injEq] at *
  omega

/-- An outer wall covers the positions it was built for. -/
theorem mem_covered_outerWall {n : Int} {s : Span} (h : n ∈ s) (id : Ref .room) (room : Box)
    (d : Dir) : n ∈ covered d (outerWall id room d s) := by
  rw [Span.mem_iff] at *
  unfold covered outerWall Span.between Dir.edgePoint
  simp only [Dir.along_add, Dir.along_orthogonal_onEdge, along_orthogonal_toVec2,
    along_orthogonal_diag]
  omega

/-- Posts are as far apart as the longer coordinate of their distance says. -/
theorem le_length (w : Wall) (d : Dir) :
    d.along (w.stop - w.start) ≤ w.length ∧ -d.along (w.stop - w.start) ≤ w.length := by
  unfold Wall.length Wall.direction Dir.ofVec2
  generalize w.stop - w.start = v
  split
  · split <;> cases d <;> simp only [Dir.along, Dir.isY, Bool.false_eq_true, if_false, if_true] <;>
      omega
  · split <;> cases d <;> simp only [Dir.along, Dir.isY, Bool.false_eq_true, if_false, if_true] <;>
      omega

/-- The door, if there is one, lies between the posts of the wall. -/
def DoorFits (w : Wall) : Prop :=
  ∀ door, w.door = some door → 0 < door.lo ∧ door.lo < door.hi ∧ door.hi < w.length

theorem doorFits_sharedWall {c : Rect} (i j : Ref .room) (a b : Box) (d : Dir)
    {door : Option Span} (h : ∀ s, door = some s →
      0 < s.lo ∧ s.lo < s.hi ∧ s.hi < (extent c d).hi - (extent c d).lo) :
    DoorFits (sharedWall i j a b c d door) := by
  intro s hs
  obtain ⟨h1, h2, h3⟩ := h s hs
  refine ⟨h1, h2, ?_⟩
  have hlen := (le_length (sharedWall i j a b c d door) d.orthogonal).1
  simp only [sharedWall, Dir.along_sub, Dir.along_add, sign_orthogonal] at hlen
  unfold extent at h3
  simp only at h3
  unfold sharedWall
  omega

theorem ends_drawDoor {σ : Type} {src : Source σ} (hs : src.Lawful) (P : Fault → Prop) (a b : Box)
    (along : Span) (st : Stream σ) :
    Ends (fun door _ => ∀ s, door = some s →
      0 < s.lo ∧ s.lo < s.hi ∧ s.hi < along.hi - along.lo) P (drawDoor src a b along) st := by
  unfold drawDoor
  split
  · next hwants =>
    have hlong := (of_decide_eq_true hwants).1
    have hchance : Ends (fun _ _ => True) P (src.chance 0.8) st :=
      ⟨fun _ _ _ => trivial, Source.faultsIn_chance _⟩
    refine hchance.bind fun wanted st' _ => ?_
    split
    · have hbetween : Ends (fun n _ => 1 ≤ n ∧ n ≤ along.hi - along.lo - 2) P
          (src.between 1 (along.hi - along.lo - 2)) st' :=
        ⟨fun n t hn => Source.mem_of_between hs hn, Source.faultsIn_between (by omega)⟩
      refine hbetween.bind fun n st'' hn => .pure ?_
      intro s heq
      cases heq
      show 0 < n ∧ n < n + 1 ∧ n + 1 < along.hi - along.lo
      omega
    · exact .pure fun s heq => by cases heq
  · exact .pure fun s heq => by cases heq

/-! ## Buildings -/

variable {σ : Type} {src : Source σ} {u v w : Works σ} {i : Nat} {d : Dir}

/-- The walls of every room were issued by the wall store. -/
def Issued (w : Works σ) : Prop :=
  ∀ r ∈ w.rooms.items, ∀ d, ∀ id ∈ r.walls.get d, ∃ k : Nat, id = ⟨(k : Int)⟩ ∧ k < w.walls.size

/-- The position lies strictly between the posts of a wall on that side of room `i`. -/
def Walled (w : Works σ) (i : Nat) (d : Dir) (n : Int) : Prop :=
  ∃ r, w.rooms.items[i]? = some r ∧ ∃ k : Nat, ⟨(k : Int)⟩ ∈ r.walls.get d ∧
    ∃ wl, w.walls.items[k]? = some wl ∧ n ∈ covered d wl

/-- Rooms keep their boxes and their walls, walls stay where they are, and new walls hold their
doors. -/
structure Builds (w w' : Works σ) : Prop where
  boxes : w'.rooms.items.map Room.bounds = w.rooms.items.map Room.bounds
  hung : ∀ (i : Nat) r, w.rooms.items[i]? = some r → ∃ r', w'.rooms.items[i]? = some r' ∧
    ∀ d, ∀ id ∈ r.walls.get d, id ∈ r'.walls.get d
  walls : ∃ new, w'.walls.items = w.walls.items ++ new ∧ ∀ wl ∈ new, DoorFits wl
  frozen : w'.walls.frozen = w.walls.frozen
  issued : Issued w → Issued w'

namespace Builds

theorem refl (w : Works σ) : Builds w w :=
  ⟨rfl, fun _ r h => ⟨r, h, fun _ _ hid => hid⟩, ⟨[], by rw [List.append_nil], by simp⟩, rfl, id⟩

theorem trans (h1 : Builds u v) (h2 : Builds v w) : Builds u w := by
  obtain ⟨new1, he1, hd1⟩ := h1.walls
  obtain ⟨new2, he2, hd2⟩ := h2.walls
  refine ⟨h2.boxes.trans h1.boxes, ?_, ⟨new1 ++ new2, ?_, ?_⟩, h2.frozen.trans h1.frozen,
    fun h => h2.issued (h1.issued h)⟩
  · intro i r hr
    obtain ⟨r1, hr1, hw1⟩ := h1.hung i r hr
    obtain ⟨r2, hr2, hw2⟩ := h2.hung i r1 hr1
    exact ⟨r2, hr2, fun d id hid => hw2 d id (hw1 d id hid)⟩
  · rw [he2, he1, List.append_assoc]
  · intro wl hwl
    rcases List.mem_append.1 hwl with hwl | hwl
    · exact hd1 wl hwl
    · exact hd2 wl hwl

theorem of_idle (h : u.Idle v) : Builds u v := by
  refine ⟨by rw [h.rooms], ?_, ⟨[], by rw [h.walls, List.append_nil], by simp⟩, by rw [h.walls], ?_⟩
  · intro i r hr
    exact ⟨r, by rw [h.rooms]; exact hr, fun _ _ hid => hid⟩
  · intro hu r hr
    rw [h.rooms] at hr
    rw [h.walls]
    exact hu r hr

theorem size (h : Builds u v) : v.rooms.size = u.rooms.size := by
  have := congrArg List.length h.boxes
  rw [List.length_map, List.length_map] at this
  exact this

/-- The two buildings fail alike on a frozen wall store. -/
theorem faults (h : Builds u v) {P : Fault → Prop} (hP : u.walls.frozen = true → P .storeFrozen) :
    v.walls.frozen = true → P .storeFrozen :=
  fun hv => hP (h.frozen.symm.trans hv)

/-- A room that is found later was there before, in the same place. -/
theorem earlier (h : Builds u v) {r : Room} (hr : v.rooms.items[i]? = some r) :
    ∃ r0, u.rooms.items[i]? = some r0 ∧ r0.footprint = r.footprint := by
  have hbox := congrArg (·[i]?) h.boxes
  simp only [List.getElem?_map, hr, Option.map_some] at hbox
  obtain ⟨r0, hr0, hsame⟩ := Option.map_eq_some_iff.1 hbox.symm
  exact ⟨r0, hr0, congrArg Box.footprint hsame⟩

/-- What is walled stays walled. -/
theorem walled (h : Builds u v) {n : Int} (hw : Walled u i d n) : Walled v i d n := by
  obtain ⟨r, hr, k, hk, wl, hwl, hn⟩ := hw
  obtain ⟨r', hr', hkeep⟩ := h.hung i r hr
  obtain ⟨new, hnew, -⟩ := h.walls
  refine ⟨r', hr', k, hkeep d _ hk, wl, ?_, hn⟩
  rw [hnew, List.getElem?_append_left (List.getElem?_eq_some_iff.1 hwl).1]
  exact hwl

end Builds

/-! ## One wall -/

def withWall (w : Works σ) (wl : Wall) : Works σ :=
  { w with walls := { w.walls with items := w.walls.items ++ [wl] } }

def hang (w : Works σ) (i : Nat) (d : Dir) (id : Ref .wall) : Works σ :=
  { w with rooms := { w.rooms with items := w.rooms.items.modify i (·.addWall d id) } }

theorem mem_addWall {r : Room} {id id' : Ref .wall} {e : Dir} :
    id' ∈ (r.addWall d id).walls.get e ↔ id' ∈ r.walls.get e ∨ (e = d ∧ id' = id) := by
  unfold Room.addWall DirMap.modify
  by_cases h : e = d
  · subst h
    rw [DirMap.get_set_self, List.mem_append, List.mem_singleton]
    simp
  · rw [DirMap.get_set_of_ne _ h]
    simp [h]

theorem getElem?_hang (w : Works σ) (i j : Nat) (d : Dir) (id : Ref .wall) :
    (hang w i d id).rooms.items[j]? =
      (w.rooms.items[j]?).map fun r => if i = j then r.addWall d id else r := by
  rw [hang, List.getElem?_modify]
  rfl

theorem builds_withWall (w : Works σ) {wl : Wall} (h : DoorFits wl) : Builds w (withWall w wl) := by
  refine ⟨rfl, fun _ r h => ⟨r, h, fun _ _ hid => hid⟩, ⟨[wl], rfl, ?_⟩, rfl, ?_⟩
  · intro wl' hwl'
    obtain rfl := List.mem_singleton.1 hwl'
    exact h
  · intro hw r hr d id hid
    obtain ⟨k, hk, hlt⟩ := hw r hr d id hid
    refine ⟨k, hk, ?_⟩
    simp only [withWall, Store.size, List.length_append] at hlt ⊢
    omega

theorem builds_hang (w : Works σ) (i : Nat) (d : Dir) {k : Nat} (hk : k < w.walls.size) :
    Builds w (hang w i d ⟨(k : Int)⟩) := by
  refine ⟨?_, ?_, ⟨[], (List.append_nil _).symm, by simp⟩, rfl, ?_⟩
  · exact map_modify_of_eq (g := Room.bounds) (f := (·.addWall d ⟨(k : Int)⟩)) (fun _ => rfl) _ _
  · intro j r hr
    refine ⟨_, by rw [getElem?_hang, hr]; rfl, fun e id hid => ?_⟩
    split
    · exact mem_addWall.2 (.inl hid)
    · exact hid
  · intro hw r hr e id hid
    obtain ⟨j, hj⟩ := List.mem_iff_getElem?.1 hr
    rw [getElem?_hang] at hj
    obtain ⟨r', hr', rfl⟩ := Option.map_eq_some_iff.1 hj
    have hmem := List.mem_of_getElem? hr'
    split at hid
    · rcases mem_addWall.1 hid with hid | ⟨-, rfl⟩
      · exact hw r' hmem e id hid
      · exact ⟨k, rfl, hk⟩
    · exact hw r' hmem e id hid

/-- A wall that is built and hung on a side covers what it covers. -/
theorem walled_hang {wl : Wall} {n : Int} (hi : i < w.rooms.size) (hn : n ∈ covered d wl) :
    Walled (hang (withWall w wl) i d ⟨(w.walls.size : Int)⟩) i d n := by
  obtain ⟨r, hr⟩ : ∃ r, w.rooms.items[i]? = some r := ⟨_, List.getElem?_eq_getElem hi⟩
  refine ⟨r.addWall d ⟨(w.walls.size : Int)⟩, ?_, w.walls.size, mem_addWall.2 (.inr ⟨rfl, rfl⟩),
    wl, ?_, hn⟩
  · rw [getElem?_hang]
    show (w.rooms.items[i]?).map _ = _
    rw [hr, Option.map_some, if_pos rfl]
  · show (w.walls.items ++ [wl])[w.walls.items.length]? = some wl
    rw [List.getElem?_append_right (Nat.le_refl _), Nat.sub_self]
    rfl

variable {P : Fault → Prop}

theorem ends_addWall (hP : w.walls.frozen = true → P .storeFrozen) (wl : Wall) :
    Ends (fun id t => id = ⟨(w.walls.size : Int)⟩ ∧ t = withWall w wl) P (Build.addWall wl) w := by
  constructor
  · intro id t h
    obtain ⟨-, hid, rfl⟩ := Build.addWall_eq_ok_iff.1 h
    exact ⟨hid, rfl⟩
  · by_cases hf : w.walls.frozen = true
    · refine FaultsIn.get.bind fun v u hv => ?_
      obtain ⟨rfl, rfl⟩ := get_eq_ok_iff.1 hv
      refine (FaultsIn.lift fun e he => ?_).bind fun p t h => ?_
      · rw [Store.insert_frozen hf] at he
        cases he
        exact hP hf
      · obtain ⟨hp, -⟩ := lift_eq_ok_iff.1 h
        rw [Store.insert_frozen hf] at hp
        cases hp
    · exact Build.faultsIn_addWall (by simpa using hf)

theorem ends_changeRoom (hi : i < w.rooms.size) (d : Dir) (id : Ref .wall) :
    Ends (fun _ t => t = hang w i d id) P (Build.changeRoom ⟨(i : Int)⟩ (·.addWall d id)) w := by
  refine ⟨fun u t h => ?_, Build.faultsIn_changeRoom hi⟩
  exact ((Build.changeRoom_eq_ok_iff hi).1 h).symm

/-- A wall is built and hung on a side, and the program goes on. -/
theorem ends_attach {α : Type} {Q : α → Works σ → Prop} {f : Ref .wall → Build σ α} {wl : Wall}
    (hP : w.walls.frozen = true → P .storeFrozen) (hi : i < w.rooms.size) (hd : DoorFits wl)
    (h : ∀ t, Builds w t → w.walls.size < t.walls.size →
      (∀ n, n ∈ covered d wl → Walled t i d n) → Ends Q P (f ⟨(w.walls.size : Int)⟩) t) :
    Ends Q P (do
      let id ← Build.addWall wl
      Build.changeRoom ⟨(i : Int)⟩ (·.addWall d id)
      f id) w := by
  refine (ends_addWall hP wl).bind ?_
  rintro id t ⟨rfl, rfl⟩
  have hsize : w.walls.size < (withWall w wl).walls.size := by
    simp [withWall, Store.size]
  refine (ends_changeRoom (w := withWall w wl) hi d _).bind ?_
  rintro u t rfl
  exact h _ ((builds_withWall w hd).trans (builds_hang _ i d hsize)) hsize
    fun n hn => walled_hang hi hn

/-! ## One room -/

/-- Every position is walled or still bare. -/
def Accounted (w : Works σ) (i : Nat) (bare : Sides) (d : Dir) (n : Int) : Prop :=
  Walled w i d n ∨ ∃ s ∈ bare.get d, n ∈ s

theorem Accounted.cover {bare : Sides} {c : Span} {e : Dir} {n : Int}
    (h : Accounted w i bare e n) (hc : n ∈ c → e = d → Walled w i d n) :
    Accounted w i (bare.cover d c) e n := by
  rcases h with h | h
  · exact .inl h
  · unfold Accounted Sides.cover DirMap.modify
    by_cases hed : e = d
    · subst hed
      rw [DirMap.get_set_self]
      rcases Span.mem_cut h with hn | ht
      · exact .inl (hc hn rfl)
      · exact .inr ht
    · rw [DirMap.get_set_of_ne _ hed]
      exact .inr h

theorem ends_coverSide {r : Room} (hw : Issued w) (hr : w.rooms.items[i]? = some r)
    (ids : List (Ref .wall)) (hids : ∀ id ∈ ids, id ∈ r.walls.get d) (bare : Sides)
    (joined : List (Ref .room)) :
    Ends (fun p t => w = t ∧ ∀ e n, Accounted w i bare e n → Accounted w i p.1 e n) P
      (coverSide d ids bare joined) w := by
  induction ids generalizing bare joined with
  | nil => exact .pure ⟨rfl, fun _ _ h => h⟩
  | cons id ids ih =>
    obtain ⟨k, rfl, hk⟩ := hw r (List.mem_of_getElem? hr) d id (hids id List.mem_cons_self)
    obtain ⟨wl, hwl⟩ : ∃ wl, w.walls.items[k]? = some wl := ⟨_, List.getElem?_eq_getElem hk⟩
    unfold coverSide
    refine (Build.ends_wall hwl).bind ?_
    rintro wl t ⟨rfl, rfl⟩
    refine (ih (fun id hid => hids id (List.mem_cons_of_mem _ hid)) _ _).mono ?_
    rintro p t ⟨rfl, hp⟩
    refine ⟨rfl, fun e n h => hp e n (h.cover fun hn _ => ?_)⟩
    exact ⟨r, hr, k, hids _ List.mem_cons_self, wl, hwl, hn⟩

theorem ends_coverSides {r : Room} (hw : Issued w) (hr : w.rooms.items[i]? = some r)
    (ds : List Dir) (bare : Sides) (joined : List (Ref .room)) :
    Ends (fun p t => w = t ∧ ∀ e n, Accounted w i bare e n → Accounted w i p.1 e n) P
      (coverSides r ds bare joined) w := by
  induction ds generalizing bare joined with
  | nil => exact .pure ⟨rfl, fun _ _ h => h⟩
  | cons d ds ih =>
    unfold coverSides
    refine (ends_coverSide hw hr _ (fun _ hid => hid) bare joined).bind ?_
    rintro ⟨bare', joined'⟩ t ⟨rfl, hcover⟩
    refine (ih bare' joined').mono ?_
    rintro p t ⟨rfl, hp⟩
    exact ⟨rfl, fun e n h => hp e n (hcover e n h)⟩

theorem Builds.accounted (h : Builds u v) {bare : Sides} {e : Dir} {n : Int}
    (ha : Accounted u i bare e n) : Accounted v i bare e n := by
  rcases ha with hw | hb
  · exact .inl (h.walled hw)
  · exact .inr hb

theorem ends_joinRoom {j : Nat} (hs : src.Lawful) (hP : w.walls.frozen = true → P .storeFrozen)
    (hi : i < w.rooms.size) (hj : j < w.rooms.size) (room : Box) (bare : Sides) :
    Ends (fun bare' t => Builds w t ∧ ∀ e n, Accounted w i bare e n → Accounted t i bare' e n) P
      (joinRoom src ⟨(i : Int)⟩ room ⟨(j : Int)⟩ bare) w := by
  obtain ⟨other, hother⟩ : ∃ r, w.rooms.items[j]? = some r := ⟨_, List.getElem?_eq_getElem hj⟩
  unfold joinRoom
  refine (Build.ends_room hother).bind ?_
  rintro other t ⟨rfl, rfl⟩
  have hsame : ∀ e n, Accounted w i bare e n → Accounted w i bare e n := fun _ _ h => h
  dsimp only
  split
  · exact .pure ⟨.refl _, hsame⟩
  · split
    · exact .pure ⟨.refl _, hsame⟩
    · next hvalid =>
      have hc := Decidable.not_not.1 hvalid
      generalize toward room.footprint other.bounds.footprint = d at hc ⊢
      generalize contact room.footprint other.bounds.footprint d = c at hc ⊢
      refine (Build.ends_draw (ends_drawDoor hs P _ _ _ _)).bind ?_
      rintro door t1 ⟨hidle, -, hdoor⟩
      have hb1 := Builds.of_idle hidle
      have hi1 : i < t1.rooms.size := by
        rw [hb1.size]
        exact hi
      have hj1 : j < t1.rooms.size := by
        rw [hb1.size]
        exact hj
      refine ends_attach (hb1.faults hP) hi1
        (doorFits_sharedWall _ _ _ _ _ hdoor) ?_
      intro t2 hb2 hsize hwalled
      refine (ends_changeRoom (by rw [hb2.size]; exact hj1) _ _).bind ?_
      rintro u t3 rfl
      have hb3 := builds_hang t2 j d.opposite hsize
      refine .pure ⟨(hb1.trans hb2).trans hb3, fun e n ha => hb3.accounted ?_⟩
      refine ((hb1.trans hb2).accounted ha).cover fun hn _ => hwalled n ?_
      rw [covered_sharedWall hc]
      exact hn

theorem ends_joinRooms (hs : src.Lawful) (hP : w.walls.frozen = true → P .storeFrozen)
    (hi : i < w.rooms.size) (room : Box) (joined others : List (Ref .room))
    (ho : ∀ id ∈ others, ∃ j : Nat, id = ⟨(j : Int)⟩ ∧ j < w.rooms.size) (bare : Sides) :
    Ends (fun bare' t => Builds w t ∧ ∀ e n, Accounted w i bare e n → Accounted t i bare' e n) P
      (joinRooms src ⟨(i : Int)⟩ room joined others bare) w := by
  induction others generalizing w bare with
  | nil => exact .pure ⟨.refl _, fun _ _ h => h⟩
  | cons other others ih =>
    obtain ⟨j, rfl, hj⟩ := ho _ List.mem_cons_self
    have hrest : ∀ id ∈ others, ∃ j : Nat, id = ⟨(j : Int)⟩ ∧ j < w.rooms.size :=
      fun id hid => ho id (List.mem_cons_of_mem _ hid)
    unfold joinRooms
    split
    · exact ih hP hi hrest bare
    · refine (ends_joinRoom hs hP hi hj room bare).bind ?_
      rintro bare' t ⟨hb, hacc⟩
      rw [← hb.size] at hi hrest
      refine (ih (hb.faults hP) hi hrest bare').mono ?_
      rintro bare'' t' ⟨hb', hacc'⟩
      exact ⟨hb.trans hb', fun e n h => hacc' e n (hacc e n h)⟩

theorem doorFits_outerWall (id : Ref .room) (room : Box) (d : Dir) (s : Span) :
    DoorFits (outerWall id room d s) := by
  intro door hdoor
  cases hdoor

theorem ends_closeSide (hP : w.walls.frozen = true → P .storeFrozen) (hi : i < w.rooms.size)
    (room : Box) (d : Dir) (ss : List Span) :
    Ends (fun _ t => Builds w t ∧ ∀ n, (∃ s ∈ ss, n ∈ s) → Walled t i d n) P
      (closeSide ⟨(i : Int)⟩ room d ss) w := by
  induction ss generalizing w with
  | nil => exact .pure ⟨.refl _, fun n h => absurd h (by simp)⟩
  | cons s ss ih =>
    unfold closeSide
    refine ends_attach hP hi (doorFits_outerWall _ _ _ _) ?_
    intro t hb _ hwalled
    rw [← hb.size] at hi
    refine (ih (hb.faults hP) hi).mono ?_
    rintro u t' ⟨hb', hss⟩
    refine ⟨hb.trans hb', ?_⟩
    rintro n ⟨s', hs', hn⟩
    rcases List.mem_cons.1 hs' with rfl | hs'
    · exact hb'.walled (hwalled n (mem_covered_outerWall hn _ _ _))
    · exact hss n ⟨s', hs', hn⟩

theorem ends_closeSides (hP : w.walls.frozen = true → P .storeFrozen) (hi : i < w.rooms.size)
    (room : Box) (bare : Sides) (ds : List Dir) :
    Ends (fun _ t => Builds w t ∧ ∀ d ∈ ds, ∀ n, (∃ s ∈ bare.get d, n ∈ s) → Walled t i d n) P
      (closeSides ⟨(i : Int)⟩ room bare ds) w := by
  induction ds generalizing w with
  | nil => exact .pure ⟨.refl _, fun d h => absurd h (by simp)⟩
  | cons d ds ih =>
    unfold closeSides
    refine (ends_closeSide hP hi room d (bare.get d)).bind ?_
    rintro u t ⟨hb, hd⟩
    rw [← hb.size] at hi
    refine (ih (hb.faults hP) hi).mono ?_
    rintro u t' ⟨hb', hds⟩
    refine ⟨hb.trans hb', ?_⟩
    intro e he n hn
    rcases List.mem_cons.1 he with rfl | he
    · exact hb'.walled (hd n hn)
    · exact hds e he n hn

def OnSide (room : Rect) (d : Dir) (n : Int) : Prop :=
  d.orthogonal.along room.min ≤ n ∧ n ≤ d.orthogonal.along room.max

/-- One room is closed. -/
theorem ends_closeRoom {r : Room} (hs : src.Lawful) (hP : w.walls.frozen = true → P .storeFrozen)
    (hw : Issued w) (hr : w.rooms.items[i]? = some r) :
    Ends (fun _ t => Builds w t ∧ ∀ d n, OnSide r.footprint d n → Walled t i d n) P
      (closeRoom src ⟨(i : Int)⟩) w := by
  have hi : i < w.rooms.size := (List.getElem?_eq_some_iff.1 hr).1
  unfold closeRoom
  refine (Build.ends_room hr).bind ?_
  rintro r t ⟨rfl, rfl⟩
  refine (ends_coverSides hw hr _ _ _).bind ?_
  rintro ⟨bare, joined⟩ t ⟨rfl, hcover⟩
  refine .bind_get ?_
  refine (ends_joinRooms hs hP hi _ _ _ (fun id hid => Store.mem_refs hid) _).bind ?_
  rintro bare' t ⟨hb, hjoin⟩
  refine (ends_closeSides (hb.faults hP)
    (by rw [hb.size]; exact hi) _ _ _).mono ?_
  rintro u t' ⟨hb', hclose⟩
  refine ⟨hb.trans hb', fun d n hn => ?_⟩
  have hstart : Accounted w i (sides r.footprint) d n :=
    .inr ⟨_, by rw [sides, DirMap.get_ofFn]; exact List.mem_singleton.2 rfl, hn⟩
  rcases hjoin d n (hcover d n hstart) with h | h
  · exact hb'.walled h
  · exact hclose d (Dir.mem_all d) n h

/-- Rooms are closed one after the other and stay closed. -/
theorem ends_closeRooms (hs : src.Lawful) (hP : w.walls.frozen = true → P .storeFrozen)
    (hw : Issued w) (ids : List (Ref .room))
    (hids : ∀ id ∈ ids, ∃ j : Nat, id = ⟨(j : Int)⟩ ∧ j < w.rooms.size) :
    Ends (fun _ t => Builds w t ∧ ∀ (i : Nat) r, ⟨(i : Int)⟩ ∈ ids → t.rooms.items[i]? = some r →
      ∀ d n, OnSide r.footprint d n → Walled t i d n) P (closeRooms src ids) w := by
  induction ids generalizing w with
  | nil => exact .pure ⟨.refl _, fun i r h => absurd h (by simp)⟩
  | cons id ids ih =>
    obtain ⟨j, rfl, hj⟩ := hids _ List.mem_cons_self
    obtain ⟨r, hr⟩ : ∃ r, w.rooms.items[j]? = some r := ⟨_, List.getElem?_eq_getElem hj⟩
    unfold closeRooms
    refine (ends_closeRoom hs hP hw hr).bind ?_
    rintro u t ⟨hb, hclosed⟩
    have hrest : ∀ id ∈ ids, ∃ j : Nat, id = ⟨(j : Int)⟩ ∧ j < t.rooms.size := by
      rw [hb.size]
      exact fun id hid => hids id (List.mem_cons_of_mem _ hid)
    refine (ih (hb.faults hP) (hb.issued hw) hrest).mono ?_
    rintro u t' ⟨hb', hall⟩
    refine ⟨hb.trans hb', ?_⟩
    intro i r' hi hr' d n hn
    rcases List.mem_cons.1 hi with heq | hi
    · obtain rfl : i = j := by
        have := congrArg Ref.index heq
        exact Int.ofNat_inj.1 this
      obtain ⟨r0, hr0, hsame⟩ := (hb.trans hb').earlier hr'
      obtain rfl : r = r0 := Option.some.inj (hr.symm.trans hr0)
      rw [← hsame] at hn
      exact hb'.walled (hclosed d n hn)
    · exact hall i r' hi hr' d n hn

/-! ## All rooms -/

/-- The pass fails on a frozen wall store only, and otherwise closes every room. -/
theorem ends_partitionRooms (hs : src.Lawful) (hw : Issued w) :
    Ends (fun _ t => Builds w t ∧ ∀ (i : Nat) r, t.rooms.items[i]? = some r →
      ∀ d n, OnSide r.footprint d n → Walled t i d n)
      (fun e => e = .storeFrozen ∧ w.walls.frozen = true) (partitionRooms src) w := by
  unfold partitionRooms
  refine .bind_get (.bind_get ?_)
  refine (ends_closeRooms hs (fun hf => ⟨rfl, hf⟩) hw _ fun id hid => Store.mem_refs hid).bind ?_
  rintro u t ⟨hb, hclosed⟩
  refine .bind_get ⟨fun u t' h => ?_, Build.faultsIn_note _⟩
  have hnote := Builds.of_idle (Build.idle_of_note h)
  refine ⟨hb.trans hnote, fun i r hr d n hn => ?_⟩
  have hi : i < w.rooms.size := by
    rw [← (hb.trans hnote).size]
    exact (List.getElem?_eq_some_iff.1 hr).1
  obtain ⟨r0, hr0, hsame⟩ := hnote.earlier hr
  rw [← hsame] at hn
  exact hnote.walled (hclosed i r0 (List.mem_map.2 ⟨i, List.mem_range.2 hi, rfl⟩) hr0 d n hn)

/-- The partition encloses every side of every room: each position along it lies strictly between
the posts of a wall of that side. Every new wall holds its door between its posts. Rooms keep their
boxes, walls that were there stay, and nothing fails unless the wall store is frozen. -/
theorem rooms_enclosed (hs : src.Lawful) (hw : ∀ r ∈ w.rooms.items, ∀ d, ∀ id ∈ r.walls.get d,
    0 ≤ id.index ∧ id.index < w.walls.size) :
    (w.walls.frozen = false → ∃ w', partitionRooms src w = .ok () w') ∧
    ∀ w', partitionRooms src w = .ok () w' →
      w'.rooms.items.map Room.bounds = w.rooms.items.map Room.bounds ∧
      w'.walls.items.take w.walls.size = w.walls.items ∧
      (∀ r ∈ w'.rooms.items, ∀ d n, d.orthogonal.along r.footprint.min ≤ n →
        n ≤ d.orthogonal.along r.footprint.max → ∃ id ∈ r.walls.get d, ∃ wl,
          w'.walls.lookup id = .ok wl ∧
          min (d.orthogonal.along wl.start) (d.orthogonal.along wl.stop) < n ∧
          n < max (d.orthogonal.along wl.start) (d.orthogonal.along wl.stop)) ∧
      ∀ wl ∈ w'.walls.items.drop w.walls.size, ∀ door, wl.door = some door →
        0 < door.lo ∧ door.lo < door.hi ∧ door.hi < wl.length := by
  have hissued : Issued w := by
    intro r hr d id hid
    obtain ⟨h0, hlt⟩ := hw r hr d id hid
    refine ⟨id.index.toNat, ?_, by omega⟩
    ext
    exact (Int.toNat_of_nonneg h0).symm
  obtain ⟨hok, hfault⟩ := ends_partitionRooms hs hissued
  constructor
  · intro hopen
    cases hrun : partitionRooms src w with
    | ok u w' => exact ⟨w', rfl⟩
    | error e t =>
      have hfrozen := (hfault e t hrun).2
      rw [hopen] at hfrozen
      cases hfrozen
  · intro w' hrun
    obtain ⟨hb, hclosed⟩ := hok () w' hrun
    obtain ⟨new, hnew, hdoors⟩ := hb.walls
    refine ⟨hb.boxes, ?_, ?_, ?_⟩
    · rw [hnew, Store.size, List.take_left' rfl]
    · intro r hr d n hlo hhi
      obtain ⟨i, hi⟩ := List.mem_iff_getElem?.1 hr
      obtain ⟨r', hr', k, hk, wl, hwl, hn⟩ := hclosed i r hi d n ⟨hlo, hhi⟩
      obtain rfl : r = r' := Option.some.inj (hi.symm.trans hr')
      refine ⟨_, hk, wl, Store.lookup_natCast_iff.2 hwl, ?_⟩
      obtain ⟨h1, h2⟩ := hn
      simp only [covered, Span.between] at h1 h2
      omega
    · intro wl hwl
      rw [hnew, Store.size, List.drop_left' rfl] at hwl
      exact hdoors wl hwl

/-- Two rooms one wall apart, the first of which has a wall at its back. -/
def twoRooms : Works Script where
  stream := { state := { values := #[3, 5] } }
  rooms := { items := [
    { bounds := ⟨⟨0, 0, 0⟩, ⟨9, 9, 4⟩⟩, kind := .seating,
      walls := { posX := [], posY := [], negX := [⟨0⟩], negY := [] } },
    { bounds := ⟨⟨11, 2, 0⟩, ⟨20, 12, 4⟩⟩, kind := .seating }] }
  walls := { items := [
    { start := ⟨-1, -1⟩, stop := ⟨-1, 10⟩, base := 0, top := 4, behind := none,
      ahead := some ⟨0⟩, toward := .posX }] }

theorem twoRooms_enclosed : ∃ w', partitionRooms Script.source twoRooms = .ok () w' ∧
    ∀ r ∈ w'.rooms.items, ∀ d n, d.orthogonal.along r.footprint.min ≤ n →
      n ≤ d.orthogonal.along r.footprint.max → ∃ id ∈ r.walls.get d, ∃ wl,
        w'.walls.lookup id = .ok wl ∧
        min (d.orthogonal.along wl.start) (d.orthogonal.along wl.stop) < n ∧
        n < max (d.orthogonal.along wl.start) (d.orthogonal.along wl.stop) := by
  have hw : ∀ r ∈ twoRooms.rooms.items, ∀ d, ∀ id ∈ r.walls.get d,
      0 ≤ id.index ∧ id.index < twoRooms.walls.size := by
    intro r hr d
    cases d <;> revert r <;> decide
  obtain ⟨hok, hall⟩ := rooms_enclosed Script.lawful_source hw
  obtain ⟨w', hrun⟩ := hok rfl
  exact ⟨w', hrun, (hall w' hrun).2.2.1⟩

end Partition

end TavernLayout
