import Mathlib.Logic.Relation
import TavernLayout.Proofs.Walls.Contact
import TavernLayout.Proofs.Walls.Hanging

/-!
# Which walls the partition adds

The partition adds walls one by one: a shared wall between two rooms that touch and were not joined,
or an outer wall of one room. A room is joined to every other room that it touches once it is
closed, whichever of the two is closed first.

* `Partition.Adds`: the walls that the partition may add;
* `Partition.Closes.consistent`: walls and rooms stay consistent;
* `joined_of_closeRoom`: a closed room is joined to all rooms that it touches;
* `walls_consistent`: walls and rooms agree in every building that grows and after every partition.
-/

namespace TavernLayout

variable {σ : Type} {src : Source σ} {u v w w' : Works σ} {wl : Wall}

def Works.boxes (w : Works σ) : List Box := w.rooms.items.map Room.bounds

theorem Works.getElem?_boxes {i : Nat} {a : Box} :
    w.boxes[i]? = some a ↔ ∃ r, w.rooms.items[i]? = some r ∧ r.bounds = a := by
  rw [boxes, List.getElem?_map, Option.map_eq_some_iff]

theorem Works.lt_size_of_boxes {i : Nat} {a : Box} (h : w.boxes[i]? = some a) :
    i < w.rooms.size := by
  obtain ⟨r, hr, -⟩ := Works.getElem?_boxes.1 h
  exact (List.getElem?_eq_some_iff.1 hr).1

namespace Partition

/-- The layers of two rooms overlap, and they touch where the first looks for the second. -/
def Touches (a b : Box) : Prop :=
  a.Overlaps b ∧ (contact a.footprint b.footprint (toward a.footprint b.footprint)).Valid

def joint (w : Works σ) (i j : Nat) (wl : Wall) : Works σ :=
  hang (hang (withWall w wl) i wl.toward ⟨(w.walls.size : Int)⟩) j wl.toward.opposite
    ⟨(w.walls.size : Int)⟩

def screen (w : Works σ) (i : Nat) (wl : Wall) : Works σ :=
  hang (withWall w wl) i wl.toward ⟨(w.walls.size : Int)⟩

/-- What the partition may do to the rooms and walls of a building at once. -/
inductive Adds (w : Works σ) : Works σ → Prop
  | idle {v : Works σ} : w.Idle v → Adds w v
  | shared {i j : Nat} {a b : Box} {d : Dir} {c : Rect} {door : Option Span} : i ≠ j →
      w.boxes[i]? = some a → w.boxes[j]? = some b → a.Overlaps b →
      d = toward a.footprint b.footprint → c = contact a.footprint b.footprint d → c.Valid →
      ¬ Joined w ⟨(i : Int)⟩ ⟨(j : Int)⟩ →
      (∀ s, door = some s → 0 < s.lo ∧ s.lo < s.hi ∧ s.hi < (extent c d).hi - (extent c d).lo) →
      Adds w (joint w i j (sharedWall ⟨(i : Int)⟩ ⟨(j : Int)⟩ a b c d door))
  | outer {i : Nat} {a : Box} {d : Dir} {s : Span} : w.boxes[i]? = some a →
      Adds w (screen w i (outerWall ⟨(i : Int)⟩ a d s))

/-- What the partition may do in the course of time. -/
def Closes : Works σ → Works σ → Prop := Relation.ReflTransGen Adds

/-! ## One wall more -/

theorem boxes_hang (w : Works σ) (i : Nat) (d : Dir) (id : Ref .wall) :
    (hang w i d id).boxes = w.boxes :=
  map_modify_of_eq (g := Room.bounds) (f := (·.addWall d id)) (fun _ => rfl) _ _

theorem size_hang (w : Works σ) (i : Nat) (d : Dir) (id : Ref .wall) :
    (hang w i d id).rooms.size = w.rooms.size := List.length_modify _ _ _

theorem Adds.boxes (h : Adds u v) : v.boxes = u.boxes := by
  cases h with
  | idle hi => rw [Works.boxes, hi.rooms, Works.boxes]
  | shared => exact (boxes_hang _ _ _ _).trans (boxes_hang _ _ _ _)
  | outer => exact boxes_hang _ _ _ _

theorem raised_joint (w : Works σ) (wl : Wall) {i j : Nat} (hij : i ≠ j)
    (hi : wl.behind = some ⟨(i : Int)⟩) (hj : wl.ahead = some ⟨(j : Int)⟩) :
    Raised w (joint w i j wl) wl := by
  have hne : (⟨(i : Int)⟩ : Ref .room) ≠ ⟨(j : Int)⟩ := by
    rw [ne_eq, Ref.mk.injEq]
    omega
  refine .of_side rfl (fun a ha => ?_) fun m r' hr' => ?_
  · rw [hi] at ha
    obtain rfl := Option.some.inj ha
    rw [hj]
    exact fun h => hne (Option.some.inj h).symm
  · rw [joint, getElem?_hang, getElem?_hang, Option.map_map] at hr'
    obtain ⟨r, hr, rfl⟩ := Option.map_eq_some_iff.1 hr'
    refine ⟨r, hr, ?_⟩
    by_cases him : i = m
    · subst him
      simp [Wall.side, Room.hung, hi, Ne.symm hij]
    · by_cases hjm : j = m
      · subst hjm
        simp [Wall.side, Room.hung, hi, hj, him]
      · simp [Wall.side, Room.hung, hi, hj, him, hjm]

theorem raised_screen {i : Nat} (hi : wl.behind = some ⟨(i : Int)⟩) (hj : wl.ahead = none) :
    Raised w (screen w i wl) wl := by
  refine .of_side rfl (fun a _ h => by rw [hj] at h; cases h) fun m r' hr' => ?_
  rw [screen, getElem?_hang] at hr'
  obtain ⟨r, hr, rfl⟩ := Option.map_eq_some_iff.1 hr'
  refine ⟨r, hr, ?_⟩
  by_cases him : i = m
  · simp [Wall.side, Room.hung, hi, him]
  · simp [Wall.side, Room.hung, hi, hj, him]

/-- Each step of the partition changes nothing or adds a wall between rooms that were not joined. -/
theorem Adds.raised (h : Adds u v) : u.Idle v ∨
    ∃ wl, Raised u v wl ∧ ∀ a b, wl.Joins a b → ¬ Joined u a b := by
  cases h with
  | idle hi => exact .inl hi
  | shared hij _ _ _ _ _ _ hnew _ =>
    refine .inr ⟨_, raised_joint _ _ hij rfl rfl, ?_⟩
    rintro a b (⟨ha, hb⟩ | ⟨hb, ha⟩)
    · obtain rfl := Option.some.inj ha
      obtain rfl := Option.some.inj hb
      exact hnew
    · obtain rfl := Option.some.inj ha
      obtain rfl := Option.some.inj hb
      exact fun h => hnew h.symm
  | outer ha =>
    refine .inr ⟨_, raised_screen rfl rfl, ?_⟩
    rintro a b (⟨-, h⟩ | ⟨-, h⟩)
    · cases h
    · cases h

theorem Closes.consistent (hc : Closes u v) (h : Consistent u) : Consistent v := by
  induction hc with
  | refl => exact h
  | tail _ hadd ih =>
    rcases hadd.raised with hi | ⟨wl, hr, hnew⟩
    · exact ih.of_same hi.rooms hi.walls
    · exact ih.raise hr hnew

theorem Closes.boxes (h : Closes u v) : v.boxes = u.boxes := by
  induction h with
  | refl => rfl
  | tail _ hadd ih => exact hadd.boxes.trans ih

/-- Rooms that are joined stay joined. -/
theorem Closes.joined (h : Closes u v) {a b : Ref .room} (hj : Joined u a b) : Joined v a b := by
  induction h with
  | refl => exact hj
  | tail _ hadd ih =>
    rcases hadd.raised with hi | ⟨wl, hr, -⟩
    · unfold Joined
      rw [hi.walls]
      exact ih
    · exact hr.joined.2 (.inl ih)

/-! ## One room -/

theorem mem_of_coverSide {d : Dir} {ids : List (Ref .wall)} {bare : Sides}
    {joined : List (Ref .room)} {p : Sides × List (Ref .room)}
    (h : coverSide d ids bare joined w = .ok p w') :
    w = w' ∧ ∀ a, a ∈ p.2 ↔ a ∈ joined ∨
      ∃ id ∈ ids, ∃ wl, w.walls.lookup id = .ok wl ∧ a ∈ wl.neighbours := by
  induction ids generalizing bare joined with
  | nil =>
    obtain ⟨rfl, rfl⟩ := pure_eq_ok_iff.1 h
    simp
  | cons id ids ih =>
    obtain ⟨wl, w1, h1, h⟩ := bind_eq_ok_iff.1 h
    obtain ⟨hwl, rfl⟩ := Build.wall_eq_ok_iff.1 h1
    obtain ⟨rfl, hmem⟩ := ih h
    refine ⟨rfl, fun a => ?_⟩
    rw [hmem a, List.mem_append, or_assoc]
    simp [hwl]

theorem mem_of_coverSides {room : Room} {ds : List Dir} {bare : Sides}
    {joined : List (Ref .room)} {p : Sides × List (Ref .room)}
    (h : coverSides room ds bare joined w = .ok p w') :
    w = w' ∧ ∀ a, a ∈ p.2 ↔ a ∈ joined ∨
      ∃ d ∈ ds, ∃ id ∈ room.walls.get d, ∃ wl, w.walls.lookup id = .ok wl ∧ a ∈ wl.neighbours := by
  induction ds generalizing bare joined with
  | nil =>
    obtain ⟨rfl, rfl⟩ := pure_eq_ok_iff.1 h
    simp
  | cons d ds ih =>
    obtain ⟨⟨bare', joined'⟩, w1, h1, h⟩ := bind_eq_ok_iff.1 h
    obtain ⟨rfl, hside⟩ := mem_of_coverSide h1
    obtain ⟨rfl, hmem⟩ := ih h
    refine ⟨rfl, fun a => ?_⟩
    rw [hmem a, hside a, or_assoc]
    simp

/-- The rooms that a room is known to be joined to are those that its walls join it to. -/
theorem mem_joined_iff {i : Nat} {r : Room} {bare : Sides} {p : Sides × List (Ref .room)}
    (hc : Consistent w) (hr : w.rooms.items[i]? = some r)
    (h : coverSides r Dir.all bare [⟨(i : Int)⟩] w = .ok p w') {a : Ref .room}
    (ha : a ≠ ⟨(i : Int)⟩) : a ∈ p.2 ↔ Joined w ⟨(i : Int)⟩ a := by
  rw [(mem_of_coverSides h).2 a, List.mem_singleton]
  constructor
  · rintro (rfl | ⟨d, -, id, hid, wl, hwl, hmem⟩)
    · exact absurd rfl ha
    · obtain ⟨k, rfl, -⟩ := hc.issued r (List.mem_of_getElem? hr) d id hid
      have hk := Store.lookup_natCast_iff.1 hwl
      exact ⟨wl, List.mem_of_getElem? hk, ((hc.mem_iff hr hk).1 hid).joins hmem ha⟩
  · rintro ⟨wl, hwl, hj⟩
    obtain ⟨k, hk⟩ := List.mem_iff_getElem?.1 hwl
    obtain ⟨d, hd⟩ := hj.faces
    exact .inr ⟨d, Dir.mem_all d, _, (hc.mem_iff hr hk).2 hd, wl, Store.lookup_natCast_iff.2 hk,
      hj.mem_neighbours.2⟩

theorem closes_of_idle (h : u.Idle v) : Closes u v := .single (.idle h)

/-- A wall is built and hung on a side, and the program goes on. -/
theorem attach_eq_ok {α : Type} {i : Nat} {d : Dir} {f : Ref .wall → Build σ α} {a : α}
    (h : (do
      let id ← Build.addWall wl
      Build.changeRoom ⟨(i : Int)⟩ (·.addWall d id)
      f id) w = .ok a w') (hi : i < w.rooms.size) :
    f ⟨(w.walls.size : Int)⟩ (hang (withWall w wl) i d ⟨(w.walls.size : Int)⟩) = .ok a w' := by
  obtain ⟨id, w1, h1, h⟩ := bind_eq_ok_iff.1 h
  obtain ⟨-, rfl, rfl⟩ := Build.addWall_eq_ok_iff.1 h1
  obtain ⟨x, w2, h2, h⟩ := bind_eq_ok_iff.1 h
  obtain rfl := (Build.changeRoom_eq_ok_iff (w := withWall w wl) hi).1 h2
  exact h

/-- Two rooms that touch are joined; if they do not touch, nothing happens. -/
theorem closes_of_joinRoom {i j : Nat} {a b : Box} {bare bare' : Sides} (hs : src.Lawful)
    (hij : i ≠ j) (ha : w.boxes[i]? = some a) (hb : w.boxes[j]? = some b)
    (hnew : ¬ Joined w ⟨(i : Int)⟩ ⟨(j : Int)⟩)
    (h : joinRoom src ⟨(i : Int)⟩ a ⟨(j : Int)⟩ bare w = .ok bare' w') :
    Closes w w' ∧ (Touches a b → Joined w' ⟨(i : Int)⟩ ⟨(j : Int)⟩) ∧
      ∀ m, m ≠ ⟨(j : Int)⟩ → Joined w' ⟨(i : Int)⟩ m → Joined w ⟨(i : Int)⟩ m := by
  obtain ⟨s, hs', rfl⟩ := Works.getElem?_boxes.1 hb
  have hi := Works.lt_size_of_boxes ha
  have hj := Works.lt_size_of_boxes hb
  unfold joinRoom at h
  obtain ⟨s', w1, h1, h⟩ := bind_eq_ok_iff.1 h
  obtain ⟨hlook, rfl⟩ := Build.room_eq_ok_iff.1 h1
  obtain rfl : s = s' := Option.some.inj (hs'.symm.trans (Store.lookup_natCast_iff.1 hlook))
  dsimp only at h
  split at h
  · next hno =>
    obtain ⟨-, rfl⟩ := pure_eq_ok_iff.1 h
    exact ⟨.refl, fun ht => absurd ht.1 hno, fun _ _ h => h⟩
  · next hover =>
    split at h
    · next hno =>
      obtain ⟨-, rfl⟩ := pure_eq_ok_iff.1 h
      exact ⟨.refl, fun ht => absurd ht.2 hno, fun _ _ h => h⟩
    · next hvalid =>
      obtain ⟨door, w2, h2, h⟩ := bind_eq_ok_iff.1 h
      have hidle := Build.idle_of_draw h2
      obtain ⟨st, hdoor, -⟩ := Build.draw_eq_ok_iff.1 h2
      have hspec := (ends_drawDoor hs (fun _ => True) _ _ _ _).1 _ _ hdoor
      have hboxes : w2.boxes = w.boxes := (Adds.idle hidle).boxes
      have hsame : ∀ {a b}, Joined w2 a b ↔ Joined w a b := by
        unfold Joined
        rw [hidle.walls]
      have h := attach_eq_ok h (by rw [hidle.rooms]; exact hi)
      obtain ⟨x, w3, h3, h⟩ := bind_eq_ok_iff.1 h
      obtain ⟨-, rfl⟩ := pure_eq_ok_iff.1 h
      obtain rfl := (ends_changeRoom (P := fun _ => True)
        (by rw [size_hang]; exact hidle.rooms ▸ hj) _ _).1 _ _ h3
      generalize hd : toward a.footprint s.bounds.footprint = d at *
      generalize hc : contact a.footprint s.bounds.footprint d = c at *
      have hadd : Adds w2 (joint w2 i j (sharedWall ⟨(i : Int)⟩ ⟨(j : Int)⟩ a s.bounds c d door)) :=
        .shared hij (hboxes ▸ ha) (hboxes ▸ hb) (Decidable.not_not.1 hover) hd.symm hc.symm
          (Decidable.not_not.1 hvalid) (by rw [hsame]; exact hnew) hspec
      have hraised := raised_joint w2
        (sharedWall ⟨(i : Int)⟩ ⟨(j : Int)⟩ a s.bounds c d door) hij rfl rfl
      refine ⟨(closes_of_idle hidle).tail hadd, fun _ => hraised.joined.2 (.inr (.inl ⟨rfl, rfl⟩)),
        fun m hm hjoined => ?_⟩
      rcases hraised.joined.1 hjoined with hold | ⟨-, hahead⟩ | ⟨-, hback⟩
      · exact hsame.1 hold
      · exact absurd (Option.some.inj hahead).symm hm
      · have := Ref.natCast_inj.1 (Option.some.inj hback)
        exact absurd this.symm hij

/-- Rooms that are not known to be joined are examined once each. -/
theorem closes_of_joinRooms {i : Nat} {a : Box} {joined others : List (Ref .room)}
    {bare bare' : Sides} (hs : src.Lawful) (hself : ⟨(i : Int)⟩ ∈ joined)
    (ha : w.boxes[i]? = some a) (hnodup : others.Nodup)
    (hex : ∀ id ∈ others, ∃ (j : Nat) (b : Box), id = ⟨(j : Int)⟩ ∧ w.boxes[j]? = some b)
    (hnew : ∀ id ∈ others, id ∉ joined → ¬ Joined w ⟨(i : Int)⟩ id)
    (h : joinRooms src ⟨(i : Int)⟩ a joined others bare w = .ok bare' w') :
    Closes w w' ∧ ∀ (j : Nat) b, ⟨(j : Int)⟩ ∈ others → ⟨(j : Int)⟩ ∉ joined →
      w.boxes[j]? = some b → Touches a b → Joined w' ⟨(i : Int)⟩ ⟨(j : Int)⟩ := by
  induction others generalizing w bare with
  | nil =>
    obtain ⟨-, rfl⟩ := pure_eq_ok_iff.1 h
    exact ⟨.refl, fun j b hj => absurd hj (by simp)⟩
  | cons other others ih =>
    rw [List.nodup_cons] at hnodup
    have hrest := fun id hid => hex id (List.mem_cons_of_mem _ hid)
    unfold joinRooms at h
    split at h
    · next hknown =>
      obtain ⟨hcl, hall⟩ := ih ha hnodup.2 hrest
        (fun id hid => hnew id (List.mem_cons_of_mem _ hid)) h
      refine ⟨hcl, fun j b hj hjoin => ?_⟩
      rcases List.mem_cons.1 hj with rfl | hj
      · exact absurd hknown hjoin
      · exact hall j b hj hjoin
    · next hunknown =>
      obtain ⟨k, c, rfl, hc⟩ := hex other List.mem_cons_self
      obtain ⟨bare1, w1, h1, h⟩ := bind_eq_ok_iff.1 h
      have hik : i ≠ k := by
        rintro rfl
        exact hunknown hself
      obtain ⟨hcl1, htouch, hkeep⟩ := closes_of_joinRoom hs hik ha hc
        (hnew _ List.mem_cons_self hunknown) h1
      rw [← hcl1.boxes] at ha hrest
      obtain ⟨hcl, hall⟩ := ih ha hnodup.2 hrest (fun id hid hid' hjoin => by
        have hne : id ≠ ⟨(k : Int)⟩ := by
          rintro rfl
          exact hnodup.1 hid
        exact hnew id (List.mem_cons_of_mem _ hid) hid' (hkeep id hne hjoin)) h
      refine ⟨hcl1.trans hcl, fun j b hj hjoin hb ht => ?_⟩
      rcases List.mem_cons.1 hj with heq | hj
      · obtain rfl : j = k := Ref.natCast_inj.1 heq
        obtain rfl : c = b := Option.some.inj (hc.symm.trans hb)
        exact hcl.joined (htouch ht)
      · exact hall j b hj hjoin (hcl1.boxes ▸ hb) ht

theorem closes_of_closeSide {i : Nat} {a : Box} {d : Dir} {ss : List Span} {x : Unit}
    (ha : w.boxes[i]? = some a) (h : closeSide ⟨(i : Int)⟩ a d ss w = .ok x w') :
    Closes w w' := by
  induction ss generalizing w with
  | nil =>
    obtain ⟨-, rfl⟩ := pure_eq_ok_iff.1 h
    exact .refl
  | cons s ss ih =>
    have h := attach_eq_ok h (Works.lt_size_of_boxes ha)
    have hadd : Adds w (screen w i (outerWall ⟨(i : Int)⟩ a d s)) := .outer ha
    exact .head hadd (ih (hadd.boxes ▸ ha) h)

theorem closes_of_closeSides {i : Nat} {a : Box} {bare : Sides} {ds : List Dir} {x : Unit}
    (ha : w.boxes[i]? = some a) (h : closeSides ⟨(i : Int)⟩ a bare ds w = .ok x w') :
    Closes w w' := by
  induction ds generalizing w with
  | nil =>
    obtain ⟨-, rfl⟩ := pure_eq_ok_iff.1 h
    exact .refl
  | cons d ds ih =>
    obtain ⟨y, w1, h1, h⟩ := bind_eq_ok_iff.1 h
    have hcl := closes_of_closeSide ha h1
    exact hcl.trans (ih (hcl.boxes ▸ ha) h)

/-- A room that is closed is joined to all other rooms that it touches. -/
theorem joined_of_closeRoom {i : Nat} {a : Box} {x : Unit} (hs : src.Lawful) (hc : Consistent w)
    (ha : w.boxes[i]? = some a) (h : closeRoom src ⟨(i : Int)⟩ w = .ok x w') :
    Closes w w' ∧ ∀ (j : Nat) b, i ≠ j → w.boxes[j]? = some b → Touches a b →
      Joined w' ⟨(i : Int)⟩ ⟨(j : Int)⟩ := by
  obtain ⟨r, hr, rfl⟩ := Works.getElem?_boxes.1 ha
  unfold closeRoom at h
  obtain ⟨r', w1, h1, h⟩ := bind_eq_ok_iff.1 h
  obtain ⟨hlook, rfl⟩ := Build.room_eq_ok_iff.1 h1
  obtain rfl : r = r' := Option.some.inj (hr.symm.trans (Store.lookup_natCast_iff.1 hlook))
  obtain ⟨⟨bare, joined⟩, w2, h2, h⟩ := bind_eq_ok_iff.1 h
  obtain ⟨rfl, hmem⟩ := mem_of_coverSides h2
  have hjoined : ∀ {b}, b ≠ ⟨(i : Int)⟩ → (b ∈ joined ↔ Joined w ⟨(i : Int)⟩ b) :=
    fun hb => mem_joined_iff hc hr h2 hb
  have hself : ⟨(i : Int)⟩ ∈ joined := (hmem _).2 (.inl (List.mem_singleton.2 rfl))
  obtain ⟨u, w3, h3, h⟩ := bind_eq_ok_iff.1 h
  obtain ⟨rfl, rfl⟩ := get_eq_ok_iff.1 h3
  obtain ⟨bare', w4, h4, h⟩ := bind_eq_ok_iff.1 h
  have hex : ∀ id ∈ w.rooms.refs, ∃ (j : Nat) (b : Box), id = ⟨(j : Int)⟩ ∧
      w.boxes[j]? = some b := by
    intro id hid
    obtain ⟨j, rfl, hj⟩ := Store.mem_refs hid
    exact ⟨j, _, rfl, Works.getElem?_boxes.2 ⟨_, List.getElem?_eq_getElem hj, rfl⟩⟩
  obtain ⟨hcl, hall⟩ := closes_of_joinRooms hs hself ha (Store.nodup_refs _) hex
    (fun id _ hid hjoin => hid ((hjoined (by rintro rfl; exact hid hself)).2 hjoin)) h4
  have hcl' := closes_of_closeSides (hcl.boxes ▸ ha) h
  refine ⟨hcl.trans hcl', fun j b hij hb ht => hcl'.joined ?_⟩
  have hne : (⟨(j : Int)⟩ : Ref .room) ≠ ⟨(i : Int)⟩ := by
    rw [ne_eq, Ref.mk.injEq]
    omega
  by_cases hj : ⟨(j : Int)⟩ ∈ joined
  · exact hcl.joined ((hjoined hne).1 hj)
  · exact hall j b (Store.mem_refs_iff.2 (Works.lt_size_of_boxes hb)) hj hb ht

/-- Rooms are closed one after the other, and rooms that are joined stay joined. -/
theorem joined_of_closeRooms {ids : List (Ref .room)} {x : Unit} (hs : src.Lawful)
    (hc : Consistent w) (hex : ∀ id ∈ ids, ∃ (i : Nat) (a : Box), id = ⟨(i : Int)⟩ ∧
      w.boxes[i]? = some a) (h : closeRooms src ids w = .ok x w') :
    Closes w w' ∧ ∀ (i j : Nat) a b, ⟨(i : Int)⟩ ∈ ids → i ≠ j → w.boxes[i]? = some a →
      w.boxes[j]? = some b → Touches a b → Joined w' ⟨(i : Int)⟩ ⟨(j : Int)⟩ := by
  induction ids generalizing w with
  | nil =>
    obtain ⟨-, rfl⟩ := pure_eq_ok_iff.1 h
    exact ⟨.refl, fun i j a b hi => absurd hi (by simp)⟩
  | cons id ids ih =>
    obtain ⟨m, c, rfl, hm⟩ := hex id List.mem_cons_self
    obtain ⟨y, w1, h1, h⟩ := bind_eq_ok_iff.1 h
    obtain ⟨hcl1, hfirst⟩ := joined_of_closeRoom hs hc hm h1
    have hrest := fun id hid => hex id (List.mem_cons_of_mem _ hid)
    rw [← hcl1.boxes] at hrest
    obtain ⟨hcl, hall⟩ := ih (hcl1.consistent hc) hrest h
    refine ⟨hcl1.trans hcl, fun i j a b hi hij ha hb ht => ?_⟩
    rcases List.mem_cons.1 hi with heq | hi
    · obtain rfl : i = m := Ref.natCast_inj.1 heq
      obtain rfl : c = a := Option.some.inj (hm.symm.trans ha)
      exact hcl.joined (hfirst j b hij hb ht)
    · exact hall i j a b hi hij (hcl1.boxes ▸ ha) (hcl1.boxes ▸ hb) ht

/-- After the partition all rooms that touch are joined. -/
theorem joined_of_partitionRooms {x : Unit} (hs : src.Lawful) (hc : Consistent w)
    (h : partitionRooms src w = .ok x w') :
    Closes w w' ∧ ∀ (i j : Nat) a b, i ≠ j → w.boxes[i]? = some a → w.boxes[j]? = some b →
      Touches a b → Joined w' ⟨(i : Int)⟩ ⟨(j : Int)⟩ := by
  unfold partitionRooms at h
  obtain ⟨u, w1, h1, h⟩ := bind_eq_ok_iff.1 h
  obtain ⟨rfl, rfl⟩ := get_eq_ok_iff.1 h1
  obtain ⟨u, w2, h2, h⟩ := bind_eq_ok_iff.1 h
  obtain ⟨rfl, rfl⟩ := get_eq_ok_iff.1 h2
  obtain ⟨y, w3, h3, h⟩ := bind_eq_ok_iff.1 h
  obtain ⟨u, w4, h4, h⟩ := bind_eq_ok_iff.1 h
  obtain ⟨rfl, rfl⟩ := get_eq_ok_iff.1 h4
  have hnote := closes_of_idle (Build.idle_of_note h)
  have hex : ∀ id ∈ w.rooms.refs, ∃ (i : Nat) (a : Box), id = ⟨(i : Int)⟩ ∧
      w.boxes[i]? = some a := by
    intro id hid
    obtain ⟨i, rfl, hi⟩ := Store.mem_refs hid
    exact ⟨i, _, rfl, Works.getElem?_boxes.2 ⟨_, List.getElem?_eq_getElem hi, rfl⟩⟩
  obtain ⟨hcl, hall⟩ := joined_of_closeRooms hs hc hex h3
  refine ⟨hcl.trans hnote, fun i j a b hij ha hb ht => hnote.joined ?_⟩
  exact hall i j a b (Store.mem_refs_iff.2 (Works.lt_size_of_boxes ha)) hij ha hb ht

/-- Walls and rooms agree in every building that grows. The partition of a building in which they
agree succeeds unless the wall store is frozen, and they agree in what it leaves. Then any two rooms
of overlapping layers that face each other across a gap of one cell at most are joined by exactly
one wall, whichever of them was closed first. -/
theorem walls_consistent (hs : src.Lawful) :
    (∀ (plot : Plot) (n : Nat) (u v : Works σ), Growth.Opened src plot u →
      Growth.Rounds src plot u n v → Consistent v) ∧
    ∀ w : Works σ, Consistent w →
      (w.walls.frozen = false → ∃ w', partitionRooms src w = .ok () w') ∧
      ∀ w', partitionRooms src w = .ok () w' → Consistent w' ∧ w'.boxes = w.boxes ∧
        ∀ (i j : Nat) r s, i ≠ j → w'.rooms.items[i]? = some r → w'.rooms.items[j]? = some s →
          r.footprint.Valid → s.footprint.Valid → r.bounds.Overlaps s.bounds →
          (∃ d, r.footprint.Adjoins d s.footprint) →
          ∃! k : Nat, ∃ wl, w'.walls.items[k]? = some wl ∧ wl.Joins ⟨(i : Int)⟩ ⟨(j : Int)⟩ := by
  constructor
  · intro plot n u v ho hr
    obtain ⟨es, -, hb⟩ := Growth.built_of_rounds hs ho hr
    exact (Growth.consistent_of_built hb).1
  · intro w hc
    constructor
    · intro hopen
      cases hrun : partitionRooms src w with
      | ok u w' => exact ⟨w', rfl⟩
      | error e t =>
        have hfrozen := ((ends_partitionRooms hs hc.issued).2 e t hrun).2
        rw [hopen] at hfrozen
        cases hfrozen
    · intro w' hrun
      obtain ⟨hcl, hall⟩ := joined_of_partitionRooms hs hc hrun
      have hc' := hcl.consistent hc
      refine ⟨hc', hcl.boxes, ?_⟩
      rintro i j r s hij hr hsj hrv hsv hover ⟨d, hadj⟩
      obtain ⟨rfl, hvalid⟩ := contact_of_adjoins hrv hsv hadj
      refine hc'.exists_unique (hall i j r.bounds s.bounds hij ?_ ?_ ⟨hover, hvalid⟩)
      · rw [← hcl.boxes]
        exact Works.getElem?_boxes.2 ⟨r, hr, rfl⟩
      · rw [← hcl.boxes]
        exact Works.getElem?_boxes.2 ⟨s, hsj, rfl⟩

theorem consistent_twoRooms : Consistent twoRooms := by
  refine ⟨?_, ?_, ?_⟩
  · intro r hr d id hid
    have hzero : id = ⟨0⟩ := by
      revert id
      cases d <;> revert r <;> decide
    exact ⟨0, hzero, by decide⟩
  · intro i r hr k wl hk d
    obtain ⟨hi, rfl⟩ := List.getElem?_eq_some_iff.1 hr
    obtain ⟨hk', rfl⟩ := List.getElem?_eq_some_iff.1 hk
    change i < 2 at hi
    change k < 1 at hk'
    obtain rfl : k = 0 := by omega
    obtain rfl | rfl : i = 0 ∨ i = 1 := by omega
    · cases d <;> rfl
    · cases d <;> rfl
  · intro k l wl wl' hk hl a b _ _
    have hk' := (List.getElem?_eq_some_iff.1 hk).1
    have hl' := (List.getElem?_eq_some_iff.1 hl).1
    change k < 1 at hk'
    change l < 1 at hl'
    omega

theorem twoRooms_joined_once : ∃ w', partitionRooms Script.source twoRooms = .ok () w' ∧
    Consistent w' ∧ ∃! k : Nat, ∃ wl, w'.walls.items[k]? = some wl ∧
      wl.Joins ⟨((0 : Nat) : Int)⟩ ⟨((1 : Nat) : Int)⟩ := by
  obtain ⟨hok, hall⟩ := (walls_consistent Script.lawful_source).2 twoRooms consistent_twoRooms
  obtain ⟨w', hrun⟩ := hok rfl
  obtain ⟨hc, hboxes, honce⟩ := hall w' hrun
  have hfirst : w'.boxes[0]? = some ⟨⟨0, 0, 0⟩, ⟨9, 9, 4⟩⟩ := by
    rw [hboxes]
    rfl
  have hsecond : w'.boxes[1]? = some ⟨⟨11, 2, 0⟩, ⟨20, 12, 4⟩⟩ := by
    rw [hboxes]
    rfl
  obtain ⟨r, hr, hrb⟩ := Works.getElem?_boxes.1 hfirst
  obtain ⟨s, hs, hsb⟩ := Works.getElem?_boxes.1 hsecond
  refine ⟨w', hrun, hc, honce 0 1 r s (by decide) hr hs ?_ ?_ ?_ ⟨.posX, ?_⟩⟩
  · rw [Room.footprint, hrb]
    decide
  · rw [Room.footprint, hsb]
    decide
  · rw [hrb, hsb]
    decide
  · rw [Room.footprint, Room.footprint, hrb, hsb]
    unfold Rect.Adjoins Rect.Abreast
    decide

end Partition

end TavernLayout
