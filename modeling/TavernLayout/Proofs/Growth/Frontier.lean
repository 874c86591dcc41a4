import TavernLayout.Proofs.Growth.Rounds

/-!
# What the frontier offers

The frontier keeps, for every room that can be extended, the sides that were not tried yet. A side
that is offered has no wall: a room that is added takes the side it was added to, and the new room
does not offer the side from which it came. So no side gets a second wall.

* `Works.getElem?_addBeside`, `Works.getElem?_addUnder`: the rooms after one was added;
* `Offers`, `Untried`: what the frontier offers, and that no room is offered twice;
* `Untried.step`, `Untried.rounds`: one round keeps this, and so does every run.
-/

namespace TavernLayout

variable {σ : Type} {src : Source σ} {plot : Plot} {w w' : Works σ}

/-! ## The rooms after one was added -/

/-- The rooms of a building with one more room beside room `i`. -/
theorem Works.getElem?_addBeside {i j : Nat} {parent room : Rect} {d : Dir} {layers : Span}
    {k : Kind} {offset : Int} {r : Room}
    (h : (w.addBeside i parent room d layers k offset).rooms.items[j]? = some r) :
    (j < w.rooms.size ∧ ∃ r0, w.rooms.items[j]? = some r0 ∧
      r = if i = j then r0.addWall d ⟨(w.walls.size : Int)⟩ else r0) ∨
    (j = w.rooms.size ∧ r = Room.addWall { bounds := .ofRect room layers.lo layers.hi, kind := k }
      d.opposite ⟨(w.walls.size : Int)⟩) := by
  simp only [Works.addBeside] at h
  by_cases hj : j < w.rooms.size
  · rw [List.getElem?_append_left (by rw [List.length_modify]; exact hj), List.getElem?_modify] at h
    obtain ⟨r0, hr0, rfl⟩ := Option.map_eq_some_iff.1 h
    exact .inl ⟨hj, r0, hr0, rfl⟩
  · rw [List.getElem?_append_right (by rw [List.length_modify]; exact Nat.le_of_not_lt hj),
      List.length_modify, List.getElem?_singleton] at h
    split at h
    · next hz =>
      refine .inr ⟨?_, (Option.some.inj h).symm⟩
      have : w.rooms.items.length = w.rooms.size := rfl
      omega
    · cases h

/-- The rooms of a building with one more room under another. -/
theorem Works.getElem?_addUnder {j : Nat} {room : Rect} {layers : Span} {k : Kind} {r : Room}
    (h : (w.addUnder room layers k).rooms.items[j]? = some r) :
    (j < w.rooms.size ∧ w.rooms.items[j]? = some r) ∨
    (j = w.rooms.size ∧ r = { bounds := .ofRect room layers.lo layers.hi, kind := k }) := by
  simp only [Works.addUnder] at h
  by_cases hj : j < w.rooms.size
  · rw [List.getElem?_append_left hj] at h
    exact .inl ⟨hj, h⟩
  · rw [List.getElem?_append_right (Nat.le_of_not_lt hj), List.getElem?_singleton] at h
    split at h
    · next hz =>
      refine .inr ⟨?_, (Option.some.inj h).symm⟩
      have : w.rooms.items.length = w.rooms.size := rfl
      omega
    · cases h

theorem Room.get_addWall_of_ne {r : Room} {d e : Dir} (h : e ≠ d) (id : Ref .wall) :
    (r.addWall d id).walls.get e = r.walls.get e :=
  DirMap.get_set_of_ne _ h _

theorem Room.get_addWall_self (r : Room) (d : Dir) (id : Ref .wall) :
    (r.addWall d id).walls.get d = r.walls.get d ++ [id] :=
  DirMap.get_set_self _ _ _

namespace Growth

/-! ## Prospects -/

/-- The sides that a prospect offers are different and have no walls. -/
def Offers (w : Works σ) (p : Prospect) : Prop :=
  p.sides.Nodup ∧ ∀ (i : Nat) r, p.room = ⟨(i : Int)⟩ → w.rooms.items[i]? = some r →
    ∀ d ∈ p.sides, r.walls.get d = []

/-- The frontier offers sides without walls, and every room at most once. -/
structure Untried (w : Works σ) : Prop where
  offers : ∀ p ∈ w.frontier, Offers w p
  once : w.frontier.Pairwise fun p q => p.room ≠ q.room

theorem nodup_others (d : Dir) : (Dir.all.filter fun e => decide (e ≠ d)).Nodup := by
  cases d <;> decide

theorem Untried.of_idle (h : Untried w) (hi : w.Idle w') : Untried w' := by
  obtain ⟨h1, h2⟩ := h
  constructor
  · intro p hp
    rw [hi.frontier] at hp
    unfold Offers
    rw [hi.rooms]
    exact h1 p hp
  · rw [hi.frontier]
    exact h2

theorem Untried.take (h : Untried w) (n : Nat) : Untried (w.take n) :=
  ⟨fun p hp => h.offers p (List.mem_of_mem_eraseIdx hp), h.once.sublist (List.eraseIdx_sublist ..)⟩

/-- The prospect that is taken is of another room than those that remain. -/
theorem Untried.room_ne (h : Untried w) {n : Nat} {p q : Prospect} (hp : w.frontier[n]? = some p)
    (hq : q ∈ (w.take n).frontier) : q.room ≠ p.room := by
  obtain ⟨m, hne, hm⟩ := List.mem_eraseIdx_iff_getElem?.1 hq
  obtain ⟨hn, hpn⟩ := List.getElem?_eq_some_iff.1 hp
  obtain ⟨hm, hqm⟩ := List.getElem?_eq_some_iff.1 hm
  have hpair := List.pairwise_iff_getElem.1 h.once
  rcases Nat.lt_or_gt_of_ne hne with hlt | hlt
  · have := hpair m n hm hn hlt
    rwa [hqm, hpn] at this
  · have := hpair n m hn hm hlt
    rw [hqm, hpn] at this
    exact this.symm

/-- A new room is offered with its free sides, and nothing changes for the others. -/
theorem Untried.add (h : Untried w) (ht : Tended w) {p : Prospect}
    (hf : w'.frontier = w.frontier ++ [p]) (hp : p.room = ⟨(w.rooms.size : Int)⟩)
    (hnew : Offers w' p) (hold : ∀ q ∈ w.frontier, Offers w' q) : Untried w' := by
  constructor
  · intro q hq
    rw [hf] at hq
    rcases List.mem_append.1 hq with hq | hq
    · exact hold q hq
    · obtain rfl := List.mem_singleton.1 hq
      exact hnew
  · rw [hf, List.pairwise_append]
    refine ⟨h.once, List.pairwise_singleton _ _, fun q hq q' hq' => ?_⟩
    obtain rfl := List.mem_singleton.1 hq'
    obtain ⟨-, i, hi, hroom⟩ := ht.offered q hq
    rw [hp, hroom, ne_eq, Ref.mk.injEq]
    omega

/-- A prospect whose room gets no wall stays as it is. -/
theorem Offers.addBeside_of_ne {p : Prospect} {i : Nat} {parent room : Rect} {d : Dir}
    {layers : Span} {k : Kind} {offset : Int} (h : Offers w p) (hi : p.room ≠ ⟨(i : Int)⟩)
    (hlt : ∃ j : Nat, j < w.rooms.size ∧ p.room = ⟨(j : Int)⟩) :
    Offers (w.addBeside i parent room d layers k offset) p := by
  obtain ⟨j, hj, hroom⟩ := hlt
  refine ⟨h.1, fun m r hm hr e he => ?_⟩
  obtain rfl : j = m := by
    rw [hroom, Ref.mk.injEq] at hm
    omega
  rcases Works.getElem?_addBeside hr with ⟨-, r0, hr0, rfl⟩ | ⟨hsize, -⟩
  · rw [if_neg (fun heq => hi (by rw [hroom, heq]))]
    exact h.2 j r0 hroom hr0 e he
  · omega

theorem Offers.addUnder {p : Prospect} {room : Rect} {layers : Span} {k : Kind} (h : Offers w p)
    (hlt : ∃ j : Nat, j < w.rooms.size ∧ p.room = ⟨(j : Int)⟩) :
    Offers (w.addUnder room layers k) p := by
  obtain ⟨j, hj, hroom⟩ := hlt
  refine ⟨h.1, fun m r hm hr e he => ?_⟩
  obtain rfl : j = m := by
    rw [hroom, Ref.mk.injEq] at hm
    omega
  rcases Works.getElem?_addUnder hr with ⟨-, hr⟩ | ⟨hsize, -⟩
  · exact h.2 j r hroom hr e he
  · omega

/-- The side that was tried is not offered again; the other sides are as they were. -/
theorem Offers.addBeside_erase {p : Prospect} {i : Nat} {parent room : Rect} {d : Dir}
    {layers : Span} {k : Kind} {offset : Int} (h : Offers w p) (hi : p.room = ⟨(i : Int)⟩)
    (hlt : i < w.rooms.size) :
    Offers (w.addBeside i parent room d layers k offset) { p with sides := p.sides.erase d } := by
  refine ⟨h.1.erase d, fun m r hm hr e he => ?_⟩
  obtain ⟨hne, he⟩ := (List.Nodup.mem_erase_iff h.1).1 he
  obtain rfl : i = m := by
    change p.room = _ at hm
    rw [hi, Ref.mk.injEq] at hm
    omega
  rcases Works.getElem?_addBeside hr with ⟨-, r0, hr0, rfl⟩ | ⟨hsize, -⟩
  · rw [if_pos rfl, Room.get_addWall_of_ne hne]
    exact h.2 i r0 hi hr0 e he
  · omega

theorem offers_addBeside_new (w : Works σ) {i : Nat} {parent room : Rect} {d : Dir} {layers : Span}
    {k : Kind} {offset : Int} {basement : Bool} :
    Offers (w.addBeside i parent room d layers k offset)
      ⟨⟨(w.rooms.size : Int)⟩, Dir.all.filter fun e => decide (e ≠ d.opposite), basement⟩ := by
  refine ⟨nodup_others _, fun m r hm hr e he => ?_⟩
  have hm : w.rooms.size = m := Ref.natCast_inj.1 hm
  have hne : e ≠ d.opposite := of_decide_eq_true (List.mem_filter.1 he).2
  rcases Works.getElem?_addBeside hr with ⟨hlt, -⟩ | ⟨-, rfl⟩
  · omega
  · rw [Room.get_addWall_of_ne hne]
    exact DirMap.get_const _ _

theorem offers_addUnder_new (w : Works σ) {room : Rect} {layers : Span} {k : Kind}
    {basement : Bool} : Offers (w.addUnder room layers k)
      ⟨⟨(w.rooms.size : Int)⟩, Dir.all, basement⟩ := by
  have hall : Dir.all.Nodup := by decide
  refine ⟨hall, fun m r hm hr e he => ?_⟩
  have hm : w.rooms.size = m := Ref.natCast_inj.1 hm
  rcases Works.getElem?_addUnder hr with ⟨hlt, -⟩ | ⟨-, rfl⟩
  · omega
  · exact DirMap.get_const _ _

/-! ## Rounds -/

theorem Untried.tried {n i : Nat} {p : Prospect} {t : Option Trial} (h : Untried w)
    (ht : Tended w) (hp : w.frontier[n]? = some p) (hi : p.room = ⟨(i : Int)⟩)
    (htried : Tried src plot i (w.take n) w' t) :
    Untried w' ∧ ∀ q ∈ w'.frontier, q.room ≠ p.room := by
  obtain ⟨-, j, hj, hroom⟩ := ht.offered p (List.mem_of_getElem? hp)
  have hlt : i < w.rooms.size := by
    rw [hi, Ref.mk.injEq] at hroom
    omega
  have hnew : (⟨(w.rooms.size : Int)⟩ : Ref .room) ≠ p.room := by
    rw [hi, ne_eq, Ref.mk.injEq]
    omega
  have hold := (ht.take n).offered
  cases htried with
  | idle hend =>
    refine ⟨(h.take n).of_idle hend, fun q hq => ?_⟩
    rw [hend.frontier] at hq
    exact h.room_ne hp hq
  | beside hf hend =>
    refine ⟨Untried.of_idle ?_ hend, fun q hq => ?_⟩
    · refine (h.take n).add (ht.take n) rfl rfl (offers_addBeside_new _) fun q hq => ?_
      exact ((h.take n).offers q hq).addBeside_of_ne (hi ▸ h.room_ne hp hq) (hold q hq).2
    · rw [hend.frontier] at hq
      rcases List.mem_append.1 hq with hq | hq
      · exact h.room_ne hp hq
      · obtain rfl := List.mem_singleton.1 hq
        exact hnew
  | under hf hend =>
    refine ⟨Untried.of_idle ?_ hend, fun q hq => ?_⟩
    · refine (h.take n).add (ht.take n) rfl rfl (offers_addUnder_new _) fun q hq => ?_
      exact ((h.take n).offers q hq).addUnder (hold q hq).2
    · rw [hend.frontier] at hq
      rcases List.mem_append.1 hq with hq | hq
      · exact h.room_ne hp hq
      · obtain rfl := List.mem_singleton.1 hq
        exact hnew

/-- The prospect that goes back offers what is left to try. -/
theorem Offers.tried {n i : Nat} {p q : Prospect} {t : Option Trial} {st st' : Stream σ}
    (hs : src.Lawful) (h : Offers w p) (hi : p.room = ⟨(i : Int)⟩) (hlt : i < w.rooms.size)
    (hnext : nextTrial src p st = .ok (t, q) st') (htried : Tried src plot i (w.take n) w' t) :
    Offers w' q := by
  have hlt' : ∃ j : Nat, j < (w.take n).rooms.size ∧ p.room = ⟨(j : Int)⟩ := ⟨i, hlt, hi⟩
  have hless : ∀ {u : Works σ} {ds : List Dir} {b : Bool}, Offers u p → ds.Sublist p.sides →
      Offers u ⟨p.room, ds, b⟩ := fun hu hds =>
    ⟨hu.1.sublist hds, fun m r hm hr e he => hu.2 m r hm hr e (hds.subset he)⟩
  have hq : q.room = p.room ∧ q.sides.Sublist p.sides := by
    rcases nextTrial_cases hs hnext with ⟨d, -, -, rfl⟩ | ⟨-, -, -, rfl⟩ | ⟨-, -, rfl⟩
    · exact ⟨rfl, List.erase_sublist ..⟩
    · exact ⟨rfl, List.Sublist.refl _⟩
    · exact ⟨rfl, List.Sublist.refl _⟩
  obtain ⟨room, sides, basement⟩ := q
  obtain ⟨rfl, hsides⟩ := hq
  cases htried with
  | idle hend =>
    unfold Offers
    rw [hend.rooms]
    exact hless h hsides
  | @beside d _ _ _ _ _ _ hf hend =>
    rcases nextTrial_cases hs hnext with ⟨e, -, ht, hq⟩ | ⟨-, -, ht, -⟩ | ⟨-, ht, -⟩
    · cases ht
      cases hq
      unfold Offers
      rw [hend.rooms]
      exact Offers.addBeside_erase (w := w.take n) h hi hlt
    · cases ht
    · cases ht
  | under hf hend =>
    unfold Offers
    rw [hend.rooms]
    exact hless (Offers.addUnder (w := w.take n) h hlt') hsides

theorem Untried.giveBack (h : Untried w) {q : Prospect} (hq : Offers w q)
    (hne : ∀ p ∈ w.frontier, p.room ≠ q.room) : Untried (w.giveBack q) := by
  unfold Works.giveBack
  split
  · refine ⟨fun p hp => h.offers p ?_, ?_⟩
    · rwa [List.append_nil] at hp
    · rw [List.append_nil]
      exact h.once
  · constructor
    · intro p hp
      rcases List.mem_append.1 hp with hp | hp
      · exact h.offers p hp
      · obtain rfl := List.mem_singleton.1 hp
        exact hq
    · rw [List.pairwise_append]
      refine ⟨h.once, List.pairwise_singleton _ _, fun p hp p' hp' => ?_⟩
      obtain rfl := List.mem_singleton.1 hp'
      exact hne p hp

/-- One round keeps the frontier free of walls and of rooms that are offered twice. -/
theorem Untried.step (hs : src.Lawful) (h : Untried w) (ht : Tended w)
    (hstep : step src plot w = .ok () w') : Untried w' := by
  obtain ⟨n, p, i, t, q, st, st', v, hp, hi, hnext, htried, hend⟩ := step_cases hs ht hstep
  obtain ⟨-, j, hj, hroom⟩ := ht.offered p (List.mem_of_getElem? hp)
  have hlt : i < w.rooms.size := by
    rw [hi, Ref.mk.injEq] at hroom
    omega
  obtain ⟨hv, hne⟩ := h.tried ht hp hi htried
  refine (hv.giveBack ?_ ?_).of_idle hend
  · exact Offers.tried hs (h.offers p (List.mem_of_getElem? hp)) hi hlt hnext htried
  · rw [room_nextTrial hs hnext]
    exact hne

theorem Untried.opened (hs : src.Lawful) (h : Opened src plot w) : Untried w := by
  obtain ⟨stream, journal, door, facing, id, h⟩ := h
  obtain ⟨bounds, room, k, hf, hi⟩ := addEntrance_cases hs h
  refine Untried.of_idle ⟨fun p hp => ?_, List.pairwise_singleton _ _⟩ hi
  obtain rfl := List.mem_singleton.1 hp
  refine ⟨nodup_others _, fun m r hm hr e he => ?_⟩
  have hm : 0 = m := Ref.natCast_inj.1 hm
  subst hm
  obtain rfl := Option.some.inj hr
  have hne : e ≠ facing := of_decide_eq_true (List.mem_filter.1 he).2
  rw [Room.get_addWall_of_ne hne]
  exact DirMap.get_const _ _

theorem Untried.rounds {n : Nat} (hs : src.Lawful) (ho : Opened src plot w)
    (h : Rounds src plot w n w') : Untried w' := by
  induction h with
  | zero => exact .opened hs ho
  | succ hr hstep ih => exact ih.step hs ((Tended.opened hs ho).rounds hs hr) hstep

end Growth

end TavernLayout
