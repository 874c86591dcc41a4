import TavernLayout.Proofs.Grid.Packing
import TavernLayout.Proofs.Growth.Separation

/-!
# Growth ends

All rooms lie around at most three layers: that of the entrance and those of two basements, since
there are at most two bars and each is undermined once. Rooms around one layer have disjoint
footprints of at least sixteen cells, so there is a bound on their number. Each round uses up a
chance, and a new room brings at most four.

* `length_le_of_layers`: how many rooms lie around some layers;
* `Rooted.rounds`: three layers are enough;
* `tokens_le`: the rounds that have been run and the chances that are left;
* `grow_ok`: growth ends with nothing left, on any interior of fewer than 2^500 cells;
* `growth_ends`: the number of rooms and rounds is bounded, and growth ends, whatever the interior.
-/

namespace TavernLayout

/-! ## Rooms around some layers -/

def Outline.Around (o : Outline) (z : Int) : Prop := o.box.min.z ≤ z ∧ z ≤ o.box.max.z

instance (o : Outline) (z : Int) : Decidable (o.Around z) := inferInstanceAs (Decidable (_ ∧ _))

theorem Kind.Accepts.sixteen_le {k : Kind} {r : Rect} (h : k.Accepts r) : 16 ≤ r.cells := by
  have hx := h.three_le .posX
  have hy := h.three_le .posY
  simp only [Dir.opposite, Dir.reach_posX, Dir.reach_posY, Dir.reach_negX, Dir.reach_negY] at hx hy
  simp only [Rect.cells, Rect.size, Vec2.x_sub, Vec2.y_sub]
  have hmul : (4 : Int) * 4 ≤ (r.max.x - r.min.x + 1) * (r.max.y - r.min.y + 1) :=
    Int.mul_le_mul (by omega) (by omega) (by decide) (by omega)
  omega

variable {interior : Rect} {os : List Outline}

/-- Rooms that contain the same layer have disjoint footprints. -/
theorem separate_of_layer {z : Int} (hp : os.Pairwise Outline.Apart) (hz : ∀ o ∈ os, o.Around z) :
    (os.map Outline.footprint).Pairwise fun r s => ¬ r.Collides s := by
  rw [List.pairwise_map]
  refine hp.imp_of_mem fun {a b} ha hb hab => ?_
  rcases hab with hst | hc
  · have h1 := hz a ha
    have h2 := hz b hb
    unfold Outline.Around at h1 h2
    unfold Outline.Stacked at hst
    omega
  · exact hc

theorem length_le_of_layer {z : Int} (hv : interior.Valid) (hs : ∀ o ∈ os, o.Sound interior)
    (hp : os.Pairwise Outline.Apart) (hz : ∀ o ∈ os, o.Around z) :
    (os.length : Int) ≤ interior.cells / 16 := by
  have hcells := Rect.mul_length_le_cells (m := 16) hv
    (fun r hr => by
      obtain ⟨o, ho, rfl⟩ := List.mem_map.1 hr
      exact (hs o ho).inside)
    (separate_of_layer hp hz)
    (fun r hr => by
      obtain ⟨o, ho, rfl⟩ := List.mem_map.1 hr
      exact ⟨(hs o ho).accepted.1, (hs o ho).accepted.sixteen_le⟩)
  rw [List.length_map] at hcells
  omega

/-- Rooms that lie around some layers are at most so many for each of them. -/
theorem length_le_of_layers {zs : List Int} (hv : interior.Valid)
    (hs : ∀ o ∈ os, o.Sound interior) (hp : os.Pairwise Outline.Apart)
    (hz : ∀ o ∈ os, ∃ z ∈ zs, o.Around z) :
    (os.length : Int) ≤ zs.length * (interior.cells / 16) := by
  induction zs generalizing os with
  | nil =>
    cases os with
    | nil => simp
    | cons o os =>
      obtain ⟨z, hz, -⟩ := hz o List.mem_cons_self
      cases hz
  | cons z zs ih =>
    have hsplit := List.length_eq_length_filter_add (l := os) fun o => decide (o.Around z)
    have hfirst : ((os.filter fun o => decide (o.Around z)).length : Int) ≤
        interior.cells / 16 := by
      refine length_le_of_layer hv (fun o ho => hs o (List.mem_filter.1 ho).1)
        (hp.sublist List.filter_sublist) (z := z) fun o ho => ?_
      exact of_decide_eq_true (List.mem_filter.1 ho).2
    have hrest : ((os.filter fun o => !decide (o.Around z)).length : Int) ≤
        zs.length * (interior.cells / 16) := by
      refine ih (fun o ho => hs o (List.mem_filter.1 ho).1) (hp.sublist List.filter_sublist) ?_
      intro o ho
      obtain ⟨hm, hnot⟩ := List.mem_filter.1 ho
      obtain ⟨y, hy, hay⟩ := hz o hm
      rcases List.mem_cons.1 hy with rfl | hy
      · simp [hay] at hnot
      · exact ⟨y, hy, hay⟩
    rw [hsplit, List.length_cons, Nat.cast_add, Nat.cast_add, Int.add_mul, Nat.cast_one, Int.one_mul]
    omega

/-! ## Chances that are left -/

section Frontier

variable {σ : Type} {src : Source σ} {plot : Plot} {w w' : Works σ}

def Works.weigh (f : Prospect → Nat) (w : Works σ) : Nat := (w.frontier.map f).sum

/-- The chances that are left. -/
def Works.tokens (w : Works σ) : Nat := w.weigh Prospect.tokens

def Prospect.pending (p : Prospect) : Nat := if p.basement then 1 else 0

def Works.pending (w : Works σ) : Nat := w.weigh Prospect.pending

theorem sum_map_eraseIdx {α : Type} {f : α → Nat} {as : List α} {n : Nat} {a : α}
    (h : as[n]? = some a) : ((as.eraseIdx n).map f).sum + f a = (as.map f).sum := by
  induction as generalizing n with
  | nil => cases h
  | cons b bs ih =>
    cases n with
    | zero =>
      obtain rfl := Option.some.inj h
      rw [List.eraseIdx_cons_zero, List.map_cons, List.sum_cons]
      omega
    | succ n =>
      have := ih h
      rw [List.eraseIdx_cons_succ, List.map_cons, List.map_cons, List.sum_cons, List.sum_cons]
      omega

namespace Works

variable {f : Prospect → Nat}

theorem weigh_take {n : Nat} {p : Prospect} (h : w.frontier[n]? = some p) :
    (w.take n).weigh f + f p = w.weigh f :=
  sum_map_eraseIdx h

theorem weigh_giveBack_le (w : Works σ) (p : Prospect) :
    (w.giveBack p).weigh f ≤ w.weigh f + f p := by
  unfold weigh giveBack
  rw [List.map_append, List.sum_append]
  split
  · exact Nat.add_le_add_left (Nat.zero_le _) _
  · simp

theorem Idle.weigh (h : w.Idle w') : w'.weigh f = w.weigh f := by
  rw [Works.weigh, Works.weigh, h.frontier]

theorem weigh_append {u : Works σ} {p : Prospect} (h : u.frontier = w.frontier ++ [p]) :
    u.weigh f = w.weigh f + f p := by
  rw [weigh, weigh, h, List.map_append, List.sum_append, List.map_singleton, List.sum_singleton]

end Works

end Frontier

namespace Growth

variable {σ : Type} {src : Source σ} {plot : Plot} {w w' : Works σ}

theorem pending_nextTrial {p q : Prospect} {t : Option Trial} {st st' : Stream σ}
    (hs : src.Lawful) (h : nextTrial src p st = .ok (t, q) st') :
    q.pending + (if t = some .basement then 1 else 0) = p.pending := by
  rcases nextTrial_cases hs h with ⟨d, -, rfl, rfl⟩ | ⟨-, hb, rfl, rfl⟩ | ⟨-, rfl, rfl⟩
  · rfl
  · simp [Prospect.pending, hb]
  · rfl

theorem pending_basementKinds (k : Kind) (id : Ref .room) (sides : List Dir) :
    (Prospect.mk id sides !k.basementKinds.isEmpty).pending = if k = .bar then 1 else 0 := by
  cases k <;> rfl

/-- Every room lies around one of a few layers: each basement that was dug added one, and every bar
allows one. Besides those in the frontier, `held` more may still be dug. -/
structure Rooted (w : Works σ) (zs : List Int) (held : Nat) : Prop where
  around : ∀ o ∈ w.outlines, ∃ z ∈ zs, o.Around z
  dug : (zs.length + w.pending + held : Int) ≤ 1 + w.counts .bar
  bars : w.counts .bar ≤ 2

theorem counts_add_bar (c : Counts) (k : Kind) :
    c.add k .bar = c .bar + if k = .bar then 1 else 0 := by
  unfold Counts.add
  by_cases h : k = .bar
  · rw [if_pos h.symm, if_pos h]
  · rw [if_neg (Ne.symm h), if_neg h, Int.add_zero]

namespace Rooted

variable {zs : List Int} {m i n : Nat} {p : Prospect} {parent : Room} {fitted room : Rect}
  {layers : Span} {k : Kind}

theorem of_idle (h : Rooted w zs m) (hi : w.Idle w') : Rooted w' zs m := by
  obtain ⟨h1, h2, h3⟩ := h
  refine ⟨?_, ?_, ?_⟩
  · rw [hi.outlines]
    exact h1
  · rw [Works.pending, hi.weigh, hi.counts]
    exact h2
  · rw [hi.counts]
    exact h3

theorem opened (hs : src.Lawful) (h : Opened src plot w) : ∃ zs, Rooted w zs 0 := by
  obtain ⟨stream, journal, door, facing, id, h⟩ := h
  obtain ⟨bounds, room, k, hf, hi⟩ := addEntrance_cases hs h
  obtain ⟨height, hheight, hbounds⟩ := hf.storey
  refine ⟨[door.z], of_idle ⟨?_, ?_, ?_⟩ hi⟩
  · intro o ho
    rw [Works.outlines_addFront] at ho
    obtain rfl := List.mem_singleton.1 ho
    refine ⟨door.z, List.mem_singleton.2 rfl, ?_⟩
    rw [hbounds]
    simp only [Outline.Around, Box.ofRect, Vec2.atLevel]
    omega
  · change ((1 : Nat) + (0 : Nat) + (0 : Nat) : Int) ≤ 1 + Counts.none.add k .bar
    rcases hf.kind with rfl | rfl <;> decide
  · change Counts.none.add k .bar ≤ 2
    rcases hf.kind with rfl | rfl <;> decide

/-- A prospect that is taken holds its basement. -/
theorem take (h : Rooted w zs 0) (hp : w.frontier[n]? = some p) :
    Rooted (w.take n) zs p.pending := by
  refine ⟨h.around, ?_, h.bars⟩
  have htake : (w.take n).pending + p.pending = w.pending := Works.weigh_take hp
  have hdug := h.dug
  change _ ≤ 1 + w.counts .bar
  omega

theorem giveBack (h : Rooted w zs p.pending) : Rooted (w.giveBack p) zs 0 := by
  refine ⟨h.around, ?_, h.bars⟩
  have hback : (w.giveBack p).pending ≤ w.pending + p.pending := Works.weigh_giveBack_le w p
  have hdug := h.dug
  change _ ≤ 1 + w.counts .bar
  omega

/-- A room beside another one lies around its layer, and a bar brings a basement. -/
theorem beside {d : Dir} {offset : Int} (h : Rooted w zs m)
    (hf : SideRoom.Found src plot w i d parent fitted room layers k offset) :
    Rooted (w.addBeside i parent.footprint room d layers k offset) zs m := by
  have hcount : (w.addBeside i parent.footprint room d layers k offset).counts .bar =
      w.counts .bar + if k = .bar then 1 else 0 := counts_add_bar w.counts k
  have hpending : (w.addBeside i parent.footprint room d layers k offset).pending =
      w.pending + if k = .bar then 1 else 0 := by
    rw [Works.pending, Works.weigh_append rfl, pending_basementKinds]
    rfl
  have hdug := h.dug
  refine ⟨?_, ?_, ?_⟩
  · intro o ho
    rw [Works.outlines_addBeside] at ho
    rcases List.mem_append.1 ho with ho | ho
    · exact h.around o ho
    · obtain rfl := List.mem_singleton.1 ho
      obtain ⟨z, hz, hz1, hz2⟩ := h.around _ (List.mem_of_getElem? hf.settled.elder)
      obtain ⟨h1, h2⟩ := hf.settled.storey
      exact ⟨z, hz, Int.le_trans h1 hz1, Int.le_trans hz2 h2⟩
  · rw [hcount, hpending]
    split <;> omega
  · rw [hcount]
    split
    · next hk =>
      subst hk
      have hweight := hf.weight
      rw [Kind.sideWeight_of_ne_garden (by decide)] at hweight
      have := Kind.counting_chance_bar hweight
      omega
    · have := h.bars
      omega

/-- A room that is dug out brings a layer of its own. -/
theorem under (h : Rooted w zs (m + 1))
    (hf : Basement.Found src plot w i parent fitted room layers k) :
    Rooted (w.addUnder room layers k) (layers.lo :: zs) m := by
  obtain ⟨-, rfl⟩ := Kind.mem_basementKinds.1 hf.drawn
  have hpending : (w.addUnder room layers .cellar).pending = w.pending := by
    rw [Works.pending, Works.weigh_append rfl, pending_basementKinds]
    rfl
  refine ⟨?_, ?_, h.bars⟩
  · intro o ho
    rw [Works.outlines_addUnder] at ho
    rcases List.mem_append.1 ho with ho | ho
    · obtain ⟨z, hz, hoz⟩ := h.around o ho
      exact ⟨z, List.mem_cons_of_mem _ hz, hoz⟩
    · obtain rfl := List.mem_singleton.1 ho
      refine ⟨layers.lo, List.mem_cons_self, Int.le_refl _, ?_⟩
      have hhigh := hf.settled.storey.1
      change layers.lo + 3 ≤ layers.hi at hhigh
      change layers.lo ≤ layers.hi
      omega
  · have hdug := h.dug
    rw [hpending, List.length_cons]
    change _ ≤ 1 + w.counts .bar
    omega

theorem tried {t : Option Trial} (h : Rooted w zs (m + if t = some .basement then 1 else 0))
    (ht : Tried src plot i w w' t) : ∃ zs', Rooted w' zs' m := by
  cases ht with
  | idle hi =>
    have hdug := h.dug
    exact ⟨zs, of_idle ⟨h.around, by omega, h.bars⟩ hi⟩
  | beside hf hi => exact ⟨zs, (h.beside hf).of_idle hi⟩
  | under hf hi => exact ⟨_, (h.under hf).of_idle hi⟩

theorem step (hs : src.Lawful) (ht : Tended w) (hr : Rooted w zs 0)
    (h : Growth.step src plot w = .ok () w') : ∃ zs', Rooted w' zs' 0 := by
  obtain ⟨n, p, i, t, q, st, st', v, hp, -, hnext, htried, hend⟩ := step_cases hs ht h
  have htake := hr.take hp
  rw [← pending_nextTrial hs hnext] at htake
  obtain ⟨zs', hv⟩ := htake.tried htried
  exact ⟨zs', hv.giveBack.of_idle hend⟩

theorem rounds (hs : src.Lawful) (ho : Opened src plot w) (h : Rounds src plot w n w') :
    ∃ zs, Rooted w' zs 0 := by
  induction h with
  | zero => exact opened hs ho
  | succ hr hstep ih =>
    obtain ⟨zs, hz⟩ := ih
    exact hz.step hs ((Tended.opened hs ho).rounds hs hr) hstep

end Rooted

/-- A round uses up a chance, and a new room brings at most four. -/
theorem tokens_step (hs : src.Lawful) (ht : Tended w) (h : step src plot w = .ok () w') :
    w'.tokens + 1 + 4 * w.rooms.size ≤ w.tokens + 4 * w'.rooms.size := by
  obtain ⟨n, p, i, t, q, st, st', v, hp, -, hnext, htried, hend⟩ := step_cases hs ht h
  have hused := tokens_nextTrial hs hnext (ht.offered p (List.mem_of_getElem? hp)).1
  have htake : (w.take n).tokens + p.tokens = w.tokens := Works.weigh_take hp
  have hback : (v.giveBack q).tokens ≤ v.tokens + q.tokens := Works.weigh_giveBack_le v q
  have hw : w'.tokens = (v.giveBack q).tokens := hend.weigh
  have hsize : w'.rooms.size = v.outlines.length := by
    rw [← Works.length_outlines, hend.outlines]
    rfl
  rw [hsize, ← w.length_outlines, hw]
  cases htried with
  | idle hi =>
    have hv : v.tokens = (w.take n).tokens := hi.weigh
    rw [hi.outlines]
    change _ ≤ _ + 4 * w.outlines.length
    omega
  | @beside d _ _ _ _ k _ hf hi =>
    have hv : v.tokens = (w.take n).tokens +
        ((Dir.all.filter fun e => decide (e ≠ d.opposite)).length +
          if (!k.basementKinds.isEmpty) = true then 1 else 0) := by
      rw [Works.tokens, hi.weigh, Works.weigh_append rfl]
      rfl
    rw [length_others] at hv
    rw [hi.outlines, Works.outlines_addBeside, List.length_append, List.length_singleton]
    change _ ≤ _ + 4 * (w.outlines.length + 1)
    split at hv <;> omega
  | @under _ _ _ _ k hf hi =>
    obtain ⟨-, rfl⟩ := Kind.mem_basementKinds.1 hf.drawn
    have hv : v.tokens = (w.take n).tokens + 4 := by
      rw [Works.tokens, hi.weigh, Works.weigh_append rfl]
      rfl
    rw [hi.outlines, Works.outlines_addUnder, List.length_append, List.length_singleton]
    change _ ≤ _ + 4 * (w.outlines.length + 1)
    omega

/-- The rounds that have been run and the chances that are left, against the rooms. -/
theorem tokens_le {n : Nat} (hs : src.Lawful) (ho : Opened src plot w)
    (h : Rounds src plot w n w') : n + w'.tokens ≤ 4 * w'.rooms.size := by
  induction h with
  | zero =>
    obtain ⟨stream, journal, door, facing, id, h⟩ := ho
    obtain ⟨bounds, room, k, hf, hi⟩ := addEntrance_cases hs h
    have htokens : w.tokens = 3 := by
      rw [Works.tokens, hi.weigh]
      exact length_others facing
    have hsize : w.rooms.size = 1 := by
      rw [← w.length_outlines, hi.outlines, Works.outlines_addFront]
      rfl
    omega
  | succ hr hstep ih =>
    have := tokens_step hs ((Tended.opened hs ho).rounds hs hr) hstep
    omega

/-- The number of rooms is bounded by the size of the interior. -/
theorem rooms_le {n : Nat} (hs : src.Lawful) (ho : Opened src plot w)
    (h : Rounds src plot w n w') : (w'.rooms.size : Int) ≤ 3 * (plot.interior.cells / 16) := by
  obtain ⟨zs, hz⟩ := Rooted.rounds hs ho h
  have hg := grown_of_rounds hs ho h
  have hzs : zs.length ≤ 3 := by
    have := hz.dug
    have := hz.bars
    omega
  have hfirst := hg.sound _ (List.getElem_mem hg.length_pos)
  have hv := hfirst.inside.valid hfirst.accepted.1
  have hcells := Rect.cells_le_of_encloses hfirst.inside hfirst.accepted.1
  have hsixteen := hfirst.accepted.sixteen_le
  have hle := length_le_of_layers hv hg.sound hg.pairwise_apart hz.around
  rw [Works.length_outlines] at hle
  have hmul : (zs.length : Int) * (plot.interior.cells / 16) ≤ 3 * (plot.interior.cells / 16) :=
    Int.mul_le_mul_of_nonneg_right (by omega) (by omega)
  omega

/-! ## The loop -/

theorem run_of_frontier_nil (fuel : Nat) (h : w.frontier = []) :
    run src plot fuel w = .ok () w := by
  cases fuel with
  | zero =>
    show (get >>= fun v => if v.frontier ≠ [] then throw .unfinished else pure () :
      Build σ Unit) w = _
    refine bind_eq_ok_iff.2 ⟨w, w, rfl, ?_⟩
    rw [if_neg (by simpa using h)]
    rfl
  | succ fuel =>
    show (get >>= fun v => if v.frontier ≠ [] then step src plot >>= fun _ => run src plot fuel
      else pure () : Build σ Unit) w = _
    refine bind_eq_ok_iff.2 ⟨w, w, rfl, ?_⟩
    rw [if_neg (by simpa using h)]
    rfl

theorem run_succ (fuel : Nat) (h : w.frontier ≠ []) :
    run src plot (fuel + 1) w = (step src plot >>= fun _ => run src plot fuel) w := by
  show (get >>= fun v => if v.frontier ≠ [] then step src plot >>= fun _ => run src plot fuel
    else pure () : Build σ Unit) w = _
  show (if w.frontier ≠ [] then step src plot >>= fun _ => run src plot fuel
    else pure () : Build σ Unit) w = _
  rw [if_pos h]

theorem frontier_eq_nil (ht : Tended w) (h : w.tokens = 0) : w.frontier = [] := by
  cases hw : w.frontier with
  | nil => rfl
  | cons p ps =>
    have hp := (ht.offered p (by rw [hw]; exact List.mem_cons_self)).1
    have hzero : p.tokens = 0 := by
      rw [Works.tokens, Works.weigh, hw, List.map_cons, List.sum_cons] at h
      omega
    rw [Prospect.tokens_eq_zero_iff.1 hzero] at hp
    cases hp

/-- On finite ground, only the number of rooms can stop a round. -/
theorem overflow_of_step {e : Fault} (hs : src.Lawful) (hf : plot.terrain.FiniteAltitudes)
    (ht : Tended w) (hne : w.frontier ≠ []) (h : step src plot w = .error e w') :
    e = .overflow ∧ 2 ^ 500 ≤ w.rooms.size := by
  refine (ends_step (P := fun e => e = .overflow ∧ 2 ^ 500 ≤ w.rooms.size) hs ht hne
    (fun c e he => ?_) fun l e he => ?_).2 e w' h
  · obtain ⟨n, hn⟩ := Terrain.floorLevel_ok hf c
    rw [hn] at he
    cases he
  · have hcount := ht.counted l
    have hle : w.outlines.countP (fun o => decide (o.kind = l)) ≤ w.rooms.size := by
      rw [← w.length_outlines]
      exact List.countP_le_length
    obtain ⟨he, hbig⟩ := Kind.sideWeight_error (by omega) he
    exact ⟨he, by omega⟩

/-- With enough fuel the loop ends, or it stops where the number of rooms overflows. -/
theorem run_ends {m : Nat} (hs : src.Lawful) (hf : plot.terrain.FiniteAltitudes)
    (ho : Opened src plot w) (hm : ∀ n v, Rounds src plot w n v → v.rooms.size ≤ m) {fuel n : Nat}
    {u : Works σ} (hu : Rounds src plot w n u) (hfuel : 4 * m ≤ fuel + n) :
    ∃ k v, Rounds src plot w k v ∧
      ((v.frontier = [] ∧ run src plot fuel u = .ok () v) ∨
        (2 ^ 500 ≤ v.rooms.size ∧ ∃ t, run src plot fuel u = .error .overflow t)) := by
  induction fuel generalizing n u with
  | zero =>
    -- as many rounds have been run as there were chances, so none is left
    have htokens := tokens_le hs ho hu
    have hsize := hm n u hu
    have hnil := frontier_eq_nil ((Tended.opened hs ho).rounds hs hu) (by omega)
    exact ⟨n, u, hu, .inl ⟨hnil, run_of_frontier_nil 0 hnil⟩⟩
  | succ fuel ih =>
    by_cases hnil : u.frontier = []
    · exact ⟨n, u, hu, .inl ⟨hnil, run_of_frontier_nil _ hnil⟩⟩
    · have ht := (Tended.opened hs ho).rounds hs hu
      rw [run_succ fuel hnil]
      cases hstep : step src plot u with
      | ok x v =>
        have hbind : (step src plot >>= fun _ => run src plot fuel) u = run src plot fuel v := by
          simp only [bind, EStateM.bind, hstep]
        rw [hbind]
        exact ih (.succ hu hstep) (by omega)
      | error e t =>
        have hbind : (step src plot >>= fun _ => run src plot fuel) u = .error e t := by
          simp only [bind, EStateM.bind, hstep]
        obtain ⟨rfl, hbig⟩ := overflow_of_step hs hf ht hnil hstep
        rw [hbind]
        exact ⟨n, u, hu, .inr ⟨hbig, t, rfl⟩⟩

theorem encloses_foldl_hull (fs : List Rect) (r : Rect) :
    (fs.foldl (fun r s => r.hull s.sorted) r).Encloses r := by
  induction fs generalizing r with
  | nil => exact .refl _
  | cons s fs ih =>
    refine (ih _).trans ?_
    simp only [Rect.Encloses, Rect.hull]
    omega

/-- The loop is given enough fuel. -/
theorem le_bound (hv : plot.interior.Valid) (hw : w.frontier.length = 1) :
    4 * (3 * (plot.interior.cells / 16)) ≤ (bound plot w : Int) := by
  have hin : (extent plot w).Encloses plot.interior := by
    have hhull := encloses_foldl_hull (w.rooms.items.map Room.footprint) plot.interior.sorted
    rw [Rect.sorted_eq_self hv] at hhull
    unfold extent
    rw [Rect.sorted_eq_self hv]
    exact (Rect.grow_encloses (by decide)).trans hhull
  have hcells := Rect.cells_le_of_encloses hin hv
  unfold bound
  rw [hw]
  dsimp only
  omega

/-- Growth ends with an empty frontier, or with so many rooms that their number overflows. -/
theorem grow_ends (hs : src.Lawful) (hf : plot.terrain.FiniteAltitudes)
    (ho : Opened src plot w) : ∃ n w', Rounds src plot w n w' ∧
      ((w'.frontier = [] ∧ grow src plot w = .ok () w') ∨
        (2 ^ 500 ≤ w'.rooms.size ∧ ∃ u, grow src plot w = .error .overflow u)) := by
  have hone : w.frontier.length = 1 := by
    obtain ⟨stream, journal, door, facing, id, h⟩ := ho
    obtain ⟨bounds, room, k, -, hi⟩ := addEntrance_cases hs h
    rw [hi.frontier]
    rfl
  have hg := grown_of_opened hs ho
  have hfirst := hg.sound _ (List.getElem_mem hg.length_pos)
  have hfuel := le_bound (w := w) (hfirst.inside.valid hfirst.accepted.1) hone
  have hstart : grow src plot w = run src plot (bound plot w) w := rfl
  rw [hstart]
  refine run_ends (m := (3 * (plot.interior.cells / 16)).toNat) hs hf ho ?_ .zero (by omega)
  intro n v hv
  have := rooms_le hs ho hv
  omega

/-- In an interior of fewer than 2^500 cells the number of rooms cannot overflow. -/
theorem grow_ok (hs : src.Lawful) (hf : plot.terrain.FiniteAltitudes) (ho : Opened src plot w)
    (hsmall : plot.interior.cells < 2 ^ 500) :
    ∃ n w', Rounds src plot w n w' ∧ w'.frontier = [] ∧ grow src plot w = .ok () w' := by
  obtain ⟨n, w', hr, ⟨hnil, hok⟩ | ⟨hmany, -⟩⟩ := grow_ends hs hf ho
  · exact ⟨n, w', hr, hnil, hok⟩
  · have := rooms_le hs ho hr
    omega

/-- Growth keeps to its bounds and ends with an empty frontier. The one exception is a building of
more than 2^500 rooms, whose number overflows in the weight of the next one. -/
theorem growth_ends (hs : src.Lawful) (hf : plot.terrain.FiniteAltitudes)
    (ho : Opened src plot w) :
    (∀ n w', Rounds src plot w n w' →
      (w'.rooms.size : Int) ≤ 3 * (plot.interior.cells / 16) ∧ n ≤ 4 * w'.rooms.size) ∧
    ∃ n w', Rounds src plot w n w' ∧
      ((w'.frontier = [] ∧ grow src plot w = .ok () w') ∨
        (2 ^ 500 ≤ w'.rooms.size ∧ ∃ u, grow src plot w = .error .overflow u)) := by
  refine ⟨fun n w' h => ⟨rooms_le hs ho h, ?_⟩, grow_ends hs hf ho⟩
  have := tokens_le hs ho h
  omega

/-- The interior of the small plot has room for 120 rooms at most. -/
theorem growth_of_smallPlot_ends : ∃ w : Works Script, Opened Script.source smallPlot w ∧
    (∀ n w', Rounds Script.source smallPlot w n w' →
      w'.rooms.size ≤ 120 ∧ n ≤ 4 * w'.rooms.size) ∧
    ∃ n w', Rounds Script.source smallPlot w n w' ∧ w'.frontier = [] ∧
      grow Script.source smallPlot w = .ok () w' := by
  obtain ⟨w, w', ho, -, -⟩ := rounds_of_survey survey_smallPlot
  obtain ⟨hbounds, -⟩ := growth_ends Script.lawful_source finiteAltitudes_smallPlot ho
  have hcells : smallPlot.interior.cells = 651 := by decide
  refine ⟨w, ho, fun n w' h => ?_, ?_⟩
  · obtain ⟨hrooms, hrounds⟩ := hbounds n w' h
    exact ⟨by omega, hrounds⟩
  · exact grow_ok Script.lawful_source finiteAltitudes_smallPlot ho (by omega)

end Growth

end TavernLayout
