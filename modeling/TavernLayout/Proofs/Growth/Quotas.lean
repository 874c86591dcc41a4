import TavernLayout.Proofs.Growth.Bound
import TavernLayout.Proofs.Growth.Descent

/-!
# Quotas

How many rooms of a kind there may be is decided by weights only: a kind that the building has
enough of has the weight zero, and lotteries drop it. The weights follow the counts, which follow
the rooms. A basement is not counted against a quota; its bar offers it once.

* `Rationed`, `Rationed.step`: one stage at most, and gardens in warm places only, since the
  temperature is a factor of their weight;
* `Mined`, `Mined.step`: no two rooms are dug out under the same bar;
* `quotas_hold`: all quotas, after the entrance and any number of rounds.
-/

namespace TavernLayout

variable {σ : Type} {src : Source σ} {plot : Plot} {w w' : Works σ} {es : List Event}

namespace Growth

/-! ## Stages and gardens -/

/-- What one round adds: nothing, or one room, a cellar or of a kind that had a weight. -/
theorem added_of_step (hs : src.Lawful) (ht : Tended w) (h : step src plot w = .ok () w') :
    (w'.outlines = w.outlines ∧ w'.counts = w.counts) ∨
    ∃ o : Outline, w'.outlines = w.outlines ++ [o] ∧ w'.counts = w.counts.add o.kind ∧
      (o.kind = .cellar ∨
        Kind.Counting (o.kind.sideWeight (w.counts o.kind) plot.temperature)) := by
  obtain ⟨n, p, i, t, q, st, st', v, -, -, -, htried, hend⟩ := step_cases hs ht h
  have hout : w'.outlines = v.outlines := hend.outlines
  have hcounts : w'.counts = v.counts := hend.counts
  rw [hout, hcounts]
  cases htried with
  | idle hi => exact .inl ⟨hi.outlines, hi.counts⟩
  | @beside d parent fitted room layers k offset hf hi =>
    refine .inr ⟨⟨k, .ofRect room layers.lo layers.hi⟩, ?_, hi.counts, .inr hf.weight⟩
    rw [hi.outlines]
    exact Works.outlines_addBeside ..
  | @under parent fitted room layers k hf hi =>
    refine .inr ⟨⟨k, .ofRect room layers.lo layers.hi⟩, ?_, hi.counts,
      .inl (Kind.mem_basementKinds.1 hf.drawn).2⟩
    rw [hi.outlines]
    exact Works.outlines_addUnder ..

structure Rationed (plot : Plot) (w : Works σ) : Prop where
  stage : w.counts .stage ≤ 1
  warm : ∀ o ∈ w.outlines, o.kind = .garden → 0.0 < plot.temperature

theorem Rationed.opened (hs : src.Lawful) (h : Opened src plot w) : Rationed plot w := by
  obtain ⟨stream, journal, door, facing, id, h⟩ := h
  obtain ⟨bounds, room, k, hd, hi⟩ := drawn_of_addEntrance hs h
  constructor
  · rw [hi.counts]
    change Counts.none.add k .stage ≤ 1
    rcases hd.kind with rfl | rfl <;> decide
  · intro o ho hk
    rw [hi.outlines, Works.outlines_addFront] at ho
    obtain rfl := List.mem_singleton.1 ho
    exact hd.warm hk

/-- A garden is drawn only where it is warm: the first one because of its weight, and the others
because there is one already. -/
theorem Rationed.warm_of_garden (hr : Rationed plot w) (ht : Tended w)
    (h : Kind.Counting (Kind.garden.sideWeight (w.counts .garden) plot.temperature)) :
    0.0 < plot.temperature := by
  have hcount := ht.counted .garden
  by_cases hnone : w.outlines.countP (fun o => decide (o.kind = .garden)) = 0
  · rw [hcount, hnone] at h
    exact Kind.warm_of_counting h
  · obtain ⟨o, ho, hk⟩ := List.countP_pos_iff.1 (Nat.pos_of_ne_zero hnone)
    exact hr.warm o ho (of_decide_eq_true hk)

/-- A stage is drawn only while there is none, and a garden only where it is warm. -/
theorem Rationed.step (hs : src.Lawful) (ht : Tended w) (hr : Rationed plot w)
    (h : step src plot w = .ok () w') : Rationed plot w' := by
  rcases added_of_step hs ht h with ⟨hout, hcounts⟩ | ⟨o, hout, hcounts, hweight⟩
  · constructor
    · rw [hcounts]
      exact hr.stage
    · rw [hout]
      exact hr.warm
  · constructor
    · rw [hcounts]
      unfold Counts.add
      split
      · next hk =>
        have hcount : Kind.Counting (Kind.stage.chance (w.counts .stage)) := by
          rw [← hk] at hweight
          rw [← Kind.sideWeight_of_ne_garden (by decide)]
          exact hweight.resolve_left (by decide)
        have hnone := Kind.counting_chance_stage hcount
        omega
      · exact hr.stage
    · intro p hp hk
      rw [hout] at hp
      rcases List.mem_append.1 hp with hp | hp
      · exact hr.warm p hp hk
      · obtain rfl := List.mem_singleton.1 hp
        rw [hk] at hweight
        exact hr.warm_of_garden ht (hweight.resolve_left (by decide))

theorem Rationed.rounds {n : Nat} (hs : src.Lawful) (ho : Opened src plot w)
    (h : Rounds src plot w n w') : Rationed plot w' := by
  induction h with
  | zero => exact .opened hs ho
  | succ hr hstep ih => exact ih.step hs ((Tended.opened hs ho).rounds hs hr) hstep

/-! ## Basements -/

/-- No two rooms were dug out under the same room, which must exist, and none under a room that
still offers a basement. -/
structure Mined (es : List Event) (w : Works σ) : Prop where
  once : es.Pairwise fun e f => ∀ room other parent, e.Tells room parent → ¬ f.Tells other parent
  known : ∀ e ∈ es, ∀ room parent, e.Tells room parent →
    ∃ i : Nat, i < w.rooms.size ∧ parent = ⟨(i : Int)⟩
  fresh : ∀ p ∈ w.frontier, p.basement = true → ∀ e ∈ es, ∀ room, ¬ e.Tells room p.room

/-- The frontier after a trial: the prospects that were left, and the new room, which is none of the
old ones. -/
theorem mem_frontier_tried {i : Nat} {t : Option Trial} {v : Works σ}
    (h : Tried src plot i w v t) {p : Prospect} (hp : p ∈ v.frontier) :
    p ∈ w.frontier ∨ p.room = ⟨(w.rooms.size : Int)⟩ := by
  cases h with
  | idle hi =>
    rw [hi.frontier] at hp
    exact .inl hp
  | beside hf hi =>
    rw [hi.frontier] at hp
    rcases List.mem_append.1 hp with hp | hp
    · exact .inl hp
    · exact .inr (by rw [List.mem_singleton.1 hp])
  | under hf hi =>
    rw [hi.frontier] at hp
    rcases List.mem_append.1 hp with hp | hp
    · exact .inl hp
    · exact .inr (by rw [List.mem_singleton.1 hp])

theorem mem_frontier_giveBack {v : Works σ} {p q : Prospect} (h : p ∈ (v.giveBack q).frontier) :
    p ∈ v.frontier ∨ p = q := by
  rcases List.mem_append.1 h with h | h
  · exact .inl h
  · split at h
    · cases h
    · exact .inr (List.mem_singleton.1 h)

theorem Mined.opened (w : Works σ) : Mined [] w :=
  ⟨.nil, fun _ he => absurd he List.not_mem_nil, fun _ _ _ _ he => absurd he List.not_mem_nil⟩

/-- Events that tell of no basement. -/
theorem Mined.quiet (h : Mined es w) {fs : List Event} (hquiet : ∀ e ∈ fs, e.Quiet)
    (hgrow : w.rooms.size ≤ w'.rooms.size)
    (hold : ∀ p ∈ w'.frontier, p.basement = true → ∀ e ∈ es, ∀ room, ¬ e.Tells room p.room) :
    Mined (es ++ fs) w' := by
  constructor
  · rw [List.pairwise_append]
    refine ⟨h.once, List.pairwise_of_forall_mem_list ?_, ?_⟩
    · exact fun e he f _ room other parent ht _ => hquiet e he room parent ht
    · exact fun e _ f hf room other parent _ ht => hquiet f hf other parent ht
  · intro e he room parent ht
    rcases List.mem_append.1 he with he | he
    · obtain ⟨i, hi, hparent⟩ := h.known e he room parent ht
      exact ⟨i, by omega, hparent⟩
    · exact absurd ht (hquiet e he room parent)
  · intro p hp hb e he room
    rcases List.mem_append.1 he with he | he
    · exact hold p hp hb e he room
    · exact hquiet e he room p.room

/-- A room that was dug out under room `i`, which offers no basement any more. -/
theorem Mined.dig (h : Mined es w) {i : Nat} {new : Ref .room} {k : Kind} (hi : i < w.rooms.size)
    (hgrow : w.rooms.size ≤ w'.rooms.size)
    (hfirst : ∀ e ∈ es, ∀ room, ¬ e.Tells room ⟨(i : Int)⟩)
    (hold : ∀ p ∈ w'.frontier, p.basement = true →
      p.room ≠ ⟨(i : Int)⟩ ∧ ∀ e ∈ es, ∀ room, ¬ e.Tells room p.room) :
    Mined (es ++ [.dug new ⟨(i : Int)⟩ k]) w' := by
  have hparent : ∀ room parent, (Event.dug new ⟨(i : Int)⟩ k).Tells room parent →
      parent = ⟨(i : Int)⟩ := by
    rintro room parent ⟨l, hl⟩
    cases hl
    rfl
  constructor
  · rw [List.pairwise_append]
    refine ⟨h.once, List.pairwise_singleton _ _, fun e he f hf room other parent ht ht' => ?_⟩
    obtain rfl := List.mem_singleton.1 hf
    obtain rfl := hparent other parent ht'
    exact hfirst e he room ht
  · intro e he room parent ht
    rcases List.mem_append.1 he with he | he
    · obtain ⟨j, hj, hroom⟩ := h.known e he room parent ht
      exact ⟨j, by omega, hroom⟩
    · obtain rfl := List.mem_singleton.1 he
      exact ⟨i, by omega, hparent room parent ht⟩
  · intro p hp hb e he room ht
    obtain ⟨hother, hnone⟩ := hold p hp hb
    rcases List.mem_append.1 he with he | he
    · exact hnone e he room ht
    · obtain rfl := List.mem_singleton.1 he
      exact hother (hparent room p.room ht)

/-- A prospect that goes back and still offers a basement has offered it before. -/
theorem basement_of_nextTrial {p q : Prospect} {t : Option Trial} {st st' : Stream σ}
    (hs : src.Lawful) (h : nextTrial src p st = .ok (t, q) st') (hq : q.basement = true) :
    p.basement = true ∧ t ≠ some .basement := by
  rcases nextTrial_cases hs h with ⟨d, -, rfl, rfl⟩ | ⟨-, -, -, rfl⟩ | ⟨-, rfl, rfl⟩
  · exact ⟨hq, by simp⟩
  · exact absurd hq (by simp)
  · exact ⟨hq, by simp⟩

/-- A round that digs uses up the basement of its prospect, and nobody offers it again. -/
theorem Mined.step (hs : src.Lawful) (ht : Tended w) (hu : Untried w) (hm : Mined es w)
    (h : Growth.step src plot w = .ok () w') :
    ∃ fs, w'.journal = w.journal ++ fs ∧ Mined (es ++ fs) w' := by
  obtain ⟨n, p, i, t, q, st, st', v, fs, hp, hroom, hnext, htried, ⟨hfs, htold⟩, rfl⟩ :=
    told_of_step hs ht h
  have hpmem := List.mem_of_getElem? hp
  obtain ⟨-, j, hj, hpj⟩ := ht.offered p hpmem
  obtain rfl : i = j := Ref.natCast_inj.1 (hroom.symm.trans hpj)
  have hgrow : (w.take n).rooms.size ≤ v.rooms.size := rooms_le_of_tried htried
  -- who still offers a basement: another room of the frontier, the new room, or the room tried
  have hfront : ∀ r ∈ (v.giveBack q).frontier, r.basement = true → r ∈ (w.take n).frontier ∨
      r.room = ⟨(w.rooms.size : Int)⟩ ∨ (r = q ∧ p.basement = true ∧ t ≠ some .basement) := by
    intro r hr hb
    rcases mem_frontier_giveBack hr with hr | rfl
    · exact (mem_frontier_tried htried hr).imp_right .inl
    · exact .inr (.inr ⟨rfl, basement_of_nextTrial hs hnext hb⟩)
  have hold : ∀ r ∈ (v.giveBack q).frontier, r.basement = true →
      ∀ e ∈ es, ∀ room, ¬ e.Tells room r.room := by
    intro r hr hb e he room htells
    rcases hfront r hr hb with hr | hr | ⟨rfl, hpb, -⟩
    · exact hm.fresh r (List.mem_of_mem_eraseIdx hr) hb e he room htells
    · obtain ⟨m, hlt, hrm⟩ := hm.known e he room r.room htells
      have hsize : w.rooms.size = m := Ref.natCast_inj.1 (hr.symm.trans hrm)
      omega
    · rw [room_nextTrial hs hnext] at htells
      exact hm.fresh p hpmem hpb e he room htells
  refine ⟨fs, hfs, ?_⟩
  rcases htold with ⟨hquiet, -⟩ | ⟨-, ht, k, rfl⟩
  · exact hm.quiet hquiet hgrow hold
  · have hpb : p.basement = true := by
      rcases nextTrial_cases hs hnext with ⟨d, -, hd, -⟩ | ⟨-, hb, -, -⟩ | ⟨-, hnone, -⟩
      · cases hd.symm.trans ht
      · exact hb
      · cases hnone.symm.trans ht
    refine hm.dig hj hgrow ?_ fun r hr hb => ⟨fun hri => ?_, hold r hr hb⟩
    · rw [← hroom]
      exact hm.fresh p hpmem hpb
    · rcases hfront r hr hb with hr | hr | ⟨rfl, -, hne⟩
      · exact hu.room_ne hp hr (hri.trans hroom.symm)
      · have hsize : w.rooms.size = i := Ref.natCast_inj.1 (hr.symm.trans hri)
        omega
      · exact hne ht

theorem Mined.rounds {n : Nat} (hs : src.Lawful) (ho : Opened src plot w)
    (h : Rounds src plot w n w') : ∃ es, w'.journal = w.journal ++ es ∧ Mined es w' := by
  induction h with
  | zero => exact ⟨[], (List.append_nil _).symm, .opened w⟩
  | succ hr hstep ih =>
    obtain ⟨es, hes, hm⟩ := ih
    have ht := (Tended.opened hs ho).rounds hs hr
    obtain ⟨fs, hfs, hm'⟩ := hm.step hs ht (.rounds hs ho hr) hstep
    exact ⟨es ++ fs, by rw [hfs, hes, List.append_assoc], hm'⟩

end Growth

/-! ## All quotas -/

def Works.tally (w : Works σ) (k : Kind) : Nat :=
  w.rooms.items.countP fun r => decide (r.kind = k)

theorem Works.countP_outlines (w : Works σ) (k : Kind) :
    w.outlines.countP (fun o => decide (o.kind = k)) = w.tally k := by
  rw [Works.outlines, List.countP_map]
  rfl

/-- The quotas of the rooms of a building; `es` tells which of them were dug out. -/
structure Quotas (plot : Plot) (es : List Event) (w : Works σ) : Prop where
  counted : ∀ k, w.counts k = w.tally k
  stage : w.tally .stage ≤ 1
  bars : w.tally .bar ≤ 2
  /-- Rooms are dug out under bars, and no two under the same one. -/
  dug : ∀ e ∈ es, ∀ room parent, e.Tells room parent →
    ∃ bar, w.rooms.lookup parent = .ok bar ∧ bar.kind = .bar
  once : es.Pairwise fun e f => ∀ room other parent, e.Tells room parent → ¬ f.Tells other parent
  cellars : ∀ c ∈ w.rooms.items, c.kind = .cellar → ∃ b ∈ w.rooms.items, b.kind = .bar
  warm : ∀ r ∈ w.rooms.items, r.kind = .garden → 0.0 < plot.temperature
  cold : plot.temperature ≤ 0.0 ∨ plot.temperature.isNaN = true →
    ∀ r ∈ w.rooms.items, r.kind ≠ .garden

namespace Growth

/-- After the entrance and any number of rounds, the rooms keep to the quotas. -/
theorem quotas_hold {n : Nat} (hs : src.Lawful) (ho : Opened src plot w)
    (h : Rounds src plot w n w') : ∃ es, w'.journal = w.journal ++ es ∧ Quotas plot es w' := by
  obtain ⟨es, hes, hb⟩ := built_of_rounds hs ho h
  have hforest := forest_of_built hs hb
  obtain ⟨fs, hfs, hmined⟩ := Mined.rounds hs ho h
  obtain rfl : es = fs := List.append_cancel_left (hes.symm.trans hfs)
  obtain ⟨zs, hrooted⟩ := Rooted.rounds hs ho h
  have hrationed := Rationed.rounds hs ho h
  have hcounted : ∀ k, w'.counts k = w'.tally k := by
    intro k
    rw [((Tended.opened hs ho).rounds hs h).counted k, w'.countP_outlines k]
  have hwarm : ∀ r ∈ w'.rooms.items, r.kind = .garden → 0.0 < plot.temperature := fun r hr hk =>
    hrationed.warm r.outline (List.mem_map_of_mem hr) hk
  have hdug : ∀ e ∈ es, ∀ room parent, e.Tells room parent →
      ∃ bar, w'.rooms.lookup parent = .ok bar ∧ bar.kind = .bar := by
    intro e he room parent ht
    obtain ⟨i, j, rfl, rfl, -, ⟨o, p, hbar, -, hbk, -⟩, -⟩ := hforest.dug e he room parent ht
    obtain ⟨b, hb, rfl⟩ := Works.room_of_outlines hbar
    exact ⟨b, Store.lookup_natCast_iff.2 hb, hbk⟩
  refine ⟨es, hes, hcounted, ?_, ?_, hdug, hmined.once, ?_, hwarm, ?_⟩
  · have hstage := hrationed.stage
    rw [hcounted] at hstage
    omega
  · have hbars := hrooted.bars
    rw [hcounted] at hbars
    omega
  · intro c hc hk
    obtain ⟨j, hj⟩ := List.mem_iff_getElem?.1 hc
    obtain ⟨m, ⟨e, he, parent, ht⟩, -⟩ :=
      hforest.connected_dug j (Works.getElem?_outlines hj) hk
    obtain ⟨b, hlookup, hbk⟩ := hdug e he _ parent ht
    exact ⟨b, Store.mem_of_lookup hlookup, hbk⟩
  · exact fun hcold r hr hk => Number.not_pos_iff.2 hcold (hwarm r hr hk)

/-- Where it is not warm, a building may still have a bar and a cellar under it. -/
theorem quotas_of_cellar : ∃ (w w' : Works Script) (es : List Event),
    Opened Script.source smallPlot w ∧ Rounds Script.source smallPlot w 5 w' ∧
    w'.outlines.map (·.kind) = [.entrance, .bar, .seating, .cellar] ∧
    smallPlot.temperature ≤ 0.0 ∧ w'.journal = w.journal ++ es ∧ Quotas smallPlot es w' := by
  obtain ⟨w, w', ho, hr, hos⟩ := rounds_of_survey survey_cellar
  obtain ⟨es, hes, hquotas⟩ := quotas_hold Script.lawful_source ho hr
  exact ⟨w, w', es, ho, hr, by rw [hos]; rfl, by decide, hes, hquotas⟩

end Growth

end TavernLayout
