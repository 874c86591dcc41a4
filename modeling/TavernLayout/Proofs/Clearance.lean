import TavernLayout.Layout.Clearance
import TavernLayout.Proofs.Grid.Reach

/-!
# What clearing a space leaves

A cut moves one edge of the space inwards and keeps the others. It stops where the zone around the
obstacle ends or, if that comes first, at the limit of its direction.

* `cutBack_eq_some`: what one cut leaves;
* `clearSpace_ok`: what is left at the end is a valid part of the space, keeps to the limits, and
  no obstacle of nearby layers reaches into it;
* `crowded_iff`: only a limit that stops a cut takes the free line next to an obstacle.
-/

namespace TavernLayout

namespace Clearance

variable {limits : Limits} {space zone obstacle part : Rect} {d : Dir} {lo hi : Int}

/-- Where a cut stops, counted in its direction. -/
def stop (limits : Limits) (zone : Rect) (d : Dir) : Int :=
  match limits.get d with
  | none => d.reach zone
  | some l => min (d.reach zone) (d.sign * l)

theorem stop_le_reach (limits : Limits) (zone : Rect) (d : Dir) :
    stop limits zone d ≤ d.reach zone := by
  unfold stop
  split <;> omega

/-- `part` is what `space` has beyond the line `n` of a direction. -/
structure Beyond (space : Rect) (d : Dir) (n : Int) (part : Rect) : Prop where
  start : d.opposite.reach part = -n
  rest : ∀ e, e ≠ d.opposite → e.reach part = e.reach space

theorem Beyond.along {n : Int} (h : Beyond space d n part) : d.reach part = d.reach space :=
  h.rest d (fun he => d.opposite_ne he.symm)

/-- The line of a cut without limits is the edge of the zone. -/
theorem splice_edgePoint_self (d : Dir) (zone : Rect) (c : Int) :
    d.splice (Vec2.diag (d.reach zone * d.sign)) (d.edgePoint zone c) = d.edgePoint zone c := by
  cases d <;> simp [Dir.splice, Dir.edgePoint, Dir.onEdge, Dir.edge, Dir.sign, Dir.isY]

def kept (limits : Limits) (space zone : Rect) (d : Dir) : Rect :=
  (Rect.mk (d.edgePoint space (d.ccw.edge space))
    (d.splice (Vec2.diag (stop limits zone d * d.sign))
      (d.edgePoint zone (d.cw.edge space)))).sorted

theorem cutBack_eq (limits : Limits) (space zone obstacle : Rect) (d : Dir) :
    cutBack limits space zone obstacle d =
      if d.reach space ≤ d.reach zone then none
      else if ((kept limits space zone d).inter obstacle).Valid then none
      else some (kept limits space zone d) := by
  have hnear : d.along (d.edgePoint zone (d.cw.edge space)) * d.sign = d.reach zone := by
    rw [Dir.edgePoint, Dir.along_onEdge, Dir.edge_mul_sign]
  unfold cutBack kept stop
  rw [Dir.edge_mul_sign, Dir.edge_mul_sign]
  cases limits.get d with
  | none => simp only [splice_edgePoint_self]
  | some l =>
    dsimp only
    rw [hnear, Int.mul_comm l]

theorem beyond_kept (hs : space.Valid) (h : d.reach zone < d.reach space) :
    Beyond space d (stop limits zone d) (kept limits space zone d) := by
  have hn : stop limits zone d < d.reach space := by
    have := stop_le_reach limits zone d
    omega
  unfold kept
  generalize stop limits zone d = n at *
  simp only [Rect.Valid] at hs
  constructor
  · cases d <;>
      simp only [Dir.reach_posX, Dir.reach_posY, Dir.reach_negX, Dir.reach_negY, Dir.opposite,
        Rect.sorted, Dir.edgePoint, Dir.onEdge, Dir.splice, Dir.edge, Dir.isY, Dir.sign,
        Vec2.diag, Bool.false_eq_true, if_false, if_true] at hn ⊢ <;> omega
  · intro e he
    cases d <;> cases e <;>
      first
        | exact absurd rfl he
        | (simp only [Dir.reach_posX, Dir.reach_posY, Dir.reach_negX, Dir.reach_negY,
            Rect.sorted, Dir.edgePoint, Dir.onEdge, Dir.splice, Dir.edge, Dir.isY, Dir.sign,
            Dir.cw, Dir.ccw, Vec2.diag, Bool.false_eq_true, if_false, if_true] at hn ⊢
           omega)

/-- One cut: the zone ends inside the space, the space beyond the stop is kept, and the obstacle
does not reach into it. -/
theorem cutBack_eq_some (hs : space.Valid)
    (h : cutBack limits space zone obstacle d = some part) :
    d.reach zone < d.reach space ∧ Beyond space d (stop limits zone d) part ∧
      ¬ (part.inter obstacle).Valid := by
  rw [cutBack_eq] at h
  split at h
  · cases h
  · next hlt =>
    split at h
    · cases h
    · next hfree =>
      obtain rfl := Option.some.inj h
      exact ⟨by omega, beyond_kept hs (by omega), hfree⟩

/-! ## Keeping to the limits -/

/-- No edge has been pulled back past its limit. -/
def KeepsTo (limits : Limits) (space : Rect) : Prop :=
  ∀ d l, limits.get d = some l → -d.opposite.reach space ≤ d.sign * l

/-- A cut that keeps to the limits does not move an edge outwards. -/
theorem le_stop (hk : KeepsTo limits space) (hin : space.Encloses zone) (hz : zone.Valid) :
    -d.opposite.reach space ≤ stop limits zone d := by
  have h1 := Dir.encloses_iff_reach.1 hin d.opposite
  have h2 := Dir.valid_iff_reach.1 hz d
  unfold stop
  split
  · omega
  · next l hl =>
    have := hk d l hl
    omega

theorem Beyond.valid {n : Int} (h : Beyond space d n part) (hs : space.Valid)
    (hn : n ≤ d.reach space) : part.Valid := by
  rw [Dir.valid_iff_reach] at *
  intro e
  by_cases h1 : e = d.opposite
  · subst h1
    rw [h.start, Dir.opposite_opposite, h.along]
    omega
  · by_cases h2 : e.opposite = d.opposite
    · rw [h2, h.start, h.rest e h1, show e = d by rw [← e.opposite_opposite, h2, d.opposite_opposite]]
      omega
    · rw [h.rest e h1, h.rest _ h2]
      exact hs e

theorem Beyond.encloses {n : Int} (h : Beyond space d n part)
    (hn : -d.opposite.reach space ≤ n) : space.Encloses part := by
  rw [Dir.encloses_iff_reach]
  intro e
  by_cases he : e = d.opposite
  · subst he
    rw [h.start]
    omega
  · exact Int.le_of_eq (h.rest e he)

theorem KeepsTo.beyond (hk : KeepsTo limits space)
    (h : Beyond space d (stop limits zone d) part) : KeepsTo limits part := by
  intro e l hl
  by_cases he : e.opposite = d.opposite
  · obtain rfl : e = d := by rw [← e.opposite_opposite, he, d.opposite_opposite]
    rw [h.start, stop, hl]
    dsimp only
    omega
  · rw [h.rest _ he]
    exact hk e l hl

/-! ## One obstacle -/

theorem mem_of_largest {rs : List Rect} {r : Rect} (h : largest rs = some r) : r ∈ rs := by
  have hfold : ∀ (rs : List Rect) (best : Option Rect),
      rs.foldl larger best = some r → r ∈ rs ∨ best = some r := by
    intro rs
    induction rs with
    | nil => exact fun best h => .inr h
    | cons s rs ih =>
      intro best h
      rcases ih _ h with hr | hb
      · exact .inl (List.mem_cons_of_mem _ hr)
      · rcases mem_of_larger hb with rfl | hb
        · exact .inl List.mem_cons_self
        · exact .inr hb
  rcases hfold rs none h with hr | hn
  · exact hr
  · cases hn

variable {b : Box}

def zoneOf (space obstacle : Rect) : Rect := (obstacle.grow margin).inter space

theorem valid_grow {r : Rect} {n : Int} (h : r.Valid) (hn : 0 ≤ n) : (r.grow n).Valid := by
  rw [Dir.valid_iff_reach] at *
  intro d
  have := h d
  rw [Dir.reach_grow, Dir.reach_grow]
  omega

theorem valid_zoneOf_iff (hs : space.Valid) (ho : obstacle.Valid) :
    (zoneOf space obstacle).Valid ↔ (obstacle.grow margin).Collides space :=
  Rect.valid_inter_iff (valid_grow ho (by decide)) hs

/-- An obstacle is left alone, or a cut keeps clear of it. -/
theorem avoid_cases (h : avoid limits lo hi space b = some part) :
    (part = space ∧ (b.Meets lo hi → ¬ (zoneOf space b.footprint).Valid)) ∨
    ((zoneOf space b.footprint).Valid ∧
      ∃ d, cutBack limits space (zoneOf space b.footprint) b.footprint d = some part) := by
  unfold avoid at h
  dsimp only at h
  split at h
  · next hc =>
    obtain ⟨d, -, hd⟩ := List.mem_filterMap.1 (mem_of_largest h)
    exact .inr ⟨hc.2, d, hd⟩
  · next hc =>
    obtain rfl := Option.some.inj h
    exact .inl ⟨rfl, fun hm hz => hc ⟨hm, hz⟩⟩

/-- What is left after one obstacle. -/
theorem avoid_ok (hs : space.Valid) (hb : b.footprint.Valid) (hk : KeepsTo limits space)
    (h : avoid limits lo hi space b = some part) :
    part.Valid ∧ space.Encloses part ∧ KeepsTo limits part ∧
      (b.Meets lo hi → ¬ part.Collides b.footprint) := by
  rcases avoid_cases h with ⟨rfl, hfar⟩ | ⟨hz, d, hd⟩
  · refine ⟨hs, .refl _, hk, fun hm hc => hfar hm ?_⟩
    rw [valid_zoneOf_iff hs hb]
    exact hc.symm.mono (Rect.grow_encloses (by decide))
  · obtain ⟨hlt, hbey, hfree⟩ := cutBack_eq_some hs hd
    have hstop := stop_le_reach limits (zoneOf space b.footprint) d
    have hv := hbey.valid hs (by omega)
    exact ⟨hv, hbey.encloses (le_stop hk (Rect.encloses_inter_right ..) hz), hk.beyond hbey,
      fun _ hc => hfree ((Rect.valid_inter_iff hv hb).2 hc)⟩

/-! ## Lost clearance -/

/-- The space stood against the obstacle, and what is left of it begins at a limit that lies at most
one cell behind the obstacle. -/
def Crowded (limits : Limits) (space part obstacle : Rect) : Prop :=
  space.Collides (obstacle.grow 1) ∧ ∃ d l, limits.get d = some l ∧
    d.sign * l ≤ d.reach obstacle + 1 ∧ Beyond space d (d.sign * l) part

theorem Crowded.collides (h : Crowded limits space part obstacle) :
    part.Collides (obstacle.grow 1) := by
  obtain ⟨hc, d, l, -, hle, hbey⟩ := h
  rw [Dir.collides_iff_reach] at hc ⊢
  intro e
  by_cases he : e = d.opposite
  · subst he
    rw [hbey.start, Dir.opposite_opposite, Dir.reach_grow]
    omega
  · rw [hbey.rest e he]
    exact hc e

/-- The free line next to an obstacle is lost exactly where a limit stops the cut. -/
theorem crowded_iff (hs : space.Valid) (hb : b.footprint.Valid) (hk : KeepsTo limits space)
    (h : avoid limits lo hi space b = some part) (hm : b.Meets lo hi) :
    part.Collides (b.footprint.grow 1) ↔ Crowded limits space part b.footprint := by
  refine ⟨fun ht => ?_, Crowded.collides⟩
  have hin := (avoid_ok hs hb hk h).2.1
  rcases avoid_cases h with ⟨rfl, hfar⟩ | ⟨hz, d, hd⟩
  · have hzone := (valid_zoneOf_iff hs hb).2 (ht.symm.mono (Rect.encloses_grow (by decide)))
    exact absurd hzone (hfar hm)
  · obtain ⟨hlt, hbey, -⟩ := cutBack_eq_some hs hd
    have hzone : d.reach (zoneOf space b.footprint) = d.reach b.footprint + 2 := by
      rw [zoneOf, Dir.reach_inter, Dir.reach_grow, margin] at hlt ⊢
      omega
    have hline : stop limits (zoneOf space b.footprint) d ≤ d.reach b.footprint + 1 := by
      have := Dir.collides_iff_reach.1 ht d.opposite
      rw [hbey.start, Dir.opposite_opposite, Dir.reach_grow] at this
      omega
    cases hl : limits.get d with
    | none =>
      rw [stop, hl] at hline
      dsimp only at hline
      omega
    | some l =>
      have hstop : stop limits (zoneOf space b.footprint) d = d.sign * l := by
        rw [stop, hl] at hline ⊢
        dsimp only at hline ⊢
        omega
      rw [hstop] at hline hbey
      exact ⟨ht.mono hin, d, l, hl, hline, hbey⟩

end Clearance

open Clearance

variable {limits : Limits} {lo hi : Int}

/-! ## All obstacles -/

/-- What is left after all obstacles: a valid part of the space that keeps to the limits and that
no obstacle of nearby layers reaches into. -/
theorem clearSpace_ok {bs : List Box} {space part : Rect} (hs : space.Valid)
    (hb : ∀ b ∈ bs, b.footprint.Valid) (hk : KeepsTo limits space)
    (h : clearSpace limits lo hi bs space = some part) :
    part.Valid ∧ space.Encloses part ∧ KeepsTo limits part ∧
      ∀ b ∈ bs, b.Meets lo hi → ¬ part.Collides b.footprint := by
  induction bs generalizing space with
  | nil =>
    obtain rfl := Option.some.inj h
    exact ⟨hs, .refl _, hk, fun b hb => absurd hb (by simp)⟩
  | cons a bs ih =>
    obtain ⟨mid, hmid, hrest⟩ := Option.bind_eq_some_iff.1 h
    obtain ⟨hv, hin, hk', hfree⟩ := avoid_ok hs (hb a List.mem_cons_self) hk hmid
    obtain ⟨hv', hin', hk'', hfree'⟩ :=
      ih hv (fun b hm => hb b (List.mem_cons_of_mem _ hm)) hk' hrest
    refine ⟨hv', hin.trans hin', hk'', fun b hmem hm => ?_⟩
    rcases List.mem_cons.1 hmem with rfl | hmem
    · exact fun hc => hfree hm (hc.mono hin')
    · exact hfree' b hmem hm

/-- Every obstacle has its turn, after which there is a free line next to it or it is crowded. -/
theorem turn_of_clearSpace {pre post : List Box} {b : Box} {space part : Rect}
    (hs : space.Valid) (hb : ∀ a ∈ pre ++ b :: post, a.footprint.Valid)
    (hk : KeepsTo limits space) (h : clearSpace limits lo hi (pre ++ b :: post) space = some part)
    (hm : b.Meets lo hi) :
    ∃ before after, clearSpace limits lo hi pre space = some before ∧
      avoid limits lo hi before b = some after ∧ after.Encloses part ∧
      (after.Collides (b.footprint.grow 1) ↔ Crowded limits before after b.footprint) := by
  rw [clearSpace_append] at h
  obtain ⟨before, hbefore, hrest⟩ := Option.bind_eq_some_iff.1 h
  obtain ⟨after, hafter, hpost⟩ := Option.bind_eq_some_iff.1 hrest
  obtain ⟨hv, -, hk', -⟩ :=
    clearSpace_ok hs (fun a ha => hb a (List.mem_append_left _ ha)) hk hbefore
  have hbv := hb b (by simp)
  obtain ⟨hv', -, hk'', -⟩ := avoid_ok hv hbv hk' hafter
  obtain ⟨-, hin, -⟩ := clearSpace_ok hv'
    (fun a ha => hb a (List.mem_append_right _ (List.mem_cons_of_mem _ ha))) hk'' hpost
  exact ⟨before, after, hbefore, hafter, hin, crowded_iff hv hbv hk' hafter hm⟩

end TavernLayout
