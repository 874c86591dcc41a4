import TavernLayout.Proofs.Clearance
import TavernLayout.Proofs.Growth.Rounds

/-!
# How rooms settle

Every room but the first settles next to an older one or under it, in what the other older rooms
leave of the space there. So the rooms of a building are a list in which each one has settled among
those before it.

* `space_ok`: the space that a room may use is valid and keeps to its limits;
* `Settled.sound`, `Settled.apart`: a settled room is sound and stays apart from all older ones;
* `Grown.pairwise_apart`: so all rooms stay apart;
* `grown_of_rounds`: every building that grows is such a list.
-/

namespace TavernLayout

/-! ## Rooms -/

theorem Kind.Fits.three_le {k : Kind} {r : Rect} (h : k.Fits r) (d : Dir) :
    3 ≤ d.reach r + d.opposite.reach r := by
  have hside : 3 ≤ k.sides.lo := by cases k <;> decide
  exact Int.le_trans hside (Placement.side_le_of_fits h d)

theorem Kind.Accepts.three_le {k : Kind} {r : Rect} (h : k.Accepts r) (d : Dir) :
    3 ≤ d.reach r + d.opposite.reach r :=
  h.fits.three_le d

namespace Outline

def footprint (o : Outline) : Rect := o.box.footprint

/-- The room lies in the interior, has a size that its kind accepts and is high enough. -/
structure Sound (interior : Rect) (o : Outline) : Prop where
  inside : interior.Encloses o.footprint
  accepted : o.kind.Accepts o.footprint
  high : o.box.min.z + 3 ≤ o.box.max.z

/-- One of two rooms starts at least two layers above the other. -/
def Stacked (a b : Outline) : Prop := b.box.max.z + 2 ≤ a.box.min.z ∨ a.box.max.z + 2 ≤ b.box.min.z

def Apart (a b : Outline) : Prop := a.Stacked b ∨ ¬ a.footprint.Collides b.footprint

theorem stacked_of_not_meets {a b : Outline} (h : ¬ a.box.Meets b.box.min.z b.box.max.z) :
    a.Stacked b := by
  unfold Box.Meets at h
  unfold Stacked
  omega

end Outline

/-! ## The space for a room -/

/-- How a room is joined to an older one. -/
inductive Way where
  | beside (d : Dir)
  | under

namespace Way

def space (interior parent : Rect) : Way → Rect
  | beside d => SideRoom.space interior parent d
  | under => interior

def limits (interior parent : Rect) : Way → Limits
  | beside d => SideRoom.limits parent (SideRoom.space interior parent d) d
  | under => Basement.limits parent

/-- A room beside another one shares its layers; a room under it ends two layers lower. -/
def Storey (parent new : Box) : Way → Prop
  | beside _ => new.min.z ≤ parent.min.z ∧ parent.max.z ≤ new.max.z
  | under => new.min.z + 3 ≤ new.max.z ∧ new.max.z = parent.min.z - 2

end Way

variable {interior p : Rect}

/-- The space begins two cells beyond the side, or ends there if the interior ends before. -/
theorem reach_opposite_space (interior p : Rect) (d : Dir) :
    d.opposite.reach (SideRoom.space interior p d) = -min (d.reach interior) (d.reach p + 2) := by
  cases d <;>
    simp only [SideRoom.space, Dir.opposite, Dir.reach_posX, Dir.reach_posY, Dir.reach_negX,
      Dir.reach_negY, Rect.sorted, Dir.onEdge, Dir.edge, Dir.isY, Dir.toVec2, Vec2.x_add,
      Vec2.y_add, Vec2.x_smul, Vec2.y_smul, Bool.false_eq_true, if_false, if_true] <;> omega

theorem reach_space (interior p : Rect) (d : Dir) :
    d.reach (SideRoom.space interior p d) = max (d.reach interior) (d.reach p + 2) := by
  cases d <;>
    simp only [SideRoom.space, Dir.reach_posX, Dir.reach_posY, Dir.reach_negX,
      Dir.reach_negY, Rect.sorted, Dir.onEdge, Dir.edge, Dir.isY, Dir.toVec2, Vec2.x_add,
      Vec2.y_add, Vec2.x_smul, Vec2.y_smul, Bool.false_eq_true, if_false, if_true] <;> omega

/-- Across its direction the space has the width of the interior. -/
theorem reach_across_space (hv : interior.Valid) {d e : Dir} (h1 : e ≠ d) (h2 : e ≠ d.opposite) :
    e.reach (SideRoom.space interior p d) = e.reach interior := by
  simp only [Rect.Valid] at hv
  cases d <;> cases e <;>
    first
      | exact absurd rfl h1
      | exact absurd rfl h2
      | (simp only [SideRoom.space, Dir.reach_posX, Dir.reach_posY, Dir.reach_negX,
          Dir.reach_negY, Rect.sorted, Dir.onEdge, Dir.edge, Dir.isY, Dir.toVec2, Vec2.x_add,
          Vec2.y_add, Vec2.x_smul, Vec2.y_smul, Bool.false_eq_true, if_false, if_true]
         omega)

/-- The space for a room is valid and keeps to its limits. -/
theorem space_ok (way : Way) (hin : interior.Encloses p)
    (hp : ∀ d : Dir, 3 ≤ d.reach p + d.opposite.reach p) :
    (way.space interior p).Valid ∧
      Clearance.KeepsTo (way.limits interior p) (way.space interior p) := by
  have hv : interior.Valid := by
    refine hin.valid (Dir.valid_iff_reach.2 fun d => ?_)
    have := hp d
    omega
  rw [Dir.encloses_iff_reach] at hin
  cases way with
  | beside d =>
    refine ⟨Rect.valid_sorted _, fun e l hl => ?_⟩
    simp only [Way.limits, SideRoom.limits, DirMap.get_ofFn] at hl
    split at hl
    · next he =>
      obtain rfl := Option.some.inj hl
      rw [he, Dir.sign_mul_edge_opposite]
      exact Int.le_refl _
    · next hne =>
      split at hl
      · cases hl
      · next hne' =>
        obtain rfl := Option.some.inj hl
        have h1 := hin e.opposite
        have h2 := hp e
        have h3 : e.opposite.reach (SideRoom.space interior p d) = e.opposite.reach interior := by
          refine reach_across_space hv ?_ ?_
          · intro h
            exact hne' (by rw [← h, Dir.opposite_opposite])
          · intro h
            exact hne (by rw [← e.opposite_opposite, h, Dir.opposite_opposite])
        have h4 : e.sign * e.edge (p.grow (-1)) = e.reach p + -1 := by
          rw [← Dir.reach_grow]
          rfl
        simp only [Way.space]
        omega
  | under =>
    refine ⟨hv, fun e l hl => ?_⟩
    simp only [Way.limits, Basement.limits, DirMap.get_ofFn, Option.some.injEq] at hl
    subst hl
    have h1 := hin e.opposite
    rw [Dir.sign_mul_edge_opposite, Dir.reach_grow]
    simp only [Way.space]
    omega

/-- A part of the space that is at least three wide lies in the interior. -/
theorem encloses_of_space {way : Way} {r : Rect} (hin : interior.Encloses p) (hpv : p.Valid)
    (hr : (way.space interior p).Encloses r)
    (hwide : ∀ d : Dir, 3 ≤ d.reach r + d.opposite.reach r) : interior.Encloses r := by
  cases way with
  | under => exact hr
  | beside d =>
    have hv := hin.valid hpv
    rw [Dir.encloses_iff_reach] at *
    -- corners that are crossed leave a strip too narrow for any room
    have hgap : d.reach p + 2 ≤ d.reach interior := by
      have h1 := hr d
      have h2 := hr d.opposite
      have h3 := hwide d
      have h4 := hin d
      simp only [Way.space] at h1 h2
      rw [reach_space] at h1
      rw [reach_opposite_space] at h2
      omega
    intro e
    have he := hr e
    simp only [Way.space] at he
    by_cases h1 : e = d
    · subst h1
      rw [reach_space] at he
      omega
    · by_cases h2 : e = d.opposite
      · subst h2
        rw [reach_opposite_space] at he
        have h3 := hin d.opposite
        have h4 := Dir.valid_iff_reach.1 hpv d
        omega
      · rw [reach_across_space hv h1 h2] at he
        exact he

/-- What the other rooms leave of the space for a room lies in it and keeps to its limits, and none
of them reaches into it on nearby layers. -/
theorem cleared_ok_of_sound (way : Way) {elders : List Outline} {i : Nat} {parent : Outline}
    {lo hi : Int} {fitted : Rect} (hs : ∀ o ∈ elders, o.Sound interior)
    (helder : elders[i]? = some parent)
    (h : clearSpace (way.limits interior parent.footprint) lo hi
      ((elders.eraseIdx i).map Outline.box) (way.space interior parent.footprint) = some fitted) :
    fitted.Valid ∧ (way.space interior parent.footprint).Encloses fitted ∧
      Clearance.KeepsTo (way.limits interior parent.footprint) fitted ∧
      ∀ o ∈ elders.eraseIdx i, o.box.Meets lo hi → ¬ fitted.Collides o.footprint := by
  have hp := hs parent (List.mem_of_getElem? helder)
  obtain ⟨hv, hk⟩ := space_ok way hp.inside hp.accepted.three_le
  have hvalid : ∀ b ∈ (elders.eraseIdx i).map Outline.box, b.footprint.Valid := by
    intro b hb
    obtain ⟨o, ho, rfl⟩ := List.mem_map.1 hb
    exact (hs o (List.mem_of_mem_eraseIdx ho)).accepted.1
  obtain ⟨hfv, hin, hkeeps, hclear⟩ := clearSpace_ok hv hvalid hk h
  exact ⟨hfv, hin, hkeeps, fun o ho => hclear o.box (List.mem_map_of_mem ho)⟩

/-! ## Settled rooms -/

/-- The room `new` has settled next to room `i` or under it, in what the other rooms before it left
of the space there. -/
structure Settled (interior : Rect) (elders : List Outline) (i : Nat) (parent : Outline) (way : Way)
    (fitted : Rect) (new : Outline) : Prop where
  elder : elders[i]? = some parent
  storey : way.Storey parent.box new.box
  cleared : clearSpace (way.limits interior parent.footprint) new.box.min.z new.box.max.z
    ((elders.eraseIdx i).map Outline.box) (way.space interior parent.footprint) = some fitted
  inside : fitted.Encloses new.footprint
  accepted : new.kind.Accepts new.footprint

namespace Settled

variable {elders : List Outline} {i : Nat} {parent new : Outline} {way : Way} {fitted : Rect}

theorem cleared_ok (h : Settled interior elders i parent way fitted new)
    (hs : ∀ o ∈ elders, o.Sound interior) :
    fitted.Valid ∧ (way.space interior parent.footprint).Encloses fitted ∧
      Clearance.KeepsTo (way.limits interior parent.footprint) fitted ∧
      ∀ o ∈ elders.eraseIdx i, o.box.Meets new.box.min.z new.box.max.z →
        ¬ fitted.Collides o.footprint :=
  cleared_ok_of_sound way hs h.elder h.cleared

/-- What is left of the space lies in it, and no other room of nearby layers reaches into it. -/
theorem fitted_ok (h : Settled interior elders i parent way fitted new)
    (hs : ∀ o ∈ elders, o.Sound interior) :
    (way.space interior parent.footprint).Encloses fitted ∧
      ∀ o ∈ elders.eraseIdx i, o.box.Meets new.box.min.z new.box.max.z →
        ¬ fitted.Collides o.footprint := by
  obtain ⟨-, hin, -, hclear⟩ := h.cleared_ok hs
  exact ⟨hin, hclear⟩

theorem sound (h : Settled interior elders i parent way fitted new)
    (hs : ∀ o ∈ elders, o.Sound interior) : new.Sound interior := by
  have hp := hs parent (List.mem_of_getElem? h.elder)
  have hin := (h.fitted_ok hs).1.trans h.inside
  refine ⟨encloses_of_space hp.inside hp.accepted.1 hin h.accepted.three_le, h.accepted, ?_⟩
  have hhigh := hp.high
  have hstorey := h.storey
  cases way <;> simp only [Way.Storey] at hstorey <;> omega

/-- A room beside its parent leaves a free line, a room under it a free layer. -/
theorem parent_apart (h : Settled interior elders i parent way fitted new)
    (hs : ∀ o ∈ elders, o.Sound interior) :
    parent.Stacked new ∨ ¬ (parent.footprint.grow 1).Collides new.footprint := by
  have hstorey := h.storey
  cases way with
  | under =>
    simp only [Way.Storey] at hstorey
    exact .inl (.inl (by omega))
  | beside d =>
    have hp := hs parent (List.mem_of_getElem? h.elder)
    have hin := Dir.encloses_iff_reach.1 ((h.fitted_ok hs).1.trans h.inside) d.opposite
    simp only [Way.space] at hin
    rw [reach_opposite_space] at hin
    have hnew := Dir.encloses_iff_reach.1 (h.sound hs).inside d
    have hwide := h.accepted.three_le d
    have hstart := Dir.encloses_iff_reach.1 ((h.fitted_ok hs).1.trans h.inside) d
    simp only [Way.space] at hstart
    rw [reach_space] at hstart
    refine .inr (Dir.apart_of_reach (d := d) ?_)
    rw [Dir.reach_grow]
    omega

theorem apart (h : Settled interior elders i parent way fitted new)
    (hs : ∀ o ∈ elders, o.Sound interior) {o : Outline} (ho : o ∈ elders) : o.Apart new := by
  rcases eq_or_mem_eraseIdx h.elder ho with rfl | ho
  · rcases h.parent_apart hs with hst | hfree
    · exact .inl hst
    · exact .inr fun hc => hfree (hc.mono (Rect.grow_encloses (by decide)))
  · by_cases hm : o.box.Meets new.box.min.z new.box.max.z
    · exact .inr fun hc => (h.fitted_ok hs).2 o ho hm (hc.symm.mono h.inside)
    · exact .inl (Outline.stacked_of_not_meets hm)

end Settled

/-- The rooms of a building in the order in which they were built. -/
inductive Grown (interior : Rect) : List Outline → Prop
  | first {o : Outline} : o.Sound interior → Grown interior [o]
  | next {elders : List Outline} {i : Nat} {parent new : Outline} {way : Way} {fitted : Rect} :
      Grown interior elders → Settled interior elders i parent way fitted new →
      Grown interior (elders ++ [new])

namespace Grown

variable {os : List Outline}

theorem sound (h : Grown interior os) : ∀ o ∈ os, o.Sound interior := by
  induction h with
  | first ho =>
    intro o hm
    obtain rfl := List.mem_singleton.1 hm
    exact ho
  | next hg hset ih =>
    intro o hm
    rcases List.mem_append.1 hm with hm | hm
    · exact ih o hm
    · obtain rfl := List.mem_singleton.1 hm
      exact hset.sound ih

theorem length_pos (h : Grown interior os) : 0 < os.length := by
  cases h with
  | first => exact Nat.one_pos
  | next =>
    rw [List.length_append]
    exact Nat.succ_pos _

theorem pairwise_apart (h : Grown interior os) : os.Pairwise Outline.Apart := by
  induction h with
  | first ho => exact List.pairwise_singleton _ _
  | next hg hset ih =>
    rw [List.pairwise_append]
    refine ⟨ih, List.pairwise_singleton _ _, fun a ha b hb => ?_⟩
    obtain rfl := List.mem_singleton.1 hb
    exact hset.apart hg.sound ha

/-- Every room but the first has settled among the rooms before it. -/
theorem settled (h : Grown interior os) {j : Nat} {o : Outline} (hj : 0 < j)
    (ho : os[j]? = some o) :
    Grown interior (os.take j) ∧
      ∃ i parent way fitted, Settled interior (os.take j) i parent way fitted o := by
  induction h with
  | first hs =>
    rw [List.getElem?_singleton, if_neg (by omega)] at ho
    cases ho
  | @next elders i parent new way fitted hg hset ih =>
    by_cases hlt : j < elders.length
    · rw [List.getElem?_append_left hlt] at ho
      rw [List.take_append_of_le_length (Nat.le_of_lt hlt)]
      exact ih ho
    · obtain rfl : j = elders.length := by
        have := (List.getElem?_eq_some_iff.1 ho).1
        rw [List.length_append, List.length_singleton] at this
        omega
      rw [List.getElem?_append_right (Nat.le_refl _), Nat.sub_self] at ho
      obtain rfl := Option.some.inj ho
      rw [List.take_left' rfl]
      exact ⟨hg, i, parent, way, fitted, hset⟩

end Grown

/-! ## Buildings that grow -/

section Runs

variable {σ : Type} {src : Source σ} {plot : Plot} {w w' : Works σ}

theorem elders_eraseIdx (w : Works σ) (i : Nat) :
    (w.outlines.eraseIdx i).map Outline.box = (w.rooms.items.eraseIdx i).map Room.bounds := by
  rw [Works.outlines, List.eraseIdx_map, List.map_map]
  rfl

theorem SideRoom.Found.settled {i : Nat} {d : Dir} {parent : Room} {fitted room : Rect}
    {layers : Span} {k : Kind} {offset : Int}
    (h : Found src plot w i d parent fitted room layers k offset) :
    Settled plot.interior w.outlines i parent.outline (.beside d) fitted
      ⟨k, .ofRect room layers.lo layers.hi⟩ := by
  obtain ⟨hin, hacc⟩ := h.accepts
  obtain ⟨height, wanted, -, -, hlayers⟩ := h.storey
  refine ⟨?_, ?_, ?_, hin, hacc⟩
  · rw [Works.outlines, List.getElem?_map, h.elder]
    rfl
  · rw [hlayers]
    exact ⟨Int.min_le_left .., Int.le_max_left ..⟩
  · rw [elders_eraseIdx]
    exact h.cleared

theorem Basement.Found.settled {i : Nat} {parent : Room} {fitted room : Rect} {layers : Span}
    {k : Kind} (h : Found src plot w i parent fitted room layers k) :
    Settled plot.interior w.outlines i parent.outline .under fitted
      ⟨k, .ofRect room layers.lo layers.hi⟩ := by
  obtain ⟨hin, hacc⟩ := h.accepts
  obtain ⟨height, hheight, hlayers⟩ := h.storey
  refine ⟨?_, ?_, ?_, hin, hacc⟩
  · rw [Works.outlines, List.getElem?_map, h.elder]
    rfl
  · rw [hlayers]
    constructor
    · show parent.bounds.min.z - 2 - height + 3 ≤ parent.bounds.min.z - 2
      omega
    · rfl
  · rw [elders_eraseIdx]
    exact h.cleared

namespace Growth

theorem grown_of_opened (hs : src.Lawful) (h : Opened src plot w) :
    Grown plot.interior w.outlines := by
  obtain ⟨stream, journal, door, facing, id, h⟩ := h
  obtain ⟨bounds, room, k, hf, hi⟩ := addEntrance_cases hs h
  obtain ⟨height, hheight, hbounds⟩ := hf.storey
  rw [hi.outlines, Works.outlines_addFront, hbounds]
  refine .first ⟨hf.inside, hf.accepted, ?_⟩
  simp only [Box.ofRect, Vec2.atLevel]
  omega

theorem grown_of_step (hs : src.Lawful) (ht : Tended w) (hg : Grown plot.interior w.outlines)
    (h : step src plot w = .ok () w') : Grown plot.interior w'.outlines := by
  obtain ⟨n, p, i, t, q, st, st', v, -, -, -, htried, hend⟩ := step_cases hs ht h
  rw [hend.outlines]
  change Grown plot.interior v.outlines
  cases htried with
  | idle hi =>
    rw [hi.outlines]
    exact hg
  | beside hf hi =>
    rw [hi.outlines, Works.outlines_addBeside]
    exact .next hg hf.settled
  | under hf hi =>
    rw [hi.outlines, Works.outlines_addUnder]
    exact .next hg hf.settled

/-- The rooms of a building that grows are a list in which each has settled. -/
theorem grown_of_rounds {n : Nat} (hs : src.Lawful) (ho : Opened src plot w)
    (h : Rounds src plot w n w') : Grown plot.interior w'.outlines := by
  induction h with
  | zero => exact grown_of_opened hs ho
  | succ hr hstep ih => exact grown_of_step hs ((Tended.opened hs ho).rounds hs hr) ih hstep

end Growth

end Runs

end TavernLayout
