import TavernLayout.Proofs.Growth.Settling
import TavernLayout.Random.Script

/-!
# Rooms stay apart

In every building that grows, all rooms are sound, and no two of them share a voxel: their
footprints have no cell in common or a free layer lies between them. On near levels there is a free
line between two rooms as well, except where a limit stopped the cut that should have made it.

* `rooms_sound_and_apart`: every room is sound and apart from all others;
* `gap_or_crowded`: where the free line between two rooms is lost;
* `rooms_may_touch`: a building in which it is missing.
-/

namespace TavernLayout

def Box.Holds (b : Box) (v : Vec3) : Prop :=
  v.plan ∈ b.footprint ∧ b.min.z ≤ v.z ∧ v.z ≤ b.max.z

namespace Outline

theorem Apart.footprints {a b : Outline} (h : a.Apart b) :
    (¬ ∃ p, p ∈ a.footprint ∧ p ∈ b.footprint) ∨ a.Stacked b := by
  rcases h with hst | hc
  · exact .inr hst
  · refine .inl ?_
    rintro ⟨p, ha, hb⟩
    exact hc ((Rect.collides_iff_exists_mem (.of_mem ha) (.of_mem hb)).2 ⟨p, ha, hb⟩)

theorem Apart.voxels {a b : Outline} (h : a.Apart b) :
    ¬ ∃ v : Vec3, a.box.Holds v ∧ b.box.Holds v := by
  rintro ⟨v, ⟨ha, ha1, ha2⟩, hb, hb1, hb2⟩
  rcases h.footprints with hf | hst
  · exact hf ⟨v.plan, ha, hb⟩
  · unfold Stacked at hst
    omega

end Outline

/-! ## Free lines -/

/-- A line of cells is free between the two rectangles. -/
def Rect.Spaced (r s : Rect) : Prop := ¬ (r.grow 1).Collides s ∧ ¬ (s.grow 1).Collides r

theorem Rect.spaced_iff {r s : Rect} : r.Spaced s ↔ ¬ (r.grow 1).Collides s := by
  unfold Spaced
  rw [collides_grow_symm (r := s), and_self]

theorem Rect.Spaced.part {r s t : Rect} (h : r.Spaced s) (ht : s.Encloses t) : r.Spaced t := by
  rw [spaced_iff] at *
  exact fun hc => h (hc.symm.mono ht).symm

/-- The space for `new` before and after the turn of the older room `a`, when it is cleared. -/
def Turn (interior : Rect) (elders : List Outline) (i : Nat) (parent : Outline) (way : Way)
    (new a : Outline) (before after : Rect) : Prop :=
  ∃ pre post, elders.eraseIdx i = pre ++ a :: post ∧
    clearSpace (way.limits interior parent.footprint) new.box.min.z new.box.max.z
      (pre.map Outline.box) (way.space interior parent.footprint) = some before ∧
    Clearance.avoid (way.limits interior parent.footprint) new.box.min.z new.box.max.z before
      a.box = some after

/-- A room on a near level that is not the parent has its turn, and the space keeps a free line next
to it unless it is crowded. -/
theorem Settled.turn {interior fitted : Rect} {elders : List Outline} {i j : Nat}
    {parent new a : Outline} {way : Way}
    (h : Settled interior elders i parent way fitted new) (hs : ∀ o ∈ elders, o.Sound interior)
    (ha : elders[j]? = some a) (hst : ¬ a.Stacked new) (hne : j ≠ i) :
    ∃ before after, Turn interior elders i parent way new a before after ∧
      after.Encloses new.footprint ∧
      (a.footprint.Spaced after ↔
        ¬ Clearance.Crowded (way.limits interior parent.footprint) before after a.footprint) := by
  have hmem : a ∈ elders.eraseIdx i := List.mem_eraseIdx_iff_getElem?.2 ⟨j, hne, ha⟩
  obtain ⟨pre, post, hsplit⟩ := List.append_of_mem hmem
  have hp := hs parent (List.mem_of_getElem? h.elder)
  obtain ⟨hv, hk⟩ := space_ok way hp.inside hp.accepted.three_le
  have hvalid : ∀ b ∈ pre.map Outline.box ++ a.box :: post.map Outline.box, b.footprint.Valid := by
    intro b hb
    rw [← List.map_cons, ← List.map_append, ← hsplit] at hb
    obtain ⟨o, ho, rfl⟩ := List.mem_map.1 hb
    exact (hs o (List.mem_of_mem_eraseIdx ho)).accepted.1
  have hclear := h.cleared
  rw [hsplit, List.map_append, List.map_cons] at hclear
  have hmeets : a.box.Meets new.box.min.z new.box.max.z := by
    by_contra hm
    exact hst (Outline.stacked_of_not_meets hm)
  obtain ⟨before, after, h1, h2, hin, hcrowded⟩ := turn_of_clearSpace hv hvalid hk hclear hmeets
  refine ⟨before, after, ⟨pre, post, hsplit, h1, h2⟩, hin.trans h.inside, ?_⟩
  rw [Rect.spaced_iff]
  exact not_congr ⟨fun hc => hcrowded.1 hc.symm, fun hc => (hcrowded.2 hc).symm⟩

/-! ## Buildings -/

namespace Growth

variable {σ : Type} {src : Source σ} {plot : Plot} {w w' : Works σ} {n : Nat}

/-- In every building that grows, every room lies in the interior, has a size that its kind accepts
and is high enough, and any two rooms share no cell of the plan or have a free layer between them;
so they share no voxel. -/
theorem rooms_sound_and_apart (hs : src.Lawful) (ho : Opened src plot w)
    (h : Rounds src plot w n w') :
    (∀ r ∈ w'.rooms.items, plot.interior.Encloses r.footprint ∧ r.kind.Accepts r.footprint ∧
      3 ≤ r.top - r.bottom) ∧
    w'.rooms.items.Pairwise fun a b =>
      ((¬ ∃ p, p ∈ a.footprint ∧ p ∈ b.footprint) ∨
        b.top + 2 ≤ a.bottom ∨ a.top + 2 ≤ b.bottom) ∧
      ¬ ∃ v : Vec3, a.bounds.Holds v ∧ b.bounds.Holds v := by
  have hg := grown_of_rounds hs ho h
  constructor
  · intro r hr
    obtain ⟨hin, hacc, hhigh⟩ := hg.sound r.outline (List.mem_map_of_mem hr)
    refine ⟨hin, hacc, ?_⟩
    change r.bottom + 3 ≤ r.top at hhigh
    omega
  · have hp := hg.pairwise_apart
    rw [Works.outlines, List.pairwise_map] at hp
    exact hp.imp fun hab => ⟨hab.footprints, hab.voxels⟩

/-- Two rooms on near levels have a free line between them if the younger one is built onto the
older one. If it is not, the older one had its turn when the space for the younger one was cleared:
the line is lost exactly where a limit stopped the cut, and elsewhere it is free. -/
theorem gap_or_crowded (hs : src.Lawful) (ho : Opened src plot w) (h : Rounds src plot w n w')
    {i j : Nat} (hij : i < j) {a b : Room} (ha : w'.rooms.items[i]? = some a)
    (hb : w'.rooms.items[j]? = some b) :
    ∃ k parent way fitted,
      Settled plot.interior (w'.outlines.take j) k parent way fitted b.outline ∧
      (b.top + 2 ≤ a.bottom ∨ a.top + 2 ≤ b.bottom ∨
        (i = k ∧ a.footprint.Spaced b.footprint) ∨
        (i ≠ k ∧ ∃ before after,
          Turn plot.interior (w'.outlines.take j) k parent way b.outline a.outline before after ∧
          after.Encloses b.footprint ∧
          (a.footprint.Spaced after ↔ ¬ Clearance.Crowded
            (way.limits plot.interior parent.footprint) before after a.footprint) ∧
          (¬ Clearance.Crowded (way.limits plot.interior parent.footprint) before after
            a.footprint → a.footprint.Spaced b.footprint))) := by
  have hg := grown_of_rounds hs ho h
  have hb' : w'.outlines[j]? = some b.outline := by
    rw [Works.outlines, List.getElem?_map, hb]
    rfl
  have ha' : (w'.outlines.take j)[i]? = some a.outline := by
    rw [List.getElem?_take_of_lt hij, Works.outlines, List.getElem?_map, ha]
    rfl
  obtain ⟨hg', k, parent, way, fitted, hset⟩ := hg.settled (Nat.zero_lt_of_lt hij) hb'
  refine ⟨k, parent, way, fitted, hset, ?_⟩
  by_cases hst : a.outline.Stacked b.outline
  · rcases hst with hst | hst
    · exact .inl hst
    · exact .inr (.inl hst)
  · refine .inr (.inr ?_)
    by_cases hk : i = k
    · subst hk
      obtain rfl : parent = a.outline := Option.some.inj (hset.elder.symm.trans ha')
      rcases hset.parent_apart hg'.sound with hst' | hfree
      · exact absurd hst' hst
      · exact .inl ⟨rfl, Rect.spaced_iff.2 hfree⟩
    · obtain ⟨before, after, hturn, hin, hiff⟩ := hset.turn hg'.sound ha' hst hk
      exact .inr ⟨hk, before, after, hturn, hin, hiff, fun hc => (hiff.2 hc).part hin⟩

/-! ## A small plot -/

def smallPlot : Plot where
  terrain := { altitude := fun _ => .ok 0.0, temperature := fun _ => .ok 0.0 }
  interior := ⟨⟨0, 0⟩, ⟨30, 20⟩⟩
  temperature := 0.0

def smallScript : Stream Script := { state := { values := #[15, 1, 5, 6, 9] } }

theorem finiteAltitudes_smallPlot : smallPlot.terrain.FiniteAltitudes :=
  fun _ => ⟨0.0, rfl, false, 0, Number.leastExponent, by decide +kernel⟩

/-- The hall behind the front door, a stage beyond it, and a bar at the side of the hall. -/
theorem survey_smallPlot :
    survey Script.source smallPlot ⟨15, 0, 0⟩ .negY smallScript 2 =
      some [⟨.entrance, ⟨12, 1, 0⟩, ⟨18, 4, 4⟩⟩, ⟨.stage, ⟨11, 6, 0⟩, ⟨23, 20, 6⟩⟩,
        ⟨.bar, ⟨0, 0, 0⟩, ⟨10, 16, 5⟩⟩] := by
  decide +kernel

theorem rooms_of_smallPlot_apart : ∃ w w' : Works Script, Opened Script.source smallPlot w ∧
    Rounds Script.source smallPlot w 2 w' ∧ w'.rooms.size = 3 ∧
    (∀ r ∈ w'.rooms.items, smallPlot.interior.Encloses r.footprint ∧ r.kind.Accepts r.footprint ∧
      3 ≤ r.top - r.bottom) ∧
    w'.rooms.items.Pairwise fun a b =>
      ((¬ ∃ p, p ∈ a.footprint ∧ p ∈ b.footprint) ∨
        b.top + 2 ≤ a.bottom ∨ a.top + 2 ≤ b.bottom) ∧
      ¬ ∃ v : Vec3, a.bounds.Holds v ∧ b.bounds.Holds v := by
  obtain ⟨w, w', ho, hr, hos⟩ := rounds_of_survey survey_smallPlot
  have hsize : w'.rooms.size = 3 := by
    rw [← Works.length_outlines, hos]
    rfl
  exact ⟨w, w', ho, hr, hsize, rooms_sound_and_apart Script.lawful_source ho hr⟩

/-- The stage and the bar of the small plot. -/
theorem stage_and_bar : ∃ (w w' : Works Script) (a b : Room), Opened Script.source smallPlot w ∧
    Rounds Script.source smallPlot w 2 w' ∧ w'.rooms.items[1]? = some a ∧
    w'.rooms.items[2]? = some b ∧ a.outline = ⟨.stage, ⟨11, 6, 0⟩, ⟨23, 20, 6⟩⟩ ∧
    b.outline = ⟨.bar, ⟨0, 0, 0⟩, ⟨10, 16, 5⟩⟩ := by
  obtain ⟨w, w', ho, hr, hos⟩ := rounds_of_survey survey_smallPlot
  have ha : w'.outlines[1]? = some ⟨.stage, ⟨11, 6, 0⟩, ⟨23, 20, 6⟩⟩ := by
    rw [hos]
    rfl
  have hb : w'.outlines[2]? = some ⟨.bar, ⟨0, 0, 0⟩, ⟨10, 16, 5⟩⟩ := by
    rw [hos]
    rfl
  rw [Works.outlines, List.getElem?_map, Option.map_eq_some_iff] at ha hb
  obtain ⟨a, ha, hao⟩ := ha
  obtain ⟨b, hb, hbo⟩ := hb
  exact ⟨w, w', a, b, ho, hr, ha, hb, hao, hbo⟩

theorem stage_and_bar_crowded : ∃ (w w' : Works Script) (a b : Room),
    Opened Script.source smallPlot w ∧ Rounds Script.source smallPlot w 2 w' ∧
    w'.rooms.items[1]? = some a ∧ w'.rooms.items[2]? = some b ∧
    ∃ k parent way fitted,
      Settled smallPlot.interior (w'.outlines.take 2) k parent way fitted b.outline ∧
      (b.top + 2 ≤ a.bottom ∨ a.top + 2 ≤ b.bottom ∨
        (1 = k ∧ a.footprint.Spaced b.footprint) ∨
        (1 ≠ k ∧ ∃ before after,
          Turn smallPlot.interior (w'.outlines.take 2) k parent way b.outline a.outline before
            after ∧
          after.Encloses b.footprint ∧
          (a.footprint.Spaced after ↔ ¬ Clearance.Crowded
            (way.limits smallPlot.interior parent.footprint) before after a.footprint) ∧
          (¬ Clearance.Crowded (way.limits smallPlot.interior parent.footprint) before after
            a.footprint → a.footprint.Spaced b.footprint))) := by
  obtain ⟨w, w', a, b, ho, hr, ha, hb, -, -⟩ := stage_and_bar
  exact ⟨w, w', a, b, ho, hr, ha, hb,
    gap_or_crowded Script.lawful_source ho hr (by decide) ha hb⟩

/-- The bar ends where the stage begins: the space for it was not cut back behind the line that
keeps it at the hall. -/
theorem rooms_may_touch : ∃ (w w' : Works Script) (a b : Room), Script.source.Lawful ∧
    smallPlot.terrain.FiniteAltitudes ∧ Opened Script.source smallPlot w ∧
    Rounds Script.source smallPlot w 2 w' ∧ w'.rooms.items[1]? = some a ∧
    w'.rooms.items[2]? = some b ∧ ¬ b.top + 2 ≤ a.bottom ∧ ¬ a.top + 2 ≤ b.bottom ∧
    (a.footprint.grow 1).Collides b.footprint := by
  obtain ⟨w, w', a, b, ho, hr, ha, hb, hao, hbo⟩ := stage_and_bar
  refine ⟨w, w', a, b, Script.lawful_source, finiteAltitudes_smallPlot, ho, hr, ha, hb, ?_⟩
  change ¬ b.outline.box.max.z + 2 ≤ a.outline.box.min.z ∧
    ¬ a.outline.box.max.z + 2 ≤ b.outline.box.min.z ∧
    (a.outline.footprint.grow 1).Collides b.outline.footprint
  rw [hao, hbo]
  decide

end Growth

end TavernLayout
