import TavernLayout.Proofs.Clearance.Largest
import TavernLayout.Proofs.Growth.Separation

/-!
# Clearing a space for a room

Whatever the limits are, a space that keeps to them is cleared to a part that keeps to them and that
no room of nearby layers has a cell of. The two attempts of a growing building only ever clear such
spaces.

* `keepsTo_iff`: the limits, told by edges;
* `spaces_of_rounds`: the spaces and limits of the two attempts;
* `cleared_within_limits`: what is cleared, for any limits and in a building.
-/

namespace TavernLayout

namespace Clearance

/-- The edge opposite to a direction has not passed the limit of the direction. -/
theorem keepsTo_iff {limits : Limits} {space : Rect} : KeepsTo limits space ↔
    ∀ d l, limits.get d = some l → d.sign * d.opposite.edge space ≤ d.sign * l := by
  simp only [KeepsTo, Dir.sign_mul_edge_opposite]

end Clearance

namespace Growth

open Clearance

/-- Beside and under every room of a building that grows, the space to be cleared is valid and keeps
to its limits, and the rooms around it have valid footprints. -/
theorem spaces_of_rounds {σ : Type} {src : Source σ} {plot : Plot} {w w' : Works σ} {n : Nat}
    (hs : src.Lawful) (ho : Opened src plot w) (h : Rounds src plot w n w') :
    ∀ parent ∈ w'.rooms.items, parent.footprint.Valid ∧ ∀ way : Way,
      (way.space plot.interior parent.footprint).Valid ∧
      KeepsTo (way.limits plot.interior parent.footprint)
        (way.space plot.interior parent.footprint) := by
  intro parent hmem
  obtain ⟨hin, hacc, -⟩ :=
    (grown_of_rounds hs ho h).sound parent.outline (List.mem_map_of_mem hmem)
  exact ⟨hacc.1, fun way => space_ok way hin hacc.three_le⟩

/-- A valid space whose edges have not passed their limits is cleared to a valid part of it, with
the same property, that has no cell in common with a room of nearby layers. In a building that
grows, the attempts beside and under any of its rooms clear spaces of this kind. -/
theorem cleared_within_limits :
    (∀ {limits : Limits} {lo hi : Int} {rooms : List Room} {space part : Rect}, space.Valid →
      (∀ r ∈ rooms, r.footprint.Valid) →
      (∀ d l, limits.get d = some l → d.sign * d.opposite.edge space ≤ d.sign * l) →
      clearSpace limits lo hi (rooms.map Room.bounds) space = some part →
      part.Valid ∧ space.Encloses part ∧
        (∀ r ∈ rooms, r.bounds.Meets lo hi → ¬ ∃ p, p ∈ part ∧ p ∈ r.footprint) ∧
        ∀ d l, limits.get d = some l → d.sign * d.opposite.edge part ≤ d.sign * l) ∧
    (∀ {σ : Type} {src : Source σ} {plot : Plot} {w w' : Works σ} {n : Nat}, src.Lawful →
      Opened src plot w → Rounds src plot w n w' →
      ∀ parent ∈ w'.rooms.items, parent.footprint.Valid ∧ ∀ way : Way,
        (way.space plot.interior parent.footprint).Valid ∧
        ∀ d l, (way.limits plot.interior parent.footprint).get d = some l →
          d.sign * d.opposite.edge (way.space plot.interior parent.footprint) ≤ d.sign * l) := by
  simp only [← keepsTo_iff]
  constructor
  · intro limits lo hi rooms space part hv hr hk h
    have hb : ∀ b ∈ rooms.map Room.bounds, b.footprint.Valid := List.forall_mem_map.2 hr
    obtain ⟨hpv, hin, hkeeps, hclear⟩ := clearSpace_ok hv hb hk h
    refine ⟨hpv, hin, fun r hmem hm hcell => ?_, hkeeps⟩
    exact hclear r.bounds (List.mem_map_of_mem hmem) hm
      ((Rect.collides_iff_exists_mem hpv (hr r hmem)).2 hcell)
  · exact spaces_of_rounds

/-- The courtyard must not be cut back behind its line six. -/
def courtyardLimits : Limits := DirMap.set unlimited .posY (some 6)

theorem courtyard_cleared :
    clearSpace courtyardLimits 0 4 ([loft, hut].map Room.bounds) courtyard =
      some ⟨⟨0, 6⟩, ⟨20, 12⟩⟩ ∧
    (courtyard.Encloses ⟨⟨0, 6⟩, ⟨20, 12⟩⟩ ∧
      ¬ ∃ p, p ∈ Rect.mk ⟨0, 6⟩ ⟨20, 12⟩ ∧ p ∈ hut.footprint) ∧
    ∃ w w' : Works Script, Opened Script.source smallPlot w ∧
      Rounds Script.source smallPlot w 2 w' ∧ w'.rooms.size = 3 ∧
      ∀ parent ∈ w'.rooms.items, parent.footprint.Valid ∧ ∀ way : Way,
        (way.space smallPlot.interior parent.footprint).Valid ∧
        ∀ d l, (way.limits smallPlot.interior parent.footprint).get d = some l →
          d.sign * d.opposite.edge (way.space smallPlot.interior parent.footprint) ≤
            d.sign * l := by
  have hleft : clearSpace courtyardLimits 0 4 ([loft, hut].map Room.bounds) courtyard =
      some ⟨⟨0, 6⟩, ⟨20, 12⟩⟩ := by decide
  have hlimits : ∀ d l, courtyardLimits.get d = some l →
      d.sign * d.opposite.edge courtyard ≤ d.sign * l := by
    intro d l hl
    cases d <;> cases hl
    decide
  obtain ⟨-, hin, hfree, -⟩ :=
    cleared_within_limits.1 (by decide) (by decide) hlimits hleft
  obtain ⟨w, w', ho, hr, hos⟩ := rounds_of_survey survey_smallPlot
  have hsize : w'.rooms.size = 3 := by
    rw [← Works.length_outlines, hos]
    rfl
  exact ⟨hleft, ⟨hin, hfree hut (by decide) (by decide)⟩, w, w', ho, hr, hsize,
    cleared_within_limits.2 Script.lawful_source ho hr⟩

end Growth

end TavernLayout
