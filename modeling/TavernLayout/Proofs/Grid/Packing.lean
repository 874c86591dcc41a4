import Mathlib
import TavernLayout.Proofs.Grid.Reach

/-!
# Packing rectangles

Rectangles that do not collide have disjoint sets of cells, so together they cover as many cells as
all of them have. And as many of them fit into another rectangle as its cells allow.

* `card_cellSet`: `cells` counts the cells of a valid rectangle;
* `card_cover`: the cells of rectangles that do not collide;
* `mul_length_le_cells`: how many rectangles of a least number of cells fit.
-/

namespace TavernLayout.Rect

noncomputable def cellSet (r : Rect) : Finset (Int × Int) :=
  Finset.Icc r.min.x r.max.x ×ˢ Finset.Icc r.min.y r.max.y

theorem mem_cellSet {r : Rect} {p : Int × Int} : p ∈ r.cellSet ↔ (⟨p.1, p.2⟩ : Vec2) ∈ r := by
  rw [cellSet, Finset.mem_product, Finset.mem_Icc, Finset.mem_Icc, mem_iff]

theorem card_cellSet {r : Rect} (h : r.Valid) : (r.cellSet.card : Int) = r.cells := by
  rw [cellSet, Finset.card_product, Int.card_Icc, Int.card_Icc]
  simp only [Valid] at h
  simp only [cells, size, Vec2.x_sub, Vec2.y_sub]
  rw [Nat.cast_mul, Int.toNat_of_nonneg (by omega), Int.toNat_of_nonneg (by omega)]
  congr 1 <;> omega

theorem cellSet_subset {r s : Rect} (h : r.Encloses s) : s.cellSet ⊆ r.cellSet := by
  intro p hp
  rw [mem_cellSet] at hp ⊢
  exact h.mem hp

theorem disjoint_cellSet {r s : Rect} (h : ¬ r.Collides s) : Disjoint r.cellSet s.cellSet := by
  rw [Finset.disjoint_left]
  intro p hr hs
  rw [mem_cellSet] at hr hs
  exact h ((collides_iff_exists_mem (.of_mem hr) (.of_mem hs)).2 ⟨_, hr, hs⟩)

theorem cells_le_of_encloses {r s : Rect} (h : r.Encloses s) (hs : s.Valid) :
    s.cells ≤ r.cells := by
  rw [← card_cellSet hs, ← card_cellSet (h.valid hs)]
  exact_mod_cast Finset.card_le_card (cellSet_subset h)

/-! ## Several rectangles -/

noncomputable def cover (rs : List Rect) : Finset (Int × Int) :=
  rs.foldr (fun r s => r.cellSet ∪ s) ∅

variable {outer : Rect} {m : Nat} {rs : List Rect}

theorem mem_cover {p : Int × Int} : p ∈ cover rs ↔ ∃ r ∈ rs, p ∈ r.cellSet := by
  induction rs with
  | nil => simp [cover]
  | cons r rs ih =>
    rw [List.exists_mem_cons_iff, ← ih, cover, List.foldr_cons, Finset.mem_union, cover]

theorem cover_subset (hin : ∀ r ∈ rs, outer.Encloses r) : cover rs ⊆ outer.cellSet := by
  intro p hp
  obtain ⟨r, hr, hpr⟩ := mem_cover.1 hp
  exact cellSet_subset (hin r hr) hpr

/-- Rectangles that do not collide cover as many cells as they have together. -/
theorem card_cover (hpair : rs.Pairwise fun r s => ¬ r.Collides s) (hvalid : ∀ r ∈ rs, r.Valid) :
    ((cover rs).card : Int) = (rs.map cells).sum := by
  induction rs with
  | nil => rfl
  | cons r rs ih =>
    rw [List.pairwise_cons] at hpair
    rw [List.forall_mem_cons] at hvalid
    have hdisj : Disjoint r.cellSet (cover rs) := by
      rw [Finset.disjoint_left]
      intro p hr hp
      obtain ⟨s, hs, hps⟩ := mem_cover.1 hp
      exact Finset.disjoint_left.1 (disjoint_cellSet (hpair.1 s hs)) hr hps
    rw [List.map_cons, List.sum_cons, ← ih hpair.2 hvalid.2, ← card_cellSet hvalid.1]
    exact_mod_cast Finset.card_union_of_disjoint hdisj

/-- Rectangles of at least `m` cells that do not collide need `m` cells each. -/
theorem mul_length_le_cells (ho : outer.Valid) (hin : ∀ r ∈ rs, outer.Encloses r)
    (hpair : rs.Pairwise fun r s => ¬ r.Collides s) (hsize : ∀ r ∈ rs, r.Valid ∧ m ≤ r.cells) :
    m * rs.length ≤ outer.cells := by
  have hsum : rs.length • (m : Int) ≤ (rs.map cells).sum := by
    rw [← List.length_map (f := cells)]
    apply List.card_nsmul_le_sum
    intro n hn
    obtain ⟨r, hr, rfl⟩ := List.mem_map.1 hn
    exact (hsize r hr).2
  calc (m : Int) * rs.length = rs.length • (m : Int) := by rw [nsmul_eq_mul, Int.mul_comm]
    _ ≤ (rs.map cells).sum := hsum
    _ = (cover rs).card := (card_cover hpair fun r hr => (hsize r hr).1).symm
    _ ≤ outer.cellSet.card := by exact_mod_cast Finset.card_le_card (cover_subset hin)
    _ = outer.cells := card_cellSet ho

end TavernLayout.Rect
