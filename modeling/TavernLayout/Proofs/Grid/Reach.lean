import TavernLayout.Grid.Dir

/-!
# Reaches

How far a rectangle extends in each direction, counted in that direction: a rectangle is the same
as its four reaches, and every statement about rectangles becomes the same inequality for every
direction.

* `encloses_iff_reach`, `collides_iff_reach`, `valid_iff_reach`: the relations of rectangles;
* `mem_iff_reach`, `ext_iff_reach`: the cells of a rectangle, and when two are the same;
* `reach_grow`, `reach_push`, `reach_inter`: what the operations do;
* `apart_of_reach`: one direction in which a rectangle ends before another begins keeps them apart.
-/

namespace TavernLayout

namespace Dir

/-- How far `r` extends in the direction. -/
def reach (d : Dir) (r : Rect) : Int := d.sign * d.edge r

theorem sign_mul_sign (d : Dir) : d.sign * d.sign = 1 := by cases d <;> rfl

theorem edge_mul_sign (d : Dir) (r : Rect) : d.edge r * d.sign = d.reach r := Int.mul_comm ..

/-- The coordinate of the opposite edge, counted in the direction. -/
theorem sign_mul_edge_opposite (d : Dir) (r : Rect) :
    d.sign * d.opposite.edge r = -d.opposite.reach r := by
  rw [reach, sign_opposite, Int.neg_mul, Int.neg_neg]

@[simp] theorem reach_posX (r : Rect) : posX.reach r = r.max.x := Int.one_mul _
@[simp] theorem reach_posY (r : Rect) : posY.reach r = r.max.y := Int.one_mul _
@[simp] theorem reach_negX (r : Rect) : negX.reach r = -r.min.x := Int.neg_one_mul _
@[simp] theorem reach_negY (r : Rect) : negY.reach r = -r.min.y := Int.neg_one_mul _

theorem forall_iff {P : Dir → Prop} : (∀ d, P d) ↔ P posX ∧ P posY ∧ P negX ∧ P negY := by
  constructor
  · intro h
    exact ⟨h _, h _, h _, h _⟩
  · rintro ⟨h1, h2, h3, h4⟩ d
    cases d <;> assumption

/-- Orthogonal directions are positive. -/
theorem edge_orthogonal (d : Dir) (r : Rect) : d.orthogonal.edge r = d.orthogonal.reach r := by
  cases d <;> simp [orthogonal, isY, edge]

theorem edge_orthogonal_opposite (d : Dir) (r : Rect) :
    d.orthogonal.opposite.edge r = -d.orthogonal.opposite.reach r := by
  cases d <;> simp [orthogonal, isY, opposite, edge]

theorem edge_eq_iff {d : Dir} {r s : Rect} : d.edge r = d.edge s ↔ d.reach r = d.reach s := by
  cases d <;> simp [edge]

theorem along_size (d : Dir) (r : Rect) : d.along r.size = d.reach r + d.opposite.reach r := by
  cases d <;> simp [along, isY, Rect.size, opposite] <;> omega

/-! ## Relations of rectangles -/

theorem encloses_iff_reach {r s : Rect} : r.Encloses s ↔ ∀ d : Dir, d.reach s ≤ d.reach r := by
  simp only [forall_iff, reach_posX, reach_posY, reach_negX, reach_negY, Rect.Encloses]
  omega

theorem valid_iff_reach {r : Rect} : r.Valid ↔ ∀ d : Dir, 0 ≤ d.reach r + d.opposite.reach r := by
  simp only [forall_iff, opposite, reach_posX, reach_posY, reach_negX, reach_negY, Rect.Valid]
  omega

theorem collides_iff_reach {r s : Rect} :
    r.Collides s ↔ ∀ d : Dir, 0 ≤ d.reach r + d.opposite.reach s := by
  simp only [forall_iff, opposite, reach_posX, reach_posY, reach_negX, reach_negY, Rect.Collides]
  omega

/-- Two rectangles do not collide when, in some direction, one ends before the other begins. -/
theorem apart_of_reach {r s : Rect} {d : Dir} (h : d.reach r + d.opposite.reach s < 0) :
    ¬ r.Collides s := by
  intro hc
  have := collides_iff_reach.1 hc d
  omega

/-! ## Operations -/

theorem reach_grow (d : Dir) (r : Rect) (n : Int) : d.reach (r.grow n) = d.reach r + n := by
  rw [reach, reach, edge_grow, Int.mul_add, ← Int.mul_assoc, sign_mul_sign, Int.one_mul]

theorem reach_push (d : Dir) (r : Rect) (n : Int) : d.reach (d.push r n) = d.reach r + n := by
  rw [reach, reach, edge_push, Int.mul_add, ← Int.mul_assoc, sign_mul_sign, Int.one_mul]

theorem reach_push_of_ne {d e : Dir} (h : e ≠ d) (r : Rect) (n : Int) :
    e.reach (d.push r n) = e.reach r := by
  rw [reach, edge_push_of_ne h, reach]

theorem reach_inter (d : Dir) (r s : Rect) :
    d.reach (r.inter s) = min (d.reach r) (d.reach s) := by
  cases d <;> simp only [reach_posX, reach_posY, reach_negX, reach_negY, Rect.inter] <;> omega

end Dir

namespace Rect

theorem mem_iff_reach {p : Vec2} {r : Rect} :
    p ∈ r ↔ ∀ d : Dir, d.sign * d.along p ≤ d.reach r := by
  simp only [Dir.forall_iff, Dir.reach_posX, Dir.reach_posY, Dir.reach_negX, Dir.reach_negY,
    Dir.sign, Dir.along, Dir.isY, Bool.false_eq_true, if_false, if_true, mem_iff]
  omega

theorem ext_iff_reach {r s : Rect} : r = s ↔ ∀ d : Dir, d.reach r = d.reach s := by
  simp only [Dir.forall_iff, Dir.reach_posX, Dir.reach_posY, Dir.reach_negX, Dir.reach_negY,
    Rect.ext_iff, Vec2.ext_iff]
  omega

theorem Encloses.trans {r s t : Rect} (h1 : r.Encloses s) (h2 : s.Encloses t) : r.Encloses t := by
  rw [Dir.encloses_iff_reach] at *
  intro d
  exact Int.le_trans (h2 d) (h1 d)

theorem Encloses.refl (r : Rect) : r.Encloses r := by
  rw [Dir.encloses_iff_reach]
  intro d
  exact Int.le_refl _

theorem Encloses.valid {r s : Rect} (h : r.Encloses s) (hs : s.Valid) : r.Valid := by
  simp only [Encloses, Valid] at *
  omega

/-- A rectangle that grows more encloses one that grows less. -/
theorem encloses_grow {r : Rect} {m n : Int} (h : m ≤ n) : (r.grow n).Encloses (r.grow m) := by
  rw [Dir.encloses_iff_reach]
  intro d
  rw [Dir.reach_grow, Dir.reach_grow]
  exact Int.add_le_add_left h _

theorem grow_encloses {r : Rect} {n : Int} (h : 0 ≤ n) : (r.grow n).Encloses r := by
  rw [Dir.encloses_iff_reach]
  intro d
  rw [Dir.reach_grow]
  exact Int.le_add_of_nonneg_right h

theorem encloses_inter_left (r s : Rect) : r.Encloses (r.inter s) := by
  rw [Dir.encloses_iff_reach]
  intro d
  rw [Dir.reach_inter]
  exact Int.min_le_left ..

theorem encloses_inter_right (r s : Rect) : s.Encloses (r.inter s) := by
  rw [Dir.encloses_iff_reach]
  intro d
  rw [Dir.reach_inter]
  exact Int.min_le_right ..

theorem Collides.symm {r s : Rect} (h : r.Collides s) : s.Collides r := by
  simp only [Collides] at *
  omega

/-- What collides with a part collides with the whole. -/
theorem Collides.mono {r s t : Rect} (h : s.Collides t) (hr : r.Encloses s) : r.Collides t := by
  rw [Dir.collides_iff_reach] at *
  rw [Dir.encloses_iff_reach] at hr
  intro d
  have := h d
  have := hr d
  omega

theorem collides_grow_symm {r s : Rect} {n : Int} :
    (r.grow n).Collides s ↔ (s.grow n).Collides r := by
  simp only [Dir.collides_iff_reach, Dir.reach_grow]
  constructor
  · intro h d
    have := h d.opposite
    rw [Dir.opposite_opposite] at this
    omega
  · intro h d
    have := h d.opposite
    rw [Dir.opposite_opposite] at this
    omega

end Rect

end TavernLayout
