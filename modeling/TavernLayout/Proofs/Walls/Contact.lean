import TavernLayout.Layout.Partition
import TavernLayout.Layout.Roofing.Heights
import TavernLayout.Proofs.Grid.Reach

/-!
# Where rooms touch

Two rectangles adjoin when they are one or two steps apart in some direction and their extents
across it meet. A room looks for its neighbours by the nearest points of the two, starting from its
own centre; the search ends at the side on which the other one lies, wherever along it the centres
are.

* `Rect.Adjoins`: two rectangles face each other across a gap of one cell at most;
* `toward_eq`: the nearest points lie in the direction in which the rectangles face each other;
* `adjoins_of_contact`, `contact_of_adjoins`: rectangles that do not collide adjoin exactly when
  they touch where one looks for the other.
-/

namespace TavernLayout

/-- A vector points in the direction in which it is longest. -/
theorem Dir.ofVec2_of_lt {d : Dir} {v : Vec2} (h1 : d.orthogonal.along v < d.sign * d.along v)
    (h2 : -d.orthogonal.along v < d.sign * d.along v) : ofVec2 v = d := by
  cases d <;> simp [orthogonal, along, isY, sign] at h1 h2 <;> unfold ofVec2
  · rw [if_pos (by omega), if_pos (by omega)]
  · rw [if_neg (by omega), if_pos (by omega)]
  · rw [if_pos (by omega), if_neg (by omega)]
  · rw [if_neg (by omega), if_neg (by omega)]

namespace Rect

/-- The extents across a direction meet. -/
def Abreast (r : Rect) (d : Dir) (s : Rect) : Prop :=
  d.orthogonal.along r.min ≤ d.orthogonal.along s.max ∧
    d.orthogonal.along s.min ≤ d.orthogonal.along r.max

/-- The rectangle `s` lies in a direction of `r`, with a gap of one cell at most between them. -/
def Adjoins (r : Rect) (d : Dir) (s : Rect) : Prop :=
  (0 < gap r d s ∧ gap r d s ≤ 2) ∧ r.Abreast d s

section Facing

variable {r s : Rect} {d : Dir}

theorem Abreast.opposite (h : r.Abreast d s) : r.Abreast d.opposite s := by
  unfold Abreast at *
  rw [Dir.orthogonal_opposite]
  exact h

/-- Rectangles whose extents across a direction meet lie apart along it, if they do not collide. -/
theorem gap_pos_or (ho : r.Abreast d s) (hfree : ¬ r.Collides s) :
    0 < gap r d s ∨ 0 < gap r d.opposite s := by
  unfold Abreast gap Collides at *
  cases d <;>
    simp [Dir.orthogonal, Dir.along, Dir.isY, Dir.sign, Dir.opposite, Dir.edge] at * <;> omega

end Facing

end Rect

namespace Partition

variable {r s : Rect} {d : Dir}

/-- The nearest points of two rectangles lie in the direction in which the rectangles face each
other. -/
theorem toward_eq (hr : r.Valid) (hs : s.Valid) (hgap : 0 < gap r d s) (ho : r.Abreast d s) :
    toward r s = d := by
  simp only [Rect.Valid] at hr hs
  unfold Rect.Abreast gap at *
  apply Dir.ofVec2_of_lt <;> cases d <;>
    simp [Dir.orthogonal, Dir.along, Dir.isY, Dir.sign, Dir.opposite, Dir.edge] at hgap ho ⊢ <;>
    simp [Rect.nearest, Rect.center, Rect.size] <;> omega

theorem valid_contact_iff (hr : r.Valid) (hs : s.Valid) (hgap : 0 < gap r d s) :
    (contact r s d).Valid ↔ gap r d s ≤ 2 ∧ r.Abreast d s := by
  simp only [Rect.Valid] at hr hs
  unfold Rect.Abreast gap at *
  cases d <;>
    simp [Dir.orthogonal, Dir.along, Dir.isY, Dir.sign, Dir.opposite, Dir.edge, contact, Dir.push,
      Rect.inter, Rect.Valid] at hgap ⊢ <;> omega

theorem abreast_of_contact (hc : (contact r s d).Valid) : r.Abreast d s := by
  unfold Rect.Abreast
  cases d <;>
    simp [Dir.orthogonal, Dir.along, Dir.isY, Dir.opposite, contact, Dir.push, Rect.inter,
      Rect.Valid] at hc ⊢ <;> omega

/-- A rectangle that touches another one where it looks for it adjoins it there. -/
theorem adjoins_of_contact (hr : r.Valid) (hs : s.Valid) (hfree : ¬ r.Collides s)
    (hc : (contact r s (toward r s)).Valid) : r.Adjoins (toward r s) s := by
  have ho := abreast_of_contact hc
  rcases Rect.gap_pos_or ho hfree with hgap | hgap
  · exact ⟨⟨hgap, ((valid_contact_iff hr hs hgap).1 hc).1⟩, ho⟩
  · have hback := toward_eq hr hs hgap ho.opposite
    exact absurd hback.symm (Dir.opposite_ne _)

/-- Rectangles that adjoin touch where one of them looks for the other. -/
theorem contact_of_adjoins (hr : r.Valid) (hs : s.Valid) (h : r.Adjoins d s) :
    toward r s = d ∧ (contact r s d).Valid :=
  ⟨toward_eq hr hs h.1.1 h.2, (valid_contact_iff hr hs h.1.1).2 ⟨h.1.2, h.2⟩⟩

end Partition

end TavernLayout
