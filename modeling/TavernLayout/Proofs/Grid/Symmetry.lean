import TavernLayout.Proofs.Grid.Reach

/-!
# Symmetries of the square

The quarter turns of the plan and its reflections map cells to cells and directions to directions.
Each one is known from the directions to which it takes the two axes, so there are eight of them.

* `Symmetry`: a symmetry, and what it does to directions, points and rectangles;
* `dir_opposite`, `isY_dir_iff`, `perm_dirs`: directions are permuted, those of an axis together;
* `mem_rect_iff`: a rectangle is taken to the rectangle of the images of its cells;
* `reach_rect`: it reaches as far in the image of a direction as it did in that direction.
-/

namespace TavernLayout

/-- A symmetry of the square: the images of the positive directions. -/
structure Symmetry where
  right : Dir
  up : Dir
  perpendicular : up.isY ≠ right.isY

namespace Symmetry

def dir (g : Symmetry) : Dir → Dir
  | .posX => g.right
  | .posY => g.up
  | .negX => g.right.opposite
  | .negY => g.up.opposite

def vec (g : Symmetry) (v : Vec2) : Vec2 := v.x • g.right.toVec2 + v.y • g.up.toVec2

def rect (g : Symmetry) (r : Rect) : Rect := (Rect.mk (g.vec r.min) (g.vec r.max)).sorted

variable (g : Symmetry) {d e : Dir} {r s : Rect} {p : Vec2}

/-! ## Directions -/

theorem dir_opposite (d : Dir) : g.dir d.opposite = (g.dir d).opposite := by
  cases d with
  | posX => rfl
  | posY => rfl
  | negX => exact (Dir.opposite_opposite _).symm
  | negY => exact (Dir.opposite_opposite _).symm

/-- Either every direction stays on its axis or every direction leaves it. -/
theorem isY_dir (d : Dir) : (g.dir d).isY = (d.isY ^^ g.right.isY) := by
  have hup : g.up.isY = !g.right.isY := Bool.eq_not_of_ne g.perpendicular
  cases d with
  | posX => exact (Bool.false_xor _).symm
  | posY => exact hup.trans (Bool.true_xor _).symm
  | negX => exact (Dir.isY_opposite _).trans (Bool.false_xor _).symm
  | negY => exact (Dir.isY_opposite _).trans (hup.trans (Bool.true_xor _).symm)

/-- The directions of one axis are taken to those of one axis. -/
theorem isY_dir_iff (d e : Dir) : (g.dir d).isY = (g.dir e).isY ↔ d.isY = e.isY := by
  rw [isY_dir, isY_dir, Bool.xor_left_inj]

theorem perm_dirs : (Dir.all.map g.dir).Perm Dir.all := by
  obtain ⟨right, up, h⟩ := g
  show List.Perm [right, up, right.opposite, up.opposite] Dir.all
  revert h
  cases right <;> cases up <;> decide

theorem dir_surjective (e : Dir) : ∃ d, g.dir d = e := by
  obtain ⟨d, -, hd⟩ := List.mem_map.1 (g.perm_dirs.mem_iff.2 (Dir.mem_all e))
  exact ⟨d, hd⟩

/-! ## Cells -/

theorem along_vec (d : Dir) (v : Vec2) :
    (g.dir d).sign * (g.dir d).along (g.vec v) = d.sign * d.along v := by
  obtain ⟨right, up, h⟩ := g
  cases right <;> cases up <;>
    first
      | exact absurd rfl h
      | (cases d <;>
          simp [dir, vec, Dir.opposite, Dir.sign, Dir.along, Dir.isY, Dir.toVec2])

theorem reach_rect (h : r.Valid) (d : Dir) : (g.dir d).reach (g.rect r) = d.reach r := by
  obtain ⟨hx, hy⟩ := h
  obtain ⟨right, up, h⟩ := g
  cases right <;> cases up <;>
    first
      | exact absurd rfl h
      | (cases d <;> simp [dir, rect, vec, Rect.sorted, Dir.opposite, Dir.toVec2] <;> omega)

/-- The cells of the image are the images of the cells. -/
theorem mem_rect_iff (h : r.Valid) : g.vec p ∈ g.rect r ↔ p ∈ r := by
  simp only [Rect.mem_iff_reach]
  constructor
  · intro hp d
    rw [← g.along_vec, ← g.reach_rect h]
    exact hp (g.dir d)
  · intro hp e
    obtain ⟨d, rfl⟩ := g.dir_surjective e
    rw [g.along_vec, g.reach_rect h]
    exact hp d

end Symmetry

end TavernLayout
