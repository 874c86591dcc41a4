import TavernLayout.Grid.Vec

/-!
# Rectangles

A rectangle has two corners and contains both, so the rectangle from (0, 0) to (3, 3) has sixteen
cells while its `size` is (3, 3). Corners may be crossed; such a rectangle is not `Valid` and has
no cells.

* `mem_inter_iff`: `inter` holds the common cells;
* `collides_iff_exists_mem`: valid rectangles collide exactly when they share a cell;
* `valid_sorted`, `mem_nearest`: sorting corners and pulling a point inside do what they say.
-/

namespace TavernLayout

/-- A rectangle of cells, both corners included. -/
@[ext] structure Rect where
  min : Vec2
  max : Vec2
  deriving DecidableEq, Repr

namespace Rect

/-- The difference of the corners: one less than the number of cells along each axis. -/
def size (r : Rect) : Vec2 := r.max - r.min

/-- The product of the side lengths of `size`. -/
def area (r : Rect) : Int := r.size.product

/-- The number of cells of a valid rectangle. -/
def cells (r : Rect) : Int := (r.size.x + 1) * (r.size.y + 1)

/-- The cell in the middle, towards `min` when there are two. -/
def center (r : Rect) : Vec2 := r.min + ⟨r.size.x / 2, r.size.y / 2⟩

/-- The corners are not crossed. -/
def Valid (r : Rect) : Prop := r.min.x ≤ r.max.x ∧ r.min.y ≤ r.max.y

instance (r : Rect) : Decidable r.Valid := inferInstanceAs (Decidable (_ ∧ _))

def Holds (r : Rect) (p : Vec2) : Prop :=
  (r.min.x ≤ p.x ∧ p.x ≤ r.max.x) ∧ (r.min.y ≤ p.y ∧ p.y ≤ r.max.y)

instance : Membership Vec2 Rect := ⟨Holds⟩

instance (p : Vec2) (r : Rect) : Decidable (p ∈ r) :=
  inferInstanceAs (Decidable ((_ ∧ _) ∧ (_ ∧ _)))

/-- The extents meet along both axes. -/
def Collides (r s : Rect) : Prop :=
  r.min.x ≤ s.max.x ∧ s.min.x ≤ r.max.x ∧ r.min.y ≤ s.max.y ∧ s.min.y ≤ r.max.y

instance (r s : Rect) : Decidable (r.Collides s) := inferInstanceAs (Decidable (_ ∧ _ ∧ _ ∧ _))

/-- The corners of `s` do not stick out of `r`. -/
def Encloses (r s : Rect) : Prop :=
  r.min.x ≤ s.min.x ∧ r.min.y ≤ s.min.y ∧ s.max.x ≤ r.max.x ∧ s.max.y ≤ r.max.y

instance (r s : Rect) : Decidable (r.Encloses s) := inferInstanceAs (Decidable (_ ∧ _ ∧ _ ∧ _))

/-- The rectangle with the same corners, uncrossed. -/
def sorted (r : Rect) : Rect :=
  ⟨⟨Min.min r.min.x r.max.x, Min.min r.min.y r.max.y⟩,
   ⟨Max.max r.min.x r.max.x, Max.max r.min.y r.max.y⟩⟩

/-- The common part; not valid when there is none. -/
def inter (r s : Rect) : Rect :=
  ⟨⟨Max.max r.min.x s.min.x, Max.max r.min.y s.min.y⟩,
   ⟨Min.min r.max.x s.max.x, Min.min r.max.y s.max.y⟩⟩

def hull (r s : Rect) : Rect :=
  ⟨⟨Min.min r.min.x s.min.x, Min.min r.min.y s.min.y⟩,
   ⟨Max.max r.max.x s.max.x, Max.max r.max.y s.max.y⟩⟩

def nearest (r : Rect) (p : Vec2) : Vec2 :=
  ⟨Min.min (Max.max p.x r.min.x) r.max.x, Min.min (Max.max p.y r.min.y) r.max.y⟩

/-- Every edge moved outwards by `n`, or inwards when `n` is negative. -/
def grow (r : Rect) (n : Int) : Rect := ⟨r.min - Vec2.diag n, r.max + Vec2.diag n⟩

def shift (r : Rect) (v : Vec2) : Rect := ⟨r.min + v, r.max + v⟩

def text (r : Rect) : String :=
  "Aabr(x1=" ++ toString r.min.x ++ ", y1=" ++ toString r.min.y ++
    ", x2=" ++ toString r.max.x ++ ", y2=" ++ toString r.max.y ++ ")"

/-! ## Cells -/

theorem mem_iff {p : Vec2} {r : Rect} :
    p ∈ r ↔ (r.min.x ≤ p.x ∧ p.x ≤ r.max.x) ∧ (r.min.y ≤ p.y ∧ p.y ≤ r.max.y) := Iff.rfl

theorem Valid.of_mem {p : Vec2} {r : Rect} (h : p ∈ r) : r.Valid := by
  rw [mem_iff] at h
  unfold Valid
  omega

theorem mem_inter_iff {p : Vec2} {r s : Rect} : p ∈ r.inter s ↔ p ∈ r ∧ p ∈ s := by
  simp only [mem_iff, inter]
  omega

theorem valid_inter_iff {r s : Rect} (hr : r.Valid) (hs : s.Valid) :
    (r.inter s).Valid ↔ r.Collides s := by
  simp only [Valid, inter, Collides] at *
  omega

theorem collides_iff_exists_mem {r s : Rect} (hr : r.Valid) (hs : s.Valid) :
    r.Collides s ↔ ∃ p, p ∈ r ∧ p ∈ s := by
  constructor
  · intro h
    refine ⟨(r.inter s).min, mem_inter_iff.1 ?_⟩
    have hv := (valid_inter_iff hr hs).2 h
    simp only [Valid] at hv
    rw [mem_iff]
    omega
  · rintro ⟨p, hp, hq⟩
    rw [mem_iff] at hp hq
    simp only [Collides]
    omega

theorem Encloses.mem {r s : Rect} (h : r.Encloses s) {p : Vec2} (hp : p ∈ s) : p ∈ r := by
  simp only [Encloses] at h
  rw [mem_iff] at *
  omega

theorem valid_sorted (r : Rect) : r.sorted.Valid := by
  simp only [Valid, sorted]
  omega

theorem sorted_eq_self {r : Rect} (h : r.Valid) : r.sorted = r := by
  simp only [Valid] at h
  ext <;> simp only [sorted] <;> omega

theorem mem_nearest {r : Rect} (h : r.Valid) (p : Vec2) : r.nearest p ∈ r := by
  simp only [Valid] at h
  simp only [mem_iff, nearest]
  omega

theorem nearest_eq_self {r : Rect} {p : Vec2} (h : p ∈ r) : r.nearest p = p := by
  rw [mem_iff] at h
  ext <;> simp only [nearest] <;> omega

end Rect

end TavernLayout
