import TavernLayout.Grid.Rect

/-!
# Boxes

A box is a rectangle with a lowest and a highest layer, both included.
-/

namespace TavernLayout

/-- A box of voxels, both corners included. -/
@[ext] structure Box where
  min : Vec3
  max : Vec3
  deriving DecidableEq, Repr

namespace Box

/-- The box over `r` from layer `lo` to layer `hi`. -/
def ofRect (r : Rect) (lo hi : Int) : Box := ⟨r.min.atLevel lo, r.max.atLevel hi⟩

def footprint (b : Box) : Rect := ⟨b.min.plan, b.max.plan⟩

def sorted (b : Box) : Box :=
  ⟨⟨Min.min b.min.x b.max.x, Min.min b.min.y b.max.y, Min.min b.min.z b.max.z⟩,
   ⟨Max.max b.min.x b.max.x, Max.max b.min.y b.max.y, Max.max b.min.z b.max.z⟩⟩

/-- The vertical extents share more than one boundary layer. -/
def Overlaps (a b : Box) : Prop := a.min.z < b.max.z ∧ b.min.z < a.max.z

instance (a b : Box) : Decidable (a.Overlaps b) := inferInstanceAs (Decidable (_ ∧ _))

/-- The vertical extent, widened by one layer at either end, meets the layers `lo` to `hi`. -/
def Meets (b : Box) (lo hi : Int) : Prop := b.min.z - 1 ≤ hi ∧ lo ≤ b.max.z + 1

instance (b : Box) (lo hi : Int) : Decidable (b.Meets lo hi) := inferInstanceAs (Decidable (_ ∧ _))

theorem footprint_ofRect (r : Rect) (lo hi : Int) : (ofRect r lo hi).footprint = r := rfl

theorem footprint_sorted (b : Box) : b.sorted.footprint = b.footprint.sorted := rfl

theorem Overlaps.symm {a b : Box} (h : a.Overlaps b) : b.Overlaps a := ⟨h.2, h.1⟩

end Box

end TavernLayout
