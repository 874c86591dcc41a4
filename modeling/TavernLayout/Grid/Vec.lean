/-!
# Integer vectors

Points and displacements of the voxel grid. A plan lives in the plane (`Vec2`); heights are added
as a third coordinate (`Vec3`).

* `v + w`, `v - w`, `-v`: coordinate by coordinate;
* `v * w`: coordinate by coordinate;
* `k • v`: every coordinate times `k`;
* `Vec2.diag n`: the vector with both coordinates `n`.
-/

namespace TavernLayout

@[ext] structure Vec2 where
  x : Int
  y : Int
  deriving DecidableEq, Repr

/-- A point in space; `z` counts layers upwards. -/
@[ext] structure Vec3 where
  x : Int
  y : Int
  z : Int
  deriving DecidableEq, Repr

namespace Vec2

def diag (n : Int) : Vec2 := ⟨n, n⟩

instance : Add Vec2 := ⟨fun v w => ⟨v.x + w.x, v.y + w.y⟩⟩
instance : Sub Vec2 := ⟨fun v w => ⟨v.x - w.x, v.y - w.y⟩⟩
instance : Mul Vec2 := ⟨fun v w => ⟨v.x * w.x, v.y * w.y⟩⟩
instance : Neg Vec2 := ⟨fun v => ⟨-v.x, -v.y⟩⟩
instance : SMul Int Vec2 := ⟨fun k v => ⟨k * v.x, k * v.y⟩⟩

def least (v : Vec2) : Int := min v.x v.y

def greatest (v : Vec2) : Int := max v.x v.y

def product (v : Vec2) : Int := v.x * v.y

/-- The point of space above `v` in layer `z`. -/
def atLevel (v : Vec2) (z : Int) : Vec3 := ⟨v.x, v.y, z⟩

/-! ## Coordinates of the operations -/

@[simp] theorem x_diag (n : Int) : (diag n).x = n := rfl
@[simp] theorem y_diag (n : Int) : (diag n).y = n := rfl
@[simp] theorem x_add (v w : Vec2) : (v + w).x = v.x + w.x := rfl
@[simp] theorem y_add (v w : Vec2) : (v + w).y = v.y + w.y := rfl
@[simp] theorem x_sub (v w : Vec2) : (v - w).x = v.x - w.x := rfl
@[simp] theorem y_sub (v w : Vec2) : (v - w).y = v.y - w.y := rfl
@[simp] theorem x_mul (v w : Vec2) : (v * w).x = v.x * w.x := rfl
@[simp] theorem y_mul (v w : Vec2) : (v * w).y = v.y * w.y := rfl
@[simp] theorem x_neg (v : Vec2) : (-v).x = -v.x := rfl
@[simp] theorem y_neg (v : Vec2) : (-v).y = -v.y := rfl
@[simp] theorem x_smul (k : Int) (v : Vec2) : (k • v).x = k * v.x := rfl
@[simp] theorem y_smul (k : Int) (v : Vec2) : (k • v).y = k * v.y := rfl

end Vec2

namespace Vec3

def plan (v : Vec3) : Vec2 := ⟨v.x, v.y⟩

@[simp] theorem x_plan (v : Vec3) : v.plan.x = v.x := rfl
@[simp] theorem y_plan (v : Vec3) : v.plan.y = v.y := rfl

theorem plan_atLevel (v : Vec2) (z : Int) : (v.atLevel z).plan = v := rfl

def text (v : Vec3) : String :=
  "Vec3(x=" ++ toString v.x ++ ", y=" ++ toString v.y ++ ", z=" ++ toString v.z ++ ")"

end Vec3

/-- The value between `lo` and `hi` nearest to `n`; `lo` when the bounds are crossed. -/
def clamp (n lo hi : Int) : Int := max lo (min n hi)

theorem le_clamp (n lo hi : Int) : lo ≤ clamp n lo hi := Int.le_max_left ..

theorem clamp_le {lo hi : Int} (n : Int) (h : lo ≤ hi) : clamp n lo hi ≤ hi := by
  unfold clamp
  omega

end TavernLayout
