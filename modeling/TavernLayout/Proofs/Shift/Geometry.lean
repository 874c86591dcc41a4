import TavernLayout.Grid.Box
import TavernLayout.Grid.Dir
import TavernLayout.Grid.Span

/-!
# Shifted rectangles

Moving everything by one vector moves whatever is computed from it by the same vector. Sizes,
distances and the relations of rectangles stay as they are, and the coordinate of an edge changes
by the vector's coordinate on that axis.

* `size_shift`, `collides_shift` …: what stays;
* `inter_shift`, `nearest_shift` …: what moves along;
* `edge_shift`, `onEdge_shift`, `edgePoint_shift`: edges and their points.
-/

namespace TavernLayout

def Span.shift (s : Span) (k : Int) : Span := ⟨s.lo + k, s.hi + k⟩

@[simp] theorem Span.lo_shift {s : Span} {k : Int} : (s.shift k).lo = s.lo + k := rfl

@[simp] theorem Span.hi_shift {s : Span} {k : Int} : (s.shift k).hi = s.hi + k := rfl

theorem Span.between_shift {a b k : Int} : between (a + k) (b + k) = (between a b).shift k := by
  simp only [between, shift, Int.min_add_right, Int.max_add_right]

namespace Vec2

variable {u v t : Vec2}

@[simp] theorem add_sub_add : (u + t) - (v + t) = u - v := by
  ext <;> simp only [x_sub, y_sub, x_add, y_add] <;> omega

theorem add_right_comm : u + t + v = u + v + t := by
  ext <;> simp only [x_add, y_add] <;> omega

theorem add_sub_right_comm : u + t - v = u - v + t := by
  ext <;> simp only [x_sub, y_sub, x_add, y_add] <;> omega

@[simp] theorem add_sub_cancel_right : u + t - t = u := by
  ext <;> simp only [x_sub, y_sub, x_add, y_add] <;> omega

end Vec2

namespace Rect

variable {r s : Rect} {p q t : Vec2}

@[simp] theorem min_shift : (r.shift t).min = r.min + t := rfl

@[simp] theorem max_shift : (r.shift t).max = r.max + t := rfl

theorem mk_shift : Rect.mk (p + t) (q + t) = (Rect.mk p q).shift t := rfl

@[simp] theorem size_shift : (r.shift t).size = r.size := Vec2.add_sub_add

@[simp] theorem area_shift : (r.shift t).area = r.area := by
  rw [area, size_shift, area]

@[simp] theorem cells_shift : (r.shift t).cells = r.cells := by
  rw [cells, size_shift, cells]

@[simp] theorem center_shift : (r.shift t).center = r.center + t := by
  rw [center, size_shift]
  exact Vec2.add_right_comm

@[simp] theorem valid_shift : (r.shift t).Valid ↔ r.Valid := by
  simp only [Valid, shift, Vec2.x_add, Vec2.y_add]
  omega

@[simp] theorem encloses_shift : (r.shift t).Encloses (s.shift t) ↔ r.Encloses s := by
  simp only [Encloses, shift, Vec2.x_add, Vec2.y_add]
  omega

@[simp] theorem collides_shift : (r.shift t).Collides (s.shift t) ↔ r.Collides s := by
  simp only [Collides, shift, Vec2.x_add, Vec2.y_add]
  omega

@[simp] theorem mem_shift : p + t ∈ r.shift t ↔ p ∈ r := by
  simp only [mem_iff, shift, Vec2.x_add, Vec2.y_add]
  omega

@[simp] theorem sorted_shift : (r.shift t).sorted = r.sorted.shift t := by
  ext <;> simp only [sorted, shift, Vec2.x_add, Vec2.y_add] <;> omega

@[simp] theorem inter_shift : (r.shift t).inter (s.shift t) = (r.inter s).shift t := by
  ext <;> simp only [inter, shift, Vec2.x_add, Vec2.y_add] <;> omega

@[simp] theorem hull_shift : (r.shift t).hull (s.shift t) = (r.hull s).shift t := by
  ext <;> simp only [hull, shift, Vec2.x_add, Vec2.y_add] <;> omega

@[simp] theorem nearest_shift : (r.shift t).nearest (p + t) = r.nearest p + t := by
  ext <;> simp only [nearest, shift, Vec2.x_add, Vec2.y_add] <;> omega

@[simp] theorem grow_shift {n : Int} : (r.shift t).grow n = (r.grow n).shift t := by
  ext <;> simp only [grow, shift, Vec2.x_add, Vec2.y_add, Vec2.x_sub, Vec2.y_sub] <;> omega

theorem shift_comm {v : Vec2} : (r.shift t).shift v = (r.shift v).shift t := by
  ext <;> simp only [shift, Vec2.x_add, Vec2.y_add] <;> omega

end Rect

namespace Dir

variable {r : Rect} {p q t : Vec2} {d : Dir} {c n : Int}

@[simp] theorem along_cw (d : Dir) (v : Vec2) : d.cw.along v = d.orthogonal.along v := by
  cases d <;> rfl

@[simp] theorem along_ccw (d : Dir) (v : Vec2) : d.ccw.along v = d.orthogonal.along v := by
  cases d <;> rfl

@[simp] theorem edge_shift : d.edge (r.shift t) = d.edge r + d.along t := by
  cases d <;> rfl

@[simp] theorem onEdge_shift : d.onEdge (r.shift t) (p + t) = d.onEdge r p + t := by
  cases d <;> rfl

@[simp] theorem edgePoint_shift :
    d.edgePoint (r.shift t) (c + d.orthogonal.along t) = d.edgePoint r c + t := by
  cases d <;> rfl

@[simp] theorem push_shift : d.push (r.shift t) n = (d.push r n).shift t := by
  cases d <;> ext <;> simp only [push, Rect.shift, Vec2.x_add, Vec2.y_add] <;> omega

@[simp] theorem trim_shift : d.trim (r.shift t) n = (d.trim r n).shift t := push_shift

@[simp] theorem splice_shift : d.splice (p + t) (q + t) = d.splice p q + t := by
  cases d <;> rfl

end Dir

/-! ## Boxes -/

def Vec3.shift (v : Vec3) (t : Vec2) : Vec3 := ⟨v.x + t.x, v.y + t.y, v.z⟩

@[simp] theorem Vec3.plan_shift {v : Vec3} {t : Vec2} : (v.shift t).plan = v.plan + t := rfl

@[simp] theorem Vec3.z_shift {v : Vec3} {t : Vec2} : (v.shift t).z = v.z := rfl

namespace Box

def shift (b : Box) (t : Vec2) : Box := ⟨b.min.shift t, b.max.shift t⟩

variable {a b : Box} {t : Vec2} {lo hi : Int}

@[simp] theorem footprint_shift : (b.shift t).footprint = b.footprint.shift t := rfl

@[simp] theorem min_z_shift : (b.shift t).min.z = b.min.z := rfl

@[simp] theorem max_z_shift : (b.shift t).max.z = b.max.z := rfl

@[simp] theorem meets_shift : (b.shift t).Meets lo hi ↔ b.Meets lo hi := Iff.rfl

@[simp] theorem overlaps_shift : (a.shift t).Overlaps (b.shift t) ↔ a.Overlaps b := Iff.rfl

@[simp] theorem ofRect_shift {r : Rect} : ofRect (r.shift t) lo hi = (ofRect r lo hi).shift t := rfl

@[simp] theorem sorted_shift : (b.shift t).sorted = b.sorted.shift t := by
  ext <;> simp only [sorted, shift, Vec3.shift] <;> omega

end Box

end TavernLayout
