import TavernLayout.Grid.Rect

/-!
# The four directions

The directions of the plan, in the order in which every search tries them: along x, along y,
against x, against y. A direction picks an axis out of a vector (`along`), an edge out of a
rectangle (`edge`), and moves that edge (`push`), so no other module distinguishes axes.

* `opposite_opposite`, `cw_ccw`: turning back;
* `along_toVec2`, `along_opposite`: a direction and its opposite share an axis;
* `edge_push`: pushing an edge outwards adds to its coordinate in the direction's sign.
-/

namespace TavernLayout

inductive Dir where
  | posX
  | posY
  | negX
  | negY
  deriving DecidableEq, Repr

namespace Dir

def all : List Dir := [posX, posY, negX, negY]

/-- The direction of the longer coordinate of `v`; the y axis when they are equally long. -/
def ofVec2 (v : Vec2) : Dir :=
  if v.y.natAbs < v.x.natAbs then (if 0 < v.x then posX else negX)
  else (if 0 < v.y then posY else negY)

def toVec2 : Dir → Vec2
  | posX => ⟨1, 0⟩
  | posY => ⟨0, 1⟩
  | negX => ⟨-1, 0⟩
  | negY => ⟨0, -1⟩

def opposite : Dir → Dir
  | posX => negX
  | posY => negY
  | negX => posX
  | negY => posY

/-- A quarter turn clockwise, y pointing up. -/
def cw : Dir → Dir
  | posX => negY
  | posY => posX
  | negX => posY
  | negY => negX

/-- A quarter turn counterclockwise, y pointing up. -/
def ccw : Dir → Dir
  | posX => posY
  | posY => negX
  | negX => negY
  | negY => posX

def isY : Dir → Bool
  | posX | negX => false
  | posY | negY => true

/-- The positive direction of the same axis. -/
def axis (d : Dir) : Dir := if d.isY then posY else posX

/-- The positive direction of the other axis. -/
def orthogonal (d : Dir) : Dir := if d.isY then posX else posY

def sign : Dir → Int
  | posX | posY => 1
  | negX | negY => -1

/-- The coordinate of `v` on the direction's axis. -/
def along (d : Dir) (v : Vec2) : Int := if d.isY then v.y else v.x

/-- The vector with this axis taken from `v` and the other axis from `w`. -/
def splice (d : Dir) (v w : Vec2) : Vec2 := if d.isY then ⟨w.x, v.y⟩ else ⟨v.x, w.y⟩

/-- The vector with `a` on this axis and `b` on the other one. -/
def vector (d : Dir) (a b : Int) : Vec2 := if d.isY then ⟨b, a⟩ else ⟨a, b⟩

/-- The coordinate of the edge of `r` that faces this direction. -/
def edge (d : Dir) (r : Rect) : Int :=
  match d with
  | posX => r.max.x
  | posY => r.max.y
  | negX => r.min.x
  | negY => r.min.y

/-- The point of the facing edge of `r` whose other coordinate is that of `p`. -/
def onEdge (d : Dir) (r : Rect) (p : Vec2) : Vec2 :=
  if d.isY then ⟨p.x, d.edge r⟩ else ⟨d.edge r, p.y⟩

/-- The point of the facing edge of `r` whose other coordinate is `c`. -/
def edgePoint (d : Dir) (r : Rect) (c : Int) : Vec2 := d.onEdge r (Vec2.diag c)

/-- The facing edge of `r` moved outwards by `n`. -/
def push (d : Dir) (r : Rect) (n : Int) : Rect :=
  match d with
  | posX => ⟨r.min, ⟨r.max.x + n, r.max.y⟩⟩
  | posY => ⟨r.min, ⟨r.max.x, r.max.y + n⟩⟩
  | negX => ⟨⟨r.min.x - n, r.min.y⟩, r.max⟩
  | negY => ⟨⟨r.min.x, r.min.y - n⟩, r.max⟩

/-- The edge of `r` opposite to this direction moved inwards by `n`. -/
def trim (d : Dir) (r : Rect) (n : Int) : Rect := d.opposite.push r (-n)

def label : Dir → String
  | posX => "X"
  | posY => "Y"
  | negX => "NEG_X"
  | negY => "NEG_Y"

/-! ## Turning -/

theorem mem_all (d : Dir) : d ∈ all := by cases d <;> decide

@[simp] theorem opposite_opposite (d : Dir) : d.opposite.opposite = d := by cases d <;> rfl

@[simp] theorem cw_ccw (d : Dir) : d.ccw.cw = d := by cases d <;> rfl

@[simp] theorem ccw_cw (d : Dir) : d.cw.ccw = d := by cases d <;> rfl

theorem opposite_cw (d : Dir) : d.cw.opposite = d.ccw := by cases d <;> rfl

theorem cw_opposite (d : Dir) : d.opposite.cw = d.ccw := by cases d <;> rfl

theorem ccw_opposite (d : Dir) : d.opposite.ccw = d.cw := by cases d <;> rfl

theorem opposite_ne (d : Dir) : d.opposite ≠ d := by cases d <;> decide

@[simp] theorem isY_opposite (d : Dir) : d.opposite.isY = d.isY := by cases d <;> rfl

@[simp] theorem orthogonal_opposite (d : Dir) : d.opposite.orthogonal = d.orthogonal := by
  cases d <;> rfl

@[simp] theorem isY_orthogonal (d : Dir) : d.orthogonal.isY = !d.isY := by cases d <;> rfl

@[simp] theorem sign_opposite (d : Dir) : d.opposite.sign = -d.sign := by cases d <;> rfl

theorem ofVec2_toVec2 (d : Dir) : ofVec2 d.toVec2 = d := by cases d <;> decide

/-! ## Axes -/

theorem along_opposite (d : Dir) (v : Vec2) : d.opposite.along v = d.along v := by cases d <;> rfl

theorem along_toVec2 (d : Dir) : d.along d.toVec2 = d.sign := by cases d <;> rfl

theorem along_add (d : Dir) (v w : Vec2) : d.along (v + w) = d.along v + d.along w := by
  cases d <;> rfl

theorem along_sub (d : Dir) (v w : Vec2) : d.along (v - w) = d.along v - d.along w := by
  cases d <;> rfl

theorem along_onEdge (d : Dir) (r : Rect) (p : Vec2) : d.along (d.onEdge r p) = d.edge r := by
  cases d <;> rfl

theorem along_orthogonal_onEdge (d : Dir) (r : Rect) (p : Vec2) :
    d.orthogonal.along (d.onEdge r p) = d.orthogonal.along p := by
  cases d <;> rfl

/-! ## Edges -/

theorem edge_push (d : Dir) (r : Rect) (n : Int) : d.edge (d.push r n) = d.edge r + d.sign * n := by
  cases d <;> simp only [edge, push, sign] <;> omega

theorem edge_push_of_ne {d e : Dir} (h : e ≠ d) (r : Rect) (n : Int) :
    e.edge (d.push r n) = e.edge r := by
  cases d <;> cases e <;> first | exact absurd rfl h | rfl

theorem edge_grow (d : Dir) (r : Rect) (n : Int) : d.edge (r.grow n) = d.edge r + d.sign * n := by
  cases d <;> simp only [edge, Rect.grow, sign, Vec2.x_add, Vec2.y_add, Vec2.x_sub, Vec2.y_sub,
    Vec2.x_diag, Vec2.y_diag] <;> omega

end Dir

end TavernLayout
