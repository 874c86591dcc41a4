import TavernLayout.Grid.Dir
import TavernLayout.Fault

/-!
# Maps over the directions

One value for each of the four directions.

* `get_set_self`, `get_set_of_ne`: writing one slot leaves the others alone;
* `toList_ofList`: a map built from four values lists them again.
-/

namespace TavernLayout

structure DirMap (α : Type) where
  posX : α
  posY : α
  negX : α
  negY : α
  deriving DecidableEq, Repr

namespace DirMap

variable {α β : Type}

def const (a : α) : DirMap α := ⟨a, a, a, a⟩

def ofFn (f : Dir → α) : DirMap α := ⟨f .posX, f .posY, f .negX, f .negY⟩

/-- The map with the given four values, in the order of the directions. -/
def ofList : List α → Except Fault (DirMap α)
  | [a, b, c, d] => .ok ⟨a, b, c, d⟩
  | as => .error (.slotCount as.length)

def get (m : DirMap α) : Dir → α
  | .posX => m.posX
  | .posY => m.posY
  | .negX => m.negX
  | .negY => m.negY

def set (m : DirMap α) (d : Dir) (a : α) : DirMap α :=
  match d with
  | .posX => { m with posX := a }
  | .posY => { m with posY := a }
  | .negX => { m with negX := a }
  | .negY => { m with negY := a }

def modify (m : DirMap α) (d : Dir) (f : α → α) : DirMap α := m.set d (f (m.get d))

/-- The values in the order of the directions. -/
def toList (m : DirMap α) : List α := [m.posX, m.posY, m.negX, m.negY]

def items (m : DirMap α) : List (Dir × α) := Dir.all.map fun d => (d, m.get d)

def map (f : α → β) (m : DirMap α) : DirMap β := ⟨f m.posX, f m.posY, f m.negX, f m.negY⟩

def text (value : α → String) (m : DirMap α) : String :=
  "DirMap(" ++ String.intercalate ", " (m.items.map fun s => s.1.label ++ "=" ++ value s.2) ++ ")"

@[simp] theorem get_const (a : α) (d : Dir) : (const a).get d = a := by cases d <;> rfl

@[simp] theorem get_ofFn (f : Dir → α) (d : Dir) : (ofFn f).get d = f d := by cases d <;> rfl

@[simp] theorem get_set_self (m : DirMap α) (d : Dir) (a : α) : (m.set d a).get d = a := by
  cases d <;> rfl

theorem get_set_of_ne (m : DirMap α) {d e : Dir} (h : e ≠ d) (a : α) :
    (m.set d a).get e = m.get e := by
  cases d <;> cases e <;> first | exact absurd rfl h | rfl

theorem toList_eq_map (m : DirMap α) : m.toList = Dir.all.map m.get := rfl

theorem toList_ofList {as : List α} {m : DirMap α} (h : ofList as = .ok m) : m.toList = as := by
  unfold ofList at h
  split at h
  · cases h
    rfl
  · cases h

end DirMap

end TavernLayout
