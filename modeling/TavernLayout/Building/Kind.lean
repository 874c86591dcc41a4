import TavernLayout.Grid.Rect
import TavernLayout.Grid.Span
import TavernLayout.Lottery
import TavernLayout.Number.Binary

/-!
# Kinds of rooms

A kind says how large a room may be, how likely another one is after those already built, and which
kinds may be built beside it or underneath. Side lengths and areas follow `Rect.size`.

* `Accepts.fits`: a rectangle of acceptable size has space for the kind;
* `mem_sideKinds`, `mem_basementKinds`: the kinds built beside and underneath.
-/

namespace TavernLayout

/-- What a room is used for. -/
inductive Kind where
  | garden
  | stage
  | bar
  | seating
  | entrance
  | cellar
  deriving DecidableEq, Repr

/-- How many rooms of each kind there are. -/
abbrev Counts := Kind → Int

namespace Counts

def none : Counts := fun _ => 0

def add (c : Counts) (k : Kind) : Counts := fun l => if l = k then c l + 1 else c l

end Counts

namespace Kind

def all : List Kind := [garden, stage, bar, seating, entrance, cellar]

def label : Kind → String
  | garden => "garden"
  | stage => "stage"
  | bar => "bar"
  | seating => "seating"
  | entrance => "entrance"
  | cellar => "cellar"

def sides : Kind → Span
  | garden => ⟨5, 20⟩
  | seating => ⟨4, 20⟩
  | cellar => ⟨6, 12⟩
  | stage => ⟨11, 22⟩
  | bar => ⟨9, 16⟩
  | entrance => ⟨3, 7⟩

def areas : Kind → Span
  | garden => ⟨35, 250⟩
  | seating => ⟨35, 250⟩
  | cellar => ⟨35, 110⟩
  | stage => ⟨150, 400⟩
  | bar => ⟨80, 196⟩
  | entrance => ⟨12, 40⟩

/-- The smaller side and the area of `space` reach the least ones of the kind. -/
def Fits (k : Kind) (space : Rect) : Prop :=
  k.sides.lo ≤ space.size.least ∧ k.areas.lo ≤ space.size.product

instance (k : Kind) (space : Rect) : Decidable (k.Fits space) := inferInstanceAs (Decidable (_ ∧ _))

/-- The rectangle is a room of the kind: both sides and the area are in range. -/
def Accepts (k : Kind) (r : Rect) : Prop :=
  r.Valid ∧ k.sides.lo ≤ r.size.least ∧ r.size.greatest ≤ k.sides.hi ∧
    k.areas.lo ≤ r.size.product ∧ r.size.product ≤ k.areas.hi

instance (k : Kind) (r : Rect) : Decidable (k.Accepts r) :=
  inferInstanceAs (Decidable (_ ∧ _ ∧ _ ∧ _ ∧ _))

def sideKinds : Kind → List Kind
  | cellar => [cellar]
  | _ => [stage, garden, bar, seating]

def basementKinds : Kind → List Kind
  | bar => [cellar]
  | _ => []

/-! ## Chances -/

/-- One more than a count that has been rounded to a double; the sum is not rounded yet. -/
def nextCount (n : Int) : Int := Number.roundInt n + 1

/-- The weight of one more room of the kind when there are `n` already. A second stage never
happens and a second bar hardly ever. -/
def chance (k : Kind) (n : Int) : Except Fault Float :=
  match k with
  | garden => do
    let divisor ← Number.square (nextCount n)
    if n = -1 then throw .divisionByZero
    return 0.05 / divisor
  | seating => do
    let divisor ← Number.ofInt (nextCount n)
    if n = -1 then throw .divisionByZero
    return 0.4 / divisor
  | stage => .ok (if n = 0 then 1.0 else 0.0)
  | bar => .ok (if n = 0 then 1.0 else if n = 1 then 0.01 else 0.0)
  | entrance => .ok 0.0
  | cellar => .ok 1.0

/-- The lottery for the room behind the front door, which may be a garden if there is space for
one. The temperature is the scale of its weight; lotteries drop weights that are not positive. -/
def entranceLottery (temperature : Float) (space? : Option Rect) :
    Except Fault (Lottery Float Kind) :=
  let weight :=
    if space?.all fun space => decide (garden.Fits space) then 0.5 * temperature else 0.0
  Lottery.build [(weight, garden), (2.0, entrance)]

/-- The weight of one more room of the kind beside another one. That of a garden is scaled by the
temperature. -/
def sideWeight (k : Kind) (n : Int) (temperature : Float) : Except Fault Float := do
  let weight ← k.chance n
  return if k = garden then weight * temperature else weight

/-- The lottery for a room beside this one in the given space, if some kind has a chance. -/
def sideLottery? (k : Kind) (space : Rect) (counts : Counts) (temperature : Float) :
    Except Fault (Option (Lottery Float Kind)) := do
  let es ← (k.sideKinds.filter fun l => decide (l.Fits space)).mapM fun l => do
    return (← l.sideWeight (counts l) temperature, l)
  return Lottery.build? es

def basementLottery? (k : Kind) (space : Rect) (counts : Counts) :
    Except Fault (Option (Lottery Float Kind)) := do
  let es ← (k.basementKinds.filter fun l => decide (l.Fits space)).mapM fun l => do
    return (← l.chance (counts l), l)
  return Lottery.build? es

/-! ## Laws -/

theorem mem_all (k : Kind) : k ∈ all := by cases k <;> decide

theorem Accepts.fits {k : Kind} {r : Rect} (h : k.Accepts r) : k.Fits r := ⟨h.2.1, h.2.2.2.1⟩

theorem mem_sideKinds {k l : Kind} (h : l ∈ k.sideKinds) : l = cellar ↔ k = cellar := by
  cases k <;> simp [sideKinds] at h ⊢ <;> rcases h with rfl | rfl | rfl | rfl <;> simp

theorem mem_basementKinds {k l : Kind} : l ∈ k.basementKinds ↔ k = bar ∧ l = cellar := by
  cases k <;> simp [basementKinds]

end Kind

end TavernLayout
