import TavernLayout.Random.Source

/-!
# Lotteries

A lottery chooses one of several items with chances in proportion to their weights. The choice is a
function of a seed alone, so a recorded seed repeats it. Of the seed only the remainder modulo
65536 counts; it stands for a fraction of the total weight, and the item chosen is the first one
whose running sum of weights exceeds that part.

Weights may be floating point numbers, which the generator runs with, or exact rationals.

* `entries_build`: a lottery keeps the entries of positive weight, in order;
* `build_eq_error_iff`: it is refused exactly when there are none;
* `pick_mod`: only the remainder of the seed counts;
* `pick_mem`: what is chosen is an item of the lottery.
-/

namespace TavernLayout

/-- Numbers that can serve as weights. -/
class Weight (w : Type) where
  zero : w
  add : w → w → w
  mul : w → w → w
  /-- A fraction `k / 65536`. -/
  part : Nat → w
  /-- The first weight is smaller. -/
  less : w → w → Bool

/-- The number of fractions that a seed distinguishes. -/
def seedSteps : Nat := 65536

instance : Weight Float where
  zero := 0.0
  add x y := x + y
  mul x y := x * y
  part k := Float.ofNat k / 65536.0
  less x y := decide (x < y)

instance : Weight Rat where
  zero := 0
  add x y := x + y
  mul x y := x * y
  part k := (k : Rat) / 65536
  less x y := decide (x < y)

/-- A choice between one item or more, each with its weight. -/
structure Lottery (w α : Type) where
  first : w × α
  rest : List (w × α)
  deriving Repr

namespace Lottery

variable {w α : Type} [Weight w]

def entries (l : Lottery w α) : List (w × α) := l.first :: l.rest

def items (l : Lottery w α) : List α := l.entries.map (·.2)

def size (l : Lottery w α) : Nat := l.rest.length + 1

/-- The entry can be chosen. -/
def counts (e : w × α) : Bool := Weight.less Weight.zero e.1

/-- The lottery of the entries of positive weight. -/
def build (es : List (w × α)) : Except Fault (Lottery w α) :=
  match es.filter counts with
  | [] => .error .emptyLottery
  | e :: rest => .ok ⟨e, rest⟩

def build? (es : List (w × α)) : Option (Lottery w α) := (build es).toOption

def total (l : Lottery w α) : w := l.rest.foldl (fun s e => Weight.add s e.1) l.first.1

/-- The first item whose running sum exceeds `x`, the last item if none does. Here `a` is the next
item and `s` the sum of the weights up to it. -/
def pickFrom (x : w) (s : w) (a : α) : List (w × α) → α
  | [] => a
  | (v, b) :: rest => if Weight.less x s then a else pickFrom x (Weight.add s v) b rest

def pick (l : Lottery w α) (seed : Int) : α :=
  let x := Weight.mul (Weight.part (seed % seedSteps).toNat) l.total
  pickFrom x l.first.1 l.first.2 l.rest

def draw {σ : Type} (l : Lottery w α) (src : Source σ) : Draw σ α := do return l.pick (← src.seed)

/-! ## Laws -/

theorem entries_build {es : List (w × α)} {l : Lottery w α} (h : build es = .ok l) :
    l.entries = es.filter counts := by
  unfold build at h
  split at h
  · cases h
  · next heq =>
    cases h
    exact heq.symm

theorem build_eq_error_iff {es : List (w × α)} :
    build es = .error .emptyLottery ↔ ∀ e ∈ es, counts e = false := by
  unfold build
  split
  · next h => simpa [List.filter_eq_nil_iff] using h
  · next e rest h =>
    simp only [reduceCtorEq, false_iff]
    intro hall
    have : e ∈ es.filter counts := by simp [h]
    obtain ⟨hm, hc⟩ := List.mem_filter.1 this
    rw [hall e hm] at hc
    exact absurd hc (by decide)

theorem pick_mod (l : Lottery w α) (seed : Int) : l.pick (seed % seedSteps) = l.pick seed := by
  simp [pick]

theorem pickFrom_mem (x s : w) (a : α) (rest : List (w × α)) :
    pickFrom x s a rest = a ∨ pickFrom x s a rest ∈ rest.map (·.2) := by
  induction rest generalizing s a with
  | nil => exact .inl rfl
  | cons e rest ih =>
    obtain ⟨v, b⟩ := e
    unfold pickFrom
    split
    · exact .inl rfl
    · right
      rcases ih (Weight.add s v) b with h | h
      · rw [h]
        exact List.mem_cons_self
      · exact List.mem_cons_of_mem _ h

theorem pick_mem (l : Lottery w α) (seed : Int) : l.pick seed ∈ l.items := by
  unfold pick items entries
  rcases pickFrom_mem _ l.first.1 l.first.2 l.rest with h | h
  · rw [h]
    exact List.mem_cons_self
  · exact List.mem_cons_of_mem _ h

end Lottery

end TavernLayout
