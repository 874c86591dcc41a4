import TavernLayout.Fault

/-!
# Random sources

A source turns a state into a random value and the next state. It answers four questions: a number
from 0 up to 1, an integer between two bounds, a position in a list, and a number of random bits.
A `Draw` is a program over one source. It counts its questions, the refused ones included, and
keeps its state when it fails, so a stream can be continued after a fault.

* `Source.Lawful`: answers keep to the bounds that were asked for;
* `between_ok`, `choose_ok`: what a lawful source answers;
* `between_error_iff`, `choose_nil`: exactly what is refused.
-/

namespace TavernLayout

instance {σ : Type} : MonadLift (Except Fault) (EStateM Fault σ) :=
  ⟨fun x => match x with
    | .ok a => pure a
    | .error e => throw e⟩

/-- A sequence succeeds exactly when both of its parts do. -/
theorem bind_eq_ok_iff {σ α β : Type} {x : EStateM Fault σ α} {f : α → EStateM Fault σ β} {s t : σ}
    {b : β} : (x >>= f) s = .ok b t ↔ ∃ a u, x s = .ok a u ∧ f a u = .ok b t := by
  simp only [bind, EStateM.bind]
  cases x s with
  | ok a u =>
    constructor
    · intro h
      exact ⟨a, u, rfl, h⟩
    · rintro ⟨a', u', h, hf⟩
      cases h
      exact hf
  | error e u =>
    constructor
    · intro h
      cases h
    · rintro ⟨a', u', h, _⟩
      cases h

/-- A source of randomness with states in `σ`. -/
structure Source (σ : Type) where
  /-- A number from 0 up to 1. -/
  nextUnit : σ → Float × σ
  /-- An integer from `lo` to `hi`. -/
  nextBetween : σ → (lo hi : Int) → Int × σ
  /-- A position in a list of the given length. -/
  nextIndex : σ → (length : Nat) → Nat × σ
  /-- A number of the given number of bits. -/
  nextBits : σ → (count : Nat) → Nat × σ
  /-- Why a number of bits cannot be asked for, if it cannot, and the state after the refusal. -/
  refusedBits : σ → (count : Int) → Option (Fault × σ)

/-- The state of a source together with the number of questions asked so far. -/
structure Stream (σ : Type) where
  state : σ
  draws : Nat := 0

abbrev Draw (σ : Type) := EStateM Fault (Stream σ)

namespace Source

variable {σ α : Type}

/-- Every answer keeps to the bounds asked for. -/
structure Lawful (src : Source σ) : Prop where
  le_between : ∀ s lo hi, lo ≤ hi → lo ≤ (src.nextBetween s lo hi).1
  between_le : ∀ s lo hi, lo ≤ hi → (src.nextBetween s lo hi).1 ≤ hi
  index_lt : ∀ s n, 0 < n → (src.nextIndex s n).1 < n
  bits_lt : ∀ s k, (src.nextBits s k).1 < Nat.pow 2 k

/-- Counts a question and answers it. -/
def ask (f : σ → α × σ) : Draw σ α := fun st =>
  .ok (f st.state).1 ⟨(f st.state).2, st.draws + 1⟩

/-- Counts a question and refuses it; the source does not notice. -/
def refuse (e : Fault) : Draw σ α := fun st => .error e { st with draws := st.draws + 1 }

def unit (src : Source σ) : Draw σ Float := ask src.nextUnit

def between (src : Source σ) (lo hi : Int) : Draw σ Int :=
  if hi < lo then refuse .emptyRange else ask (src.nextBetween · lo hi)

def choose (src : Source σ) : List α → Draw σ α
  | [] => refuse .emptyChoice
  | a :: as => do return (a :: as).getD (← ask (src.nextIndex · (as.length + 1))) a

def bits (src : Source σ) (count : Int) : Draw σ Nat :=
  fun st => match src.refusedBits st.state count with
    | some (e, s) => .error e ⟨s, st.draws + 1⟩
    | none => ask (src.nextBits · count.toNat) st

def chance (src : Source σ) (p : Float) : Draw σ Bool := do return decide ((← src.unit) < p)

/-- The seed of a lottery: thirty-two random bits. -/
def seed (src : Source σ) : Draw σ Nat := ask (src.nextBits · 32)

/-! ## Answers -/

theorem between_ok {src : Source σ} (hs : src.Lawful) {lo hi : Int} (h : lo ≤ hi) (st : Stream σ) :
    ∃ n st', src.between lo hi st = .ok n st' ∧ lo ≤ n ∧ n ≤ hi ∧ st'.draws = st.draws + 1 := by
  have hn : ¬ hi < lo := by omega
  exact ⟨_, _, by rw [between, if_neg hn, ask], hs.le_between _ _ _ h, hs.between_le _ _ _ h, rfl⟩

theorem between_error_iff {src : Source σ} {lo hi : Int} {st : Stream σ} :
    (∃ e st', src.between lo hi st = .error e st') ↔ hi < lo := by
  constructor
  · rintro ⟨e, st', h⟩
    unfold between at h
    split at h
    · assumption
    · cases h
  · intro h
    exact ⟨_, _, by rw [between, if_pos h, refuse]⟩

theorem choose_nil (src : Source σ) (st : Stream σ) :
    src.choose ([] : List α) st = .error .emptyChoice { st with draws := st.draws + 1 } := rfl

theorem choose_ok {src : Source σ} (hs : src.Lawful) {as : List α} (h : as ≠ []) (st : Stream σ) :
    ∃ a st', src.choose as st = .ok a st' ∧ a ∈ as ∧ st'.draws = st.draws + 1 := by
  cases as with
  | nil => exact absurd rfl h
  | cons a as =>
    refine ⟨_, _, rfl, ?_, rfl⟩
    have hi := hs.index_lt st.state (as.length + 1) (Nat.succ_pos _)
    rw [List.getD_eq_getElem?_getD, List.getElem?_eq_getElem (by simpa using hi)]
    exact List.getElem_mem _

end Source

end TavernLayout
