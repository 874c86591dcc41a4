import TavernLayout.Layout.Entrance
import TavernLayout.Layout.Basement

/-!
# Growth

A building grows from its entrance. Again and again a room is drawn from the frontier and given one
chance: a room on one of its free sides or, when these are used up, a basement. A chance that comes
to nothing is lost, so every room gets a bounded number of them.

* `tokens_nextTrial`: a chance uses up one of the room's prospects;
* `tokens_eq_zero_iff`: a room without prospects leaves the frontier.
-/

namespace TavernLayout

namespace Prospect

/-- The number of chances a room still has. -/
def tokens (p : Prospect) : Nat := p.sides.length + if p.basement then 1 else 0

theorem tokens_eq_zero_iff {p : Prospect} : p.tokens = 0 ↔ p.exhausted = true := by
  cases p with
  | mk room sides basement => cases basement <;> simp [tokens, exhausted]

end Prospect

/-- What a room is given a chance for. -/
inductive Trial where
  | side (d : Dir)
  | basement
  deriving DecidableEq, Repr

namespace Growth

/-- Draws the trial of a room and what the room may try later. -/
def nextTrial {σ : Type} (src : Source σ) (p : Prospect) : Draw σ (Option Trial × Prospect) := do
  if p.sides ≠ [] then
    let d ← src.choose p.sides
    return (some (.side d), { p with sides := p.sides.erase d })
  else if p.basement then return (some .basement, { p with basement := false })
  else return (none, p)

/-- Gives one room of the frontier a chance. -/
def step {σ : Type} (src : Source σ) (plot : Plot) : Build σ Unit := do
  let frontier := (← get).frontier
  let i ← Build.draw (src.between 0 ((frontier.length : Int) - 1))
  match frontier[i.toNat]? with
  | none => throw .outOfRange
  | some p =>
    modify fun w => { w with frontier := frontier.eraseIdx i.toNat }
    let (trial, p) ← Build.draw (nextTrial src p)
    match trial with
    | some (.side d) => discard (growSide src plot p.room d)
    | some .basement => discard (digBasement src plot p.room)
    | none => pure ()
    if ¬p.exhausted then modify fun w => { w with frontier := w.frontier ++ [p] }

/-- Gives chances until the frontier is empty, `fuel` at most. -/
def run {σ : Type} (src : Source σ) (plot : Plot) : Nat → Build σ Unit
  | 0 => do if (← get).frontier ≠ [] then throw .unfinished
  | fuel + 1 => do
    if (← get).frontier ≠ [] then
      step src plot
      run src plot fuel

/-- The rectangle around the interior and all rooms, with space for walls. -/
def extent {σ : Type} (plot : Plot) (w : Works σ) : Rect :=
  let footprints := w.rooms.items.map Room.footprint
  (footprints.foldl (fun r s => r.hull s.sorted) plot.interior.sorted).grow 2

/-- More chances than there can be. The rooms that descend sideways from one room of the frontier,
or from one of the two basements that bars allow, do not overlap, and each has at most four. -/
def bound {σ : Type} (plot : Plot) (w : Works σ) : Nat :=
  let roots := w.frontier.length
  5 * (roots + (roots + 2) * (extent plot w).cells.toNat)

theorem tokens_nextTrial {σ : Type} {src : Source σ} (hs : src.Lawful) {p q : Prospect}
    {t : Option Trial} {st st' : Stream σ} (h : nextTrial src p st = .ok (t, q) st')
    (hp : p.exhausted = false) : q.tokens + 1 = p.tokens := by
  unfold nextTrial at h
  split at h
  · next hne =>
    obtain ⟨d, st1, hd, hmem, _⟩ := Source.choose_ok hs hne st
    simp only [bind, EStateM.bind, hd, pure, EStateM.pure, EStateM.Result.ok.injEq,
      Prod.mk.injEq] at h
    obtain ⟨⟨_, rfl⟩, _⟩ := h
    have hl := List.length_erase_of_mem hmem
    have := List.length_pos_of_mem hmem
    simp only [Prospect.tokens]
    omega
  · next hne =>
    split at h
    · next hb =>
      cases h
      simp [Prospect.tokens, hb]
    · next hb =>
      simp only [ne_eq, Decidable.not_not] at hne
      simp [Prospect.exhausted, hne, hb] at hp

end Growth

def grow {σ : Type} (src : Source σ) (plot : Plot) : Build σ Unit := do
  Growth.run src plot (Growth.bound plot (← get))

end TavernLayout
