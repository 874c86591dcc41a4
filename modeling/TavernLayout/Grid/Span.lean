/-!
# Spans

A span is a run of integers, both ends included. Cutting a span out of a list of spans keeps what
lies before and after it.

* `mem_minus_iff`: what is left of one span;
* `mem_cut_iff`: cutting removes exactly the integers of the cut.
-/

namespace TavernLayout

/-- The integers from `lo` to `hi`. -/
structure Span where
  lo : Int
  hi : Int
  deriving DecidableEq, Repr

namespace Span

instance : Membership Int Span := ⟨fun s n => s.lo ≤ n ∧ n ≤ s.hi⟩

theorem mem_iff {n : Int} {s : Span} : n ∈ s ↔ s.lo ≤ n ∧ n ≤ s.hi := Iff.rfl

instance (n : Int) (s : Span) : Decidable (n ∈ s) := inferInstanceAs (Decidable (_ ∧ _))

/-- The span between two integers given in either order. -/
def between (a b : Int) : Span := ⟨min a b, max a b⟩

/-- What is left of `s` without the integers of `c`: at most a piece before and a piece after. -/
def minus (s c : Span) : List Span :=
  if c.hi < s.lo ∨ s.hi < c.lo then [s]
  else
    (if s.lo < c.lo then [⟨s.lo, c.lo - 1⟩] else []) ++
    (if c.hi < s.hi then [⟨c.hi + 1, s.hi⟩] else [])

def cut (ss : List Span) (c : Span) : List Span := ss.flatMap (·.minus c)

theorem mem_minus_iff {s c : Span} (h : c.lo ≤ c.hi) {n : Int} :
    (∃ t ∈ s.minus c, n ∈ t) ↔ n ∈ s ∧ ¬ n ∈ c := by
  simp only [minus, mem_iff]
  split
  · simp only [List.mem_singleton, exists_eq_left]
    omega
  · by_cases h1 : s.lo < c.lo <;> by_cases h2 : c.hi < s.hi <;> simp [h1, h2] <;> omega

theorem mem_cut_iff {ss : List Span} {c : Span} (h : c.lo ≤ c.hi) {n : Int} :
    (∃ t ∈ cut ss c, n ∈ t) ↔ (∃ s ∈ ss, n ∈ s) ∧ ¬ n ∈ c := by
  constructor
  · rintro ⟨t, ht, hn⟩
    obtain ⟨s, hs, hts⟩ := List.mem_flatMap.1 ht
    obtain ⟨h1, h2⟩ := (mem_minus_iff h).1 ⟨t, hts, hn⟩
    exact ⟨⟨s, hs, h1⟩, h2⟩
  · rintro ⟨⟨s, hs, hn⟩, hc⟩
    obtain ⟨t, ht, hnt⟩ := (mem_minus_iff h).2 ⟨hn, hc⟩
    exact ⟨t, List.mem_flatMap.2 ⟨s, hs, ht⟩, hnt⟩

end Span

end TavernLayout
