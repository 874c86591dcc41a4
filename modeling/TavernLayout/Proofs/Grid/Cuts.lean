import Mathlib.Data.List.Basic
import Mathlib.Order.BooleanAlgebra.Set
import TavernLayout.Grid.Span

/-!
# Cutting spans out of spans

Spans in order stay in order when others are cut out of them, one after the other, and what is left
are the integers outside all cuts. The pieces of one span never touch each other, since something
was cut out between them. So they are the runs of the integers that are left of it, and neither
the order of the cuts nor their overlaps make a difference.

* `ordered_iff`: spans are in order when each of them ends before the next one starts;
* `points_foldl_cut`: the integers that several cuts leave;
* `Spaced.cut`, `Spaced.foldl_cut`: cuts keep spans in order, and the pieces of one span apart;
* `Spaced.eq_of_points_eq`: spans that do not touch are known from their integers;
* `foldl_cut_eq_of_points_eq`: cuts of the same integers leave the same spans;
* `cuts_exact`: what several cuts leave of spans in order.
-/

namespace TavernLayout.Span

variable {c s t : Span} {ss ts cuts cuts' : List Span} {g n : Int}

def points (ss : List Span) : Set Int := {n | ∃ s ∈ ss, n ∈ s}

/-- Non-empty spans in ascending order, no two of which share an integer. -/
structure Ordered (ss : List Span) : Prop where
  filled : ∀ s ∈ ss, ∃ n, n ∈ s
  sorted : ss.Pairwise fun s t => s.lo ≤ t.lo
  disjoint : ss.Pairwise fun s t => ∀ n ∈ s, ¬ n ∈ t

/-- Non-empty spans in ascending order with at least `g` integers between any two. -/
structure Spaced (g : Int) (ss : List Span) : Prop where
  filled : ∀ s ∈ ss, s.lo ≤ s.hi
  apart : ss.Pairwise fun s t => s.hi + g < t.lo

theorem exists_mem_iff : (∃ n, n ∈ s) ↔ s.lo ≤ s.hi := by
  constructor
  · rintro ⟨n, hn⟩
    exact Int.le_trans hn.1 hn.2
  · intro h
    exact ⟨s.lo, Int.le_refl _, h⟩

theorem ordered_iff : Ordered ss ↔ Spaced 0 ss := by
  constructor
  · intro h
    have hfilled : ∀ s ∈ ss, s.lo ≤ s.hi := fun s hs => exists_mem_iff.1 (h.filled s hs)
    refine ⟨hfilled, (h.sorted.and h.disjoint).imp_of_mem ?_⟩
    rintro s t hs ht ⟨hle, hdisj⟩
    by_contra hlt
    exact hdisj t.lo ⟨hle, by omega⟩ ⟨Int.le_refl _, hfilled t ht⟩
  · intro h
    refine ⟨fun s hs => exists_mem_iff.2 (h.filled s hs), h.apart.imp_of_mem ?_,
      h.apart.imp ?_⟩
    · intro s t hs _ hlt
      have := h.filled s hs
      omega
    · intro s t hlt n hs ht
      rw [mem_iff] at hs ht
      omega

/-! ## Integers -/

theorem mem_points : n ∈ points ss ↔ ∃ s ∈ ss, n ∈ s := Iff.rfl

theorem points_nil : points [] = ∅ := by
  ext n
  simp [mem_points]

theorem points_cons (s : Span) (ss : List Span) : points (s :: ss) = {n | n ∈ s} ∪ points ss := by
  ext n
  simp [mem_points]

theorem points_eq_of_perm (h : cuts.Perm cuts') : points cuts = points cuts' := by
  ext n
  simp only [mem_points, h.mem_iff]

theorem points_cut (hc : c.lo ≤ c.hi) (ss : List Span) :
    points (cut ss c) = points ss \ {n | n ∈ c} := by
  ext n
  exact mem_cut_iff hc

theorem points_foldl_cut (hc : ∀ c ∈ cuts, c.lo ≤ c.hi) (ss : List Span) :
    points (cuts.foldl cut ss) = points ss \ points cuts := by
  induction cuts generalizing ss with
  | nil => rw [List.foldl_nil, points_nil, Set.sdiff_empty]
  | cons c cuts ih =>
    rw [List.forall_mem_cons] at hc
    calc points (cuts.foldl cut (cut ss c)) = points (cut ss c) \ points cuts := ih hc.2 _
      _ = (points ss \ {n | n ∈ c}) \ points cuts := by rw [points_cut hc.1]
      _ = points ss \ points (c :: cuts) := by rw [points_cons, sdiff_sdiff_left]; rfl

/-! ## Order -/

/-- Every piece lies within the span that was cut. -/
theorem within_of_mem_minus (ht : t ∈ s.minus c) : s.lo ≤ t.lo ∧ t.hi ≤ s.hi := by
  unfold minus at ht
  split at ht
  · obtain rfl := List.mem_singleton.1 ht
    omega
  · rcases List.mem_append.1 ht with ht | ht
    all_goals
      split at ht
      · obtain rfl := List.mem_singleton.1 ht
        dsimp only
        omega
      · cases ht

/-- The cut keeps the pieces of one span apart. -/
theorem spaced_minus (hg : g ≤ 1) (hs : s.lo ≤ s.hi) (hc : c.lo ≤ c.hi) :
    Spaced g (s.minus c) := by
  unfold minus
  split
  · exact ⟨by simpa using hs, List.pairwise_singleton _ _⟩
  · split
    · split
      · exact ⟨by simp; omega, by simp; omega⟩
      · exact ⟨by simp; omega, by simp⟩
    · split
      · exact ⟨by simp; omega, by simp⟩
      · exact ⟨by simp, by simp⟩

namespace Spaced

theorem cut (h : Spaced g ss) (hg : g ≤ 1) (hc : c.lo ≤ c.hi) : Spaced g (Span.cut ss c) := by
  constructor
  · intro t ht
    obtain ⟨s, hs, hts⟩ := List.mem_flatMap.1 ht
    exact (spaced_minus hg (h.filled s hs) hc).filled t hts
  · refine List.pairwise_flatMap.2
      ⟨fun s hs => (spaced_minus hg (h.filled s hs) hc).apart, h.apart.imp ?_⟩
    intro s s' hlt t ht t' ht'
    have hle := (within_of_mem_minus ht).2
    have hge := (within_of_mem_minus ht').1
    omega

theorem foldl_cut (h : Spaced g ss) (hg : g ≤ 1) (hc : ∀ c ∈ cuts, c.lo ≤ c.hi) :
    Spaced g (cuts.foldl Span.cut ss) := by
  induction cuts generalizing ss with
  | nil => exact h
  | cons c cuts ih =>
    rw [List.forall_mem_cons] at hc
    exact ih (h.cut hg hc.1) hc.2

theorem tail (h : Spaced g (s :: ss)) : Spaced g ss :=
  ⟨fun t ht => h.filled t (List.mem_cons_of_mem _ ht), h.apart.tail⟩

end Spaced

/-! ## Runs -/

namespace Spaced

theorem lo_mem_points (h : Spaced g (s :: ss)) : s.lo ∈ points (s :: ss) :=
  ⟨s, List.mem_cons_self, Int.le_refl _, h.filled s List.mem_cons_self⟩

/-- The later spans hold the integers beyond the one after the first span. -/
theorem mem_points_tail (h : Spaced 1 (s :: ss)) :
    n ∈ points ss ↔ n ∈ points (s :: ss) ∧ s.hi + 1 < n := by
  constructor
  · rintro ⟨t, ht, hn⟩
    have hlt := List.rel_of_pairwise_cons h.apart ht
    exact ⟨⟨t, List.mem_cons_of_mem _ ht, hn⟩, Int.lt_of_lt_of_le hlt hn.1⟩
  · rintro ⟨⟨t, ht, hn⟩, hlt⟩
    rcases List.mem_cons.1 ht with rfl | ht
    · have := hn.2
      omega
    · exact ⟨t, ht, hn⟩

theorem mem_or_lt (h : Spaced 1 (s :: ss)) (hn : n ∈ points (s :: ss)) :
    n ∈ s ∨ s.hi + 1 < n := by
  rw [points_cons] at hn
  exact hn.imp_right fun htail => (h.mem_points_tail.1 htail).2

/-- The first span starts with the least integer. -/
theorem lo_le (h : Spaced 1 (s :: ss)) (hn : n ∈ points (s :: ss)) : s.lo ≤ n := by
  have hfilled := h.filled s List.mem_cons_self
  rcases h.mem_or_lt hn with hn | hlt
  · exact hn.1
  · omega

/-- The first span ends before the first integer that is missing. -/
theorem not_mem_points (h : Spaced 1 (s :: ss)) : ¬ s.hi + 1 ∈ points (s :: ss) := by
  intro hn
  rcases h.mem_or_lt hn with hn | hlt
  · have := hn.2
    omega
  · omega

theorem head_le (hs : Spaced 1 (s :: ss)) (ht : Spaced 1 (t :: ts))
    (h : points (s :: ss) = points (t :: ts)) : t.lo ≤ s.lo ∧ t.hi ≤ s.hi := by
  have hfilled := hs.filled s List.mem_cons_self
  have hlo : t.lo ≤ s.lo := ht.lo_le (h ▸ hs.lo_mem_points)
  refine ⟨hlo, ?_⟩
  by_contra hlt
  have hmem : s.hi + 1 ∈ points (t :: ts) := ⟨t, List.mem_cons_self, by omega, by omega⟩
  exact hs.not_mem_points (h ▸ hmem)

theorem head_eq (hs : Spaced 1 (s :: ss)) (ht : Spaced 1 (t :: ts))
    (h : points (s :: ss) = points (t :: ts)) : s = t := by
  obtain ⟨hlo, hhi⟩ := hs.head_le ht h
  obtain ⟨hlo', hhi'⟩ := ht.head_le hs h.symm
  obtain ⟨a, b⟩ := s
  obtain ⟨a', b'⟩ := t
  rw [Span.mk.injEq]
  exact ⟨Int.le_antisymm hlo' hlo, Int.le_antisymm hhi' hhi⟩

/-- Spans that do not touch are known from their integers. -/
theorem eq_of_points_eq (hs : Spaced 1 ss) (ht : Spaced 1 ts) (h : points ss = points ts) :
    ss = ts := by
  induction ss generalizing ts with
  | nil =>
    cases ts with
    | nil => rfl
    | cons t ts =>
      have hmem : t.lo ∈ points [] := h ▸ ht.lo_mem_points
      simp [points_nil] at hmem
  | cons s ss ih =>
    cases ts with
    | nil =>
      have hmem : s.lo ∈ points [] := h ▸ hs.lo_mem_points
      simp [points_nil] at hmem
    | cons t ts =>
      obtain rfl := hs.head_eq ht h
      have htail : points ss = points ts := by
        ext n
        rw [hs.mem_points_tail, ht.mem_points_tail, h]
      rw [ih hs.tail ht.tail htail]

end Spaced

/-- Each span is cut on its own. -/
theorem foldl_cut_flatMap (cuts ss : List Span) :
    cuts.foldl cut ss = ss.flatMap fun s => cuts.foldl cut [s] := by
  induction cuts generalizing ss with
  | nil => exact (List.flatMap_singleton' ss).symm
  | cons c cuts ih =>
    have hone : ∀ s, cut [s] c = s.minus c := fun s => List.flatMap_singleton _ s
    simp only [List.foldl_cons, hone]
    rw [ih, cut, List.flatMap_assoc]
    exact List.flatMap_congr fun s _ => (ih _).symm

/-- Cuts of the same integers leave the same spans. -/
theorem foldl_cut_eq_of_points_eq (hs : ∀ s ∈ ss, s.lo ≤ s.hi) (hc : ∀ c ∈ cuts, c.lo ≤ c.hi)
    (hc' : ∀ c ∈ cuts', c.lo ≤ c.hi) (h : points cuts = points cuts') :
    cuts.foldl cut ss = cuts'.foldl cut ss := by
  rw [foldl_cut_flatMap cuts, foldl_cut_flatMap cuts']
  refine List.flatMap_congr fun s hmem => ?_
  have hone : Spaced 1 [s] := ⟨by simpa using hs s hmem, List.pairwise_singleton _ _⟩
  refine (hone.foldl_cut (by decide) hc).eq_of_points_eq (hone.foldl_cut (by decide) hc') ?_
  rw [points_foldl_cut hc, points_foldl_cut hc', h]

/-- What several cuts leave of spans in order is in order again, and consists of the integers that
no cut took; so the order of the cuts makes no difference. -/
theorem cuts_exact (hs : Ordered ss) (hc : ∀ c ∈ cuts, c.lo ≤ c.hi) :
    Ordered (cuts.foldl cut ss) ∧ points (cuts.foldl cut ss) = points ss \ points cuts ∧
      ∀ cuts' : List Span, cuts.Perm cuts' → cuts'.foldl cut ss = cuts.foldl cut ss := by
  have hspaced := ordered_iff.1 hs
  refine ⟨ordered_iff.2 (hspaced.foldl_cut (by decide) hc), points_foldl_cut hc ss, ?_⟩
  intro cuts' hperm
  have hc' : ∀ c ∈ cuts', c.lo ≤ c.hi := fun c hmem => hc c (hperm.mem_iff.2 hmem)
  exact foldl_cut_eq_of_points_eq hspaced.filled hc' hc (points_eq_of_perm hperm).symm

def touchingSpans : List Span := [⟨0, 10⟩, ⟨11, 20⟩, ⟨25, 25⟩]

/-- Cuts that overlap, that reach into two spans, and that take a whole span. -/
def severalCuts : List Span := [⟨3, 4⟩, ⟨9, 12⟩, ⟨4, 6⟩, ⟨24, 30⟩]

theorem cuts_of_touchingSpans : Ordered touchingSpans ∧ (∀ c ∈ severalCuts, c.lo ≤ c.hi) ∧
    severalCuts.foldl cut touchingSpans = [⟨0, 2⟩, ⟨7, 8⟩, ⟨13, 20⟩] ∧
    Ordered [⟨0, 2⟩, ⟨7, 8⟩, ⟨13, 20⟩] ∧
    points [⟨0, 2⟩, ⟨7, 8⟩, ⟨13, 20⟩] = points touchingSpans \ points severalCuts ∧
    severalCuts.reverse.foldl cut touchingSpans = [⟨0, 2⟩, ⟨7, 8⟩, ⟨13, 20⟩] := by
  have hordered : Ordered touchingSpans := ordered_iff.2 ⟨by decide, by decide⟩
  have hcuts : ∀ c ∈ severalCuts, c.lo ≤ c.hi := by decide
  have hleft : severalCuts.foldl cut touchingSpans = [⟨0, 2⟩, ⟨7, 8⟩, ⟨13, 20⟩] := by decide
  obtain ⟨hafter, hpoints, hperm⟩ := cuts_exact hordered hcuts
  rw [hleft] at hafter hpoints hperm
  exact ⟨hordered, hcuts, hleft, hafter, hpoints, hperm _ (List.reverse_perm _).symm⟩

end TavernLayout.Span
