import Mathlib.Data.Rat.Floor
import Mathlib.Order.Interval.Finset.Nat
import Mathlib.Tactic.Linarith
import TavernLayout.Proofs.Works

/-!
# The chances of an item

Put end to end, the weights of a lottery fill the stretch from zero to their sum. A seed marks a
point of it, and the item on whose part the mark lies is picked. The 65536 marks are evenly spaced,
so as many of them lie on a part as its share of the stretch says, but for less than one.

* `getElem?_place`: a pick is a search among the running sums, whatever numbers serve as weights;
* `lt_place_iff`: with exact weights the sums up to the mark are those before the place found;
* `place_eq_iff`: the mark lies on the part of the item that is picked;
* `chances_eq`: how many of the seeds pick an item;
* `draws_fair`: all this for the entries that a lottery is built from.
-/

namespace TavernLayout.Lottery

/-! ## Places -/

section Places

variable {w α : Type} [Weight w]

/-- The sum of the first weight, of the first two, and so on. -/
def sums (l : Lottery w α) : List w := (l.rest.map (·.1)).scanl Weight.add l.first.1

/-- The part of the total that a seed stands for. -/
def mark (l : Lottery w α) (seed : Int) : w :=
  Weight.mul (Weight.part (seed % seedSteps).toNat) l.total

/-- The place of the first running sum above the mark of a seed, the number of items if there is
none. -/
def place (l : Lottery w α) (seed : Int) : Nat := l.sums.findIdx (Weight.less (l.mark seed))

theorem getElem?_pickFrom (x s : w) (a : α) (rest : List (w × α)) :
    (a :: rest.map (·.2))[min (((rest.map (·.1)).scanl Weight.add s).findIdx (Weight.less x))
      rest.length]? = some (pickFrom x s a rest) := by
  induction rest generalizing s a with
  | nil => simp [pickFrom]
  | cons e rest ih =>
    obtain ⟨v, b⟩ := e
    rw [List.map_cons, List.map_cons, List.scanl_cons, List.findIdx_cons, pickFrom]
    cases hless : Weight.less x s with
    | true => simp
    | false => simpa [Nat.succ_min_succ] using ih (Weight.add s v) b

/-- The item at the place of a seed is picked, the last item if no running sum exceeds the mark. -/
theorem getElem?_place (l : Lottery w α) (seed : Int) :
    l.items[min (l.place seed) (l.size - 1)]? = some (l.pick seed) :=
  getElem?_pickFrom (l.mark seed) l.first.1 l.first.2 l.rest

end Places

/-! ## Exact weights -/

variable {α : Type} {l : Lottery Rat α} {seed : Int} {i : Nat}

/-- The sum of the weights of the first `i` items. -/
def before (l : Lottery Rat α) (i : Nat) : Rat := ((l.entries.map (·.1)).take i).sum

def Positive (l : Lottery Rat α) : Prop := ∀ e ∈ l.entries, 0 < e.1

/-- The number of seeds among the first 65536 that point at place `i`. -/
def chances (l : Lottery Rat α) (i : Nat) : Nat :=
  ((Finset.range 65536).filter fun r => l.place (r : Nat) = i).card

theorem foldl_add (ws : List Rat) (s : Rat) : ws.foldl Weight.add s = s + ws.sum := by
  induction ws generalizing s with
  | nil => exact (add_zero s).symm
  | cons v ws ih =>
    rw [List.foldl_cons, ih, List.sum_cons, ← add_assoc]
    rfl

theorem length_entries (l : Lottery Rat α) : l.entries.length = l.size := rfl

@[simp] theorem before_zero (l : Lottery Rat α) : l.before 0 = 0 := rfl

theorem before_succ {e : Rat × α} (h : l.entries[i]? = some e) :
    l.before (i + 1) = l.before i + e.1 := by
  obtain ⟨hi, rfl⟩ := List.getElem?_eq_some_iff.1 h
  rw [before, List.sum_take_succ _ i (by rwa [List.length_map]), List.getElem_map]
  rfl

theorem before_of_size_le (h : l.size ≤ i) : l.before i = l.total := by
  rw [before, List.take_of_length_le (by rwa [List.length_map, length_entries]), entries,
    List.map_cons, List.sum_cons, ← foldl_add, List.foldl_map]
  rfl

theorem getElem?_sums (h : i < l.size) : l.sums[i]? = some (l.before (i + 1)) := by
  have hi : i ≤ (l.rest.map (·.1)).length := by
    rw [List.length_map]
    exact Nat.le_of_lt_succ h
  rw [sums, List.getElem?_scanl, if_pos hi, foldl_add, before, entries, List.map_cons,
    List.take_succ_cons, List.sum_cons]

theorem length_sums (l : Lottery Rat α) : l.sums.length = l.size := by
  rw [sums, List.length_scanl, List.length_map, size]

theorem less_getElem_sums {x : Rat} (h : i < l.sums.length) :
    Weight.less x l.sums[i] = true ↔ x < l.before (i + 1) := by
  have hsum := getElem?_sums (length_sums l ▸ h)
  rw [List.getElem?_eq_getElem h] at hsum
  rw [Option.some.inj hsum]
  exact decide_eq_true_iff

/-- The marks are evenly spaced. -/
theorem mark_eq (l : Lottery Rat α) (seed : Int) :
    l.mark seed = (seed % 65536 : Int) * l.total / 65536 := by
  have hcast : (((seed % 65536).toNat : Nat) : Rat) = (seed % 65536 : Int) := by
    rw [← Int.cast_natCast, Int.toNat_of_nonneg (Int.emod_nonneg _ (by decide))]
  change ((seed % 65536).toNat : Rat) / 65536 * l.total = _
  rw [hcast]
  ring

namespace Positive

theorem before_mono (h : l.Positive) : Monotone l.before := by
  refine monotone_nat_of_le_succ fun i => ?_
  cases he : l.entries[i]? with
  | none =>
    have hi := List.getElem?_eq_none_iff.1 he
    rw [length_entries] at hi
    rw [before_of_size_le hi, before_of_size_le (Nat.le_succ_of_le hi)]
  | some e =>
    have hpos := h e (List.mem_of_getElem? he)
    rw [before_succ he]
    linarith

theorem total_pos (h : l.Positive) : 0 < l.total := by
  have hfirst : 0 < l.first.1 := h l.first List.mem_cons_self
  have hone : l.before 1 = l.before 0 + l.first.1 := before_succ rfl
  rw [before_zero, zero_add] at hone
  rw [← before_of_size_le (Nat.le_refl l.size)]
  calc 0 < l.before 1 := by rw [hone]; exact hfirst
    _ ≤ l.before l.size := h.before_mono (Nat.le_add_left 1 _)

theorem mark_nonneg (h : l.Positive) (seed : Int) : 0 ≤ l.mark seed := by
  have hr : (0 : Rat) ≤ (seed % 65536 : Int) := by
    exact_mod_cast Int.emod_nonneg seed (by decide)
  have ht := h.total_pos
  rw [mark_eq]
  positivity

/-- No mark reaches the total. -/
theorem mark_lt_total (h : l.Positive) (seed : Int) : l.mark seed < l.total := by
  have hr : ((seed % 65536 : Int) : Rat) < 65536 := by
    exact_mod_cast Int.emod_lt_of_pos seed (by decide)
  have ht := h.total_pos
  rw [mark_eq, div_lt_iff₀ (by norm_num), mul_comm]
  exact mul_lt_mul_of_pos_left hr ht

theorem lt_size_of_before_le (h : l.Positive) (hle : l.before i ≤ l.mark seed) : i < l.size := by
  by_contra hge
  rw [before_of_size_le (not_lt.1 hge)] at hle
  exact absurd (h.mark_lt_total seed) (not_lt_of_ge hle)

/-- The running sums up to the mark are those before the place. -/
theorem lt_place_iff (h : l.Positive) (seed : Int) (hi : i < l.size) :
    i < l.place seed ↔ l.before (i + 1) ≤ l.mark seed := by
  have hil : i < l.sums.length := by rwa [length_sums]
  constructor
  · intro hlt
    have hnot := List.not_of_lt_findIdx hlt
    rw [Bool.eq_false_iff, ne_eq, less_getElem_sums hil] at hnot
    exact le_of_not_gt hnot
  · intro hle
    refine List.lt_findIdx_of_not hil fun j hj habove => ?_
    have hlt := (less_getElem_sums (Nat.lt_of_le_of_lt hj hil)).1 habove
    have hmono : l.before (j + 1) ≤ l.before (i + 1) := h.before_mono (by omega)
    linarith

/-- Every mark lies below the last running sum. -/
theorem place_lt_size (h : l.Positive) (seed : Int) : l.place seed < l.size := by
  by_contra hge
  have hlast : l.size - 1 < l.size := Nat.sub_lt (Nat.succ_pos _) (by decide)
  have hinside := h.lt_size_of_before_le ((h.lt_place_iff seed hlast).1 (by omega))
  omega

theorem getElem?_items (h : l.Positive) (seed : Int) :
    l.items[l.place seed]? = some (l.pick seed) := by
  rw [← getElem?_place, Nat.min_eq_left (Nat.le_sub_one_of_lt (h.place_lt_size seed))]

/-- The mark lies on the part of the item that is picked, its beginning included. -/
theorem place_eq_iff (h : l.Positive) (seed : Int) (i : Nat) :
    l.place seed = i ↔ l.before i ≤ l.mark seed ∧ l.mark seed < l.before (i + 1) := by
  have hbelow : i ≤ l.size → (i ≤ l.place seed ↔ l.before i ≤ l.mark seed) := by
    intro hi
    cases i with
    | zero => simpa using h.mark_nonneg seed
    | succ j => exact h.lt_place_iff seed hi
  have hinside := h.place_lt_size seed
  by_cases hi : i < l.size
  · rw [← hbelow hi.le, ← not_le, ← h.lt_place_iff seed hi]
    omega
  · constructor
    · omega
    · rintro ⟨hle, -⟩
      exact absurd (h.lt_size_of_before_le hle) hi

/-- A later mark lies on the same part or on a later one. -/
theorem place_mono (h : l.Positive) {seed' : Int} (hle : seed % 65536 ≤ seed' % 65536) :
    l.place seed ≤ l.place seed' := by
  have hmark : l.mark seed ≤ l.mark seed' := by
    have hcast : ((seed % 65536 : Int) : Rat) ≤ (seed' % 65536 : Int) := by exact_mod_cast hle
    have ht := h.total_pos
    rw [mark_eq, mark_eq]
    gcongr
  by_contra hlt
  have hbefore := (h.lt_place_iff seed (h.place_lt_size seed')).1 (by omega)
  have hafter := ((h.place_eq_iff seed' _).1 rfl).2
  linarith

/-! ## Counting -/

theorem before_nonneg (h : l.Positive) (i : Nat) : 0 ≤ l.before i :=
  h.before_mono (Nat.zero_le i)

theorem before_le_total (h : l.Positive) (i : Nat) : l.before i ≤ l.total := by
  rw [← before_of_size_le (Nat.le_max_right i l.size)]
  exact h.before_mono (Nat.le_max_left i l.size)

/-- The residues that point at a place follow each other. -/
theorem filter_place (h : l.Positive) (i : Nat) :
    ((Finset.range 65536).filter fun r => l.place (r : Nat) = i) =
      Finset.Ico ⌈65536 * l.before i / l.total⌉₊ ⌈65536 * l.before (i + 1) / l.total⌉₊ := by
  have ht := h.total_pos
  ext r
  rw [Finset.mem_filter, Finset.mem_range, Finset.mem_Ico, Nat.ceil_le, Nat.lt_ceil,
    div_le_iff₀ ht, lt_div_iff₀ ht, h.place_eq_iff]
  constructor
  · rintro ⟨hr, hlow, hhigh⟩
    rw [mark_eq, Int.emod_eq_of_lt (by omega) (by omega), Int.cast_natCast] at hlow hhigh
    constructor <;> linarith
  · rintro ⟨hlow, hhigh⟩
    have hr : r < 65536 := by
      have hle := h.before_le_total (i + 1)
      have hprod : (r : Rat) * l.total < 65536 * l.total := by linarith
      exact_mod_cast lt_of_mul_lt_mul_right hprod ht.le
    rw [mark_eq, Int.emod_eq_of_lt (by omega) (by omega), Int.cast_natCast]
    refine ⟨hr, ?_, ?_⟩ <;> linarith

theorem chances_eq (h : l.Positive) (i : Nat) :
    (l.chances i : Int) =
      ⌈65536 * l.before (i + 1) / l.total⌉ - ⌈65536 * l.before i / l.total⌉ := by
  have ht := h.total_pos
  have hstep : ⌈65536 * l.before i / l.total⌉₊ ≤ ⌈65536 * l.before (i + 1) / l.total⌉₊ := by
    have := h.before_mono (Nat.le_succ i)
    gcongr
  have hnonneg : ∀ j, 0 ≤ 65536 * l.before j / l.total := fun j => by
    have := h.before_nonneg j
    positivity
  rw [chances, h.filter_place, Nat.card_Ico, Nat.cast_sub hstep,
    Int.natCast_ceil_eq_ceil (hnonneg _), Int.natCast_ceil_eq_ceil (hnonneg _)]

/-- The chances of an item are its share of the seeds, but for less than one. -/
theorem abs_chances_sub_lt (h : l.Positive) {e : Rat × α} (he : l.entries[i]? = some e) :
    |(l.chances i : Rat) - 65536 * e.1 / l.total| < 1 := by
  have hcast : (l.chances i : Rat) =
      ⌈65536 * l.before (i + 1) / l.total⌉ - ⌈65536 * l.before i / l.total⌉ := by
    exact_mod_cast h.chances_eq i
  have hshare : 65536 * l.before (i + 1) / l.total =
      65536 * l.before i / l.total + 65536 * e.1 / l.total := by
    rw [before_succ he]
    ring
  have hend := Int.le_ceil (65536 * l.before (i + 1) / l.total)
  have hend' := Int.ceil_lt_add_one (65536 * l.before (i + 1) / l.total)
  have hstart := Int.le_ceil (65536 * l.before i / l.total)
  have hstart' := Int.ceil_lt_add_one (65536 * l.before i / l.total)
  rw [hcast, abs_lt]
  constructor <;> linarith

end Positive

/-! ## Fair draws -/

/-- The items are picked by the marks on their parts of the total, as often as their weights say. -/
structure Fair (l : Lottery Rat α) : Prop where
  /-- The parts of all items make up the total. -/
  total : l.total = l.before l.size
  /-- Seeds of one residue pick one item. -/
  residue : ∀ seed seed' : Int, seed % 65536 = seed' % 65536 → l.pick seed = l.pick seed'
  /-- What is picked is the item at the place of the seed. -/
  item : ∀ seed, l.items[l.place seed]? = some (l.pick seed)
  /-- A place is found for every seed, so the last item never stands in. -/
  found : ∀ seed, l.place seed < l.size
  /-- The running sums up to the mark are those before the place, so a search by halving finds the
  same place. -/
  search : ∀ seed i, i < l.size → (i < l.place seed ↔
    l.before (i + 1) ≤ (seed % 65536 : Int) * l.total / 65536)
  /-- The place is the one on whose part the mark lies, its beginning included. -/
  part : ∀ seed i, l.place seed = i ↔
    l.before i ≤ (seed % 65536 : Int) * l.total / 65536 ∧
      (seed % 65536 : Int) * l.total / 65536 < l.before (i + 1)
  /-- The marks of a part are counted by the numbers between its ends. -/
  count : ∀ i, (l.chances i : Int) =
    ⌈65536 * l.before (i + 1) / l.total⌉ - ⌈65536 * l.before i / l.total⌉
  /-- That is the share of the item, but for less than one. -/
  share : ∀ i e, l.entries[i]? = some e → |(l.chances i : Rat) - 65536 * e.1 / l.total| < 1
  /-- Larger residues point at the same place or at a later one. -/
  mono : ∀ seed seed' : Int, seed % 65536 ≤ seed' % 65536 → l.place seed ≤ l.place seed'

theorem Positive.fair (h : l.Positive) : l.Fair where
  total := (before_of_size_le (Nat.le_refl _)).symm
  residue seed seed' heq := by
    have hsteps : seed % seedSteps = seed' % seedSteps := heq
    rw [← l.pick_mod seed, hsteps, l.pick_mod]
  item := h.getElem?_items
  found := h.place_lt_size
  search seed i hi := by
    rw [← mark_eq]
    exact h.lt_place_iff seed hi
  part seed i := by
    rw [← mark_eq]
    exact h.place_eq_iff seed i
  count := h.chances_eq
  share _ _ := h.abs_chances_sub_lt
  mono _ _ := h.place_mono

theorem positive_of_build {es : List (Rat × α)} (h : build es = .ok l) : l.Positive := by
  intro e he
  rw [entries_build h] at he
  exact of_decide_eq_true (List.mem_filter.1 he).2

/-- Where some entry has a positive weight there is a lottery of these entries, in their order, and
its draws are fair. -/
theorem draws_fair {es : List (Rat × α)} (h : ∃ e ∈ es, 0 < e.1) :
    ∃ l : Lottery Rat α, build es = .ok l ∧
      l.entries = es.filter (fun e => decide (0 < e.1)) ∧ l.Fair := by
  obtain ⟨e, he, hpos⟩ := h
  have hcounts : counts e = true := decide_eq_true hpos
  obtain ⟨l, hl⟩ := build_ok he hcounts
  exact ⟨l, hl, entries_build hl, (positive_of_build hl).fair⟩

/-- Weights of one, two and three, the first and the last one for the same item, and two entries
without a chance. -/
def threeWeights : List (Rat × Char) := [(0, 'x'), (1, 'a'), (-2, 'y'), (2, 'b'), (3, 'a')]

theorem draws_of_threeWeights : (∃ e ∈ threeWeights, 0 < e.1) ∧
    ∃ l : Lottery Rat Char, build threeWeights = .ok l ∧
      l.entries = [(1, 'a'), (2, 'b'), (3, 'a')] ∧
      l.chances 0 = 10923 ∧ l.chances 1 = 21845 ∧ l.chances 2 = 32768 ∧
      l.place 10922 = 0 ∧ l.place 10923 = 1 ∧ l.place (-32768) = 2 ∧ l.pick (-32768) = 'a' := by
  have hpos : ∃ e ∈ threeWeights, 0 < e.1 := ⟨(3, 'a'), by simp [threeWeights], by norm_num⟩
  obtain ⟨l, hl, he, hfair⟩ := draws_fair hpos
  have hentries : l.entries = [(1, 'a'), (2, 'b'), (3, 'a')] := by
    rw [he, threeWeights]
    decide
  have hbefore : l.before 0 = 0 ∧ l.before 1 = 1 ∧ l.before 2 = 3 ∧ l.before 3 = 6 := by
    simp only [before, hentries]
    norm_num
  obtain ⟨h0, h1, h2, h3⟩ := hbefore
  have htotal : l.total = 6 := by
    rw [hfair.total, ← length_entries, hentries]
    exact h3
  have hlast : l.place (-32768) = 2 := by
    rw [hfair.part, htotal, h2, h3]
    norm_num
  have hitem : some 'a' = some (l.pick (-32768)) := by
    rw [← hfair.item, hlast, items, hentries]
    rfl
  have hceil : ⌈(65536 * 0 / 6 : Rat)⌉ = 0 ∧ ⌈(65536 * 1 / 6 : Rat)⌉ = 10923 ∧
      ⌈(65536 * 3 / 6 : Rat)⌉ = 32768 ∧ ⌈(65536 * 6 / 6 : Rat)⌉ = 65536 := by
    simp only [Int.ceil_eq_iff]
    norm_num
  obtain ⟨hc0, hc1, hc2, hc3⟩ := hceil
  have hcount0 := hfair.count 0
  have hcount1 := hfair.count 1
  have hcount2 := hfair.count 2
  rw [htotal, h0, h1, hc0, hc1] at hcount0
  rw [htotal, h1, h2, hc1, hc2] at hcount1
  rw [htotal, h2, h3, hc2, hc3] at hcount2
  refine ⟨hpos, l, hl, hentries, by omega, by omega, by omega, ?_, ?_, hlast,
    (Option.some.inj hitem).symm⟩
  · rw [hfair.part, htotal, h0, h1]
    norm_num
  · rw [hfair.part, htotal, h1, h2]
    norm_num

end TavernLayout.Lottery
