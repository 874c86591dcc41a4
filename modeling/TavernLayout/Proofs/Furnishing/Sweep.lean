import Mathlib.Logic.ExistsUnique
import TavernLayout.Proofs.Furnishing.FreeFloor

/-!
# The sweep ends with a partition of the free floor

The sweep goes over the columns of a room from the left, and over every column from below. In each
turn it either passes the rectangle that covers the cell in front of it or adds the area of that
cell. Every turn moves it up, so it makes at most one turn for each cell of the room.

* `Sweep`: the turns of the sweep, counted, from any of its moments to the areas at its end;
* `Sweep.unique`: from one moment it can only end in one way;
* `sweep_freeFloor`: from its start it ends with the areas of `freeFloor`;
* `floor_decomposed`: these areas are the free floor, every cell of it once.
-/

namespace TavernLayout

namespace FreeFloor

/-- In `n` turns the sweep gets from the cell `⟨x, y⟩` and the areas it has so far to the areas at
its end. Going on to the next column is no turn. -/
inductive Sweep (bounds : Rect) (avoid : List Rect) :
    Nat → Int → Int → List Rect → List Rect → Prop
  | finish {x y : Int} {areas : List Rect} (hx : bounds.max.x < x) :
      Sweep bounds avoid 0 x y areas areas
  | column {n : Nat} {x y : Int} {areas found : List Rect} (hx : x ≤ bounds.max.x)
      (hy : bounds.max.y < y) (rest : Sweep bounds avoid n (x + 1) bounds.min.y areas found) :
      Sweep bounds avoid n x y areas found
  | pass {n : Nat} {x y : Int} {areas found : List Rect} {b : Rect} (hx : x ≤ bounds.max.x)
      (hy : y ≤ bounds.max.y)
      (hb : (avoid ++ areas).find? (fun a => decide ((⟨x, y⟩ : Vec2) ∈ a)) = some b)
      (rest : Sweep bounds avoid n x (b.max.y + 1) areas found) :
      Sweep bounds avoid (n + 1) x y areas found
  | add {n : Nat} {x y : Int} {areas found : List Rect} (hx : x ≤ bounds.max.x)
      (hy : y ≤ bounds.max.y)
      (hb : (avoid ++ areas).find? (fun a => decide ((⟨x, y⟩ : Vec2) ∈ a)) = none)
      (rest : Sweep bounds avoid n x ((areaAt bounds (avoid ++ areas) x y).max.y + 1)
        (areas ++ [areaAt bounds (avoid ++ areas) x y]) found) :
      Sweep bounds avoid (n + 1) x y areas found

variable {bounds : Rect} {avoid areas found found' : List Rect} {n n' : Nat} {x y : Int}

/-- The sweep leaves nothing open: its turns and its result depend on where it starts only. -/
theorem Sweep.unique (h : Sweep bounds avoid n x y areas found)
    (h' : Sweep bounds avoid n' x y areas found') : n = n' ∧ found = found' := by
  induction h generalizing n' with
  | finish hx =>
    cases h' with
    | finish => exact ⟨rfl, rfl⟩
    | column hx' => omega
    | pass hx' => omega
    | add hx' => omega
  | column hx hy _ ih =>
    cases h' with
    | finish hx' => omega
    | column _ _ rest => exact ih rest
    | pass _ hy' => omega
    | add _ hy' => omega
  | pass hx hy hb _ ih =>
    cases h' with
    | finish hx' => omega
    | column _ hy' => omega
    | pass _ _ hb' rest =>
      obtain rfl := Option.some.inj (hb.symm.trans hb')
      obtain ⟨rfl, rfl⟩ := ih rest
      exact ⟨rfl, rfl⟩
    | add _ _ hb' => simp [hb] at hb'
  | add hx hy hb _ ih =>
    cases h' with
    | finish hx' => omega
    | column _ hy' => omega
    | pass _ _ hb' => simp [hb] at hb'
    | add _ _ _ rest =>
      obtain ⟨rfl, rfl⟩ := ih rest
      exact ⟨rfl, rfl⟩

/-- A column takes at most one turn for each of its rows from `y` on. -/
theorem sweep_column (hx : x ≤ bounds.max.x)
    (rest : Sweep bounds avoid n (x + 1) bounds.min.y (freeColumn bounds avoid x y areas) found) :
    ∃ m ≤ (bounds.max.y + 1 - y).toNat, Sweep bounds avoid (m + n) x y areas found := by
  fun_induction freeColumn bounds avoid x y areas with
  | case1 y areas hy b hb ih =>
    obtain ⟨m, hm, hrun⟩ := ih rest
    have hup := lt_next_of_mem hb
    refine ⟨m + 1, by omega, ?_⟩
    rw [Nat.add_right_comm]
    exact .pass hx hy hb hrun
  | case2 y areas hy hb area ih =>
    obtain ⟨m, hm, hrun⟩ := ih rest
    have hup : y ≤ area.max.y := le_ceilingAbove hy _
    refine ⟨m + 1, by omega, ?_⟩
    rw [Nat.add_right_comm]
    exact .add hx hy hb hrun
  | case3 y areas hy =>
    refine ⟨0, Nat.zero_le _, ?_⟩
    rw [Nat.zero_add]
    exact .column hx (by omega) rest

/-- The last `k` columns, swept with the areas of the columns before them. -/
theorem sweep_columns (avoid : List Rect) {k i : Nat}
    (h : bounds.min.x + (i + k : Nat) = bounds.max.x + 1) :
    ∃ m ≤ k * (bounds.max.y + 1 - bounds.min.y).toNat,
      Sweep bounds avoid m (bounds.min.x + i) bounds.min.y (columns bounds avoid i)
        (columns bounds avoid (i + k)) := by
  induction k generalizing i with
  | zero => exact ⟨0, by omega, .finish (by omega)⟩
  | succ k ih =>
    obtain ⟨m, hm, hrun⟩ := ih (i := i + 1) (by omega)
    rw [columns_succ, Int.natCast_succ, ← Int.add_assoc, Nat.add_right_comm] at hrun
    obtain ⟨l, hl, hcol⟩ := sweep_column (by omega) hrun
    refine ⟨l + m, ?_, hcol⟩
    rw [Nat.succ_mul]
    omega

/-- Rectangles apart from each other hold no cell twice. -/
theorem eq_of_apart {p : Vec2} (h : areas.Pairwise Rect.Separate) {i j : Fin areas.length}
    (hi : p ∈ areas[i]) (hj : p ∈ areas[j]) : i = j := by
  rcases Nat.lt_trichotomy i j with hlt | heq | hgt
  · exact absurd hj (List.pairwise_iff_getElem.1 h i j i.2 j.2 hlt p hi)
  · exact Fin.ext heq
  · exact absurd hi (List.pairwise_iff_getElem.1 h j i j.2 i.2 hgt p hj)

end FreeFloor

open FreeFloor

variable {bounds : Rect} {avoid : List Rect}

/-- The sweep of a whole room ends after at most one turn for each cell. -/
theorem sweep_freeFloor (bounds : Rect) (avoid : List Rect) :
    ∃ n ≤ (bounds.max.x + 1 - bounds.min.x).toNat * (bounds.max.y + 1 - bounds.min.y).toNat,
      Sweep bounds avoid n bounds.min.x bounds.min.y [] (freeFloor bounds avoid) := by
  by_cases hx : bounds.min.x ≤ bounds.max.x + 1
  · obtain ⟨k, hk, heq⟩ := freeFloor_eq bounds avoid hx
    have hall : bounds.min.x + (0 + k : Nat) = bounds.max.x + 1 := by omega
    obtain ⟨m, hm, hrun⟩ := sweep_columns avoid hall
    rw [Nat.zero_add, ← heq, Int.natCast_zero, Int.add_zero] at hrun
    have hwidth : (bounds.max.x + 1 - bounds.min.x).toNat = k := by omega
    rw [hwidth]
    exact ⟨m, hm, hrun⟩
  · have hempty : (bounds.max.x - bounds.min.x + 1).toNat = 0 := by omega
    rw [freeFloor, hempty]
    exact ⟨0, Nat.zero_le _, .finish (by omega)⟩

/-- What the areas of a room have to be: parts of the room that hold every cell outside of the
avoided rectangles once, and no other cell. -/
structure Decomposes (bounds : Rect) (avoid areas : List Rect) : Prop where
  inside : ∀ a ∈ areas, a.Valid ∧ bounds.Encloses a
  once : ∀ p ∈ bounds, (∀ o ∈ avoid, p ∉ o) → ∃! i : Fin areas.length, p ∈ areas[i]
  clear : ∀ a ∈ areas, ∀ o ∈ avoid, ∀ p ∈ o, p ∉ a

/-- For every room and all avoided rectangles, the sweep ends, and its areas are the free floor. -/
theorem floor_decomposed (bounds : Rect) (avoid : List Rect) :
    (∃ n ≤ (bounds.max.x + 1 - bounds.min.x).toNat * (bounds.max.y + 1 - bounds.min.y).toNat,
      Sweep bounds avoid n bounds.min.x bounds.min.y [] (freeFloor bounds avoid)) ∧
    Decomposes bounds avoid (freeFloor bounds avoid) := by
  have hswept := swept_freeFloor bounds avoid
  refine ⟨sweep_freeFloor bounds avoid, ?inside, ?once, ?clear⟩
  case inside => exact fun a ha => (hswept.inside a ha).symm
  case once =>
    intro p hp hfree
    have hnone : ¬ Covered avoid p := fun ⟨o, ho, hpo⟩ => hfree o ho hpo
    obtain ⟨a, ha, hpa⟩ := mem_freeFloor_iff.2 ⟨hp, hnone⟩
    obtain ⟨i, hi, rfl⟩ := List.getElem_of_mem ha
    exact ⟨⟨i, hi⟩, hpa, fun j hj => eq_of_apart hswept.apart hj hpa⟩
  case clear => exact fun a ha o ho p hpo hpa => hswept.clear a ha o ho p hpa hpo

end TavernLayout
