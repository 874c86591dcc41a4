import TavernLayout.Layout.FreeFloor

/-!
# The free floor is partitioned

The sweep splits the cells of a room outside of all avoided rectangles into areas: every area is a
part of the room without an avoided cell, no two areas have a cell in common, and every free cell
lies in one. What is avoided may overlap, stick out of the room or be crossed.

* `Swept`: what holds of the areas at any moment of the sweep;
* `Swept.step`: the area of a free cell can be added;
* `swept_freeColumn`, `covered_freeColumn`: one column;
* `mem_freeFloor_iff`: the areas hold exactly the free cells.
-/

namespace TavernLayout

/-- The two rectangles have no cell in common. -/
def Rect.Separate (r s : Rect) : Prop := ∀ p, p ∈ r → p ∉ s

theorem Rect.Separate.symm {r s : Rect} (h : r.Separate s) : s.Separate r :=
  fun p hs hr => h p hr hs

namespace FreeFloor

variable {bounds : Rect} {avoid areas obstacles : List Rect} {x y : Int} {p : Vec2}

def Covered (rs : List Rect) (p : Vec2) : Prop := ∃ r ∈ rs, p ∈ r

theorem covered_append {rs ss : List Rect} :
    Covered (rs ++ ss) p ↔ Covered rs p ∨ Covered ss p := by
  simp only [Covered, List.mem_append, or_and_right, exists_or]

/-! ## One area -/

theorem ceilingAbove_le (x y top : Int) (obstacles : List Rect) :
    ceilingAbove x y top obstacles ≤ top := by
  unfold ceilingAbove
  induction obstacles generalizing top with
  | nil => exact Int.le_refl _
  | cons a as ih =>
    rw [List.foldl_cons]
    apply Int.le_trans (ih _)
    split <;> omega

/-- The ceiling stays below every obstacle over the column. -/
theorem ceilingAbove_lt {o : Rect} (ho : o ∈ obstacles) (hx : o.min.x ≤ x ∧ x ≤ o.max.x)
    (hy : y < o.min.y) (top : Int) : ceilingAbove x y top obstacles < o.min.y := by
  induction obstacles generalizing top with
  | nil => cases ho
  | cons a as ih =>
    rw [ceilingAbove, List.foldl_cons, ← ceilingAbove]
    rcases List.mem_cons.1 ho with rfl | ho
    · apply Int.lt_of_le_of_lt (ceilingAbove_le ..)
      split <;> omega
    · exact ih ho _

theorem foldl_min_le (f : Rect → Int) (right : Int) (rs : List Rect) :
    rs.foldl (fun right a => min right (f a)) right ≤ right ∧
      ∀ a ∈ rs, rs.foldl (fun right a => min right (f a)) right ≤ f a := by
  induction rs generalizing right with
  | nil => exact ⟨Int.le_refl _, fun a ha => absurd ha (List.not_mem_nil)⟩
  | cons b bs ih =>
    rw [List.foldl_cons]
    obtain ⟨h1, h2⟩ := ih (min right (f b))
    refine ⟨by omega, ?_⟩
    intro a ha
    rcases List.mem_cons.1 ha with rfl | ha
    · omega
    · exact h2 a ha

theorem le_foldl_min {f : Rect → Int} {n right : Int} {rs : List Rect} (h : n ≤ right)
    (hf : ∀ a ∈ rs, n ≤ f a) : n ≤ rs.foldl (fun right a => min right (f a)) right := by
  induction rs generalizing right with
  | nil => exact h
  | cons b bs ih =>
    rw [List.foldl_cons]
    have hb := hf b List.mem_cons_self
    exact ih (by omega) fun a ha => hf a (List.mem_cons_of_mem _ ha)

theorem reachRight_le (x y top right : Int) (obstacles : List Rect) :
    reachRight x y top right obstacles ≤ right :=
  (foldl_min_le (fun a => a.min.x - 1) right _).1

/-- The area ends before every obstacle that starts further right on its rows. -/
theorem reachRight_lt {o : Rect} (y top right : Int) (ho : o ∈ obstacles) (hx : x < o.min.x)
    (hy : o.min.y ≤ top ∧ y ≤ o.max.y) : reachRight x y top right obstacles < o.min.x := by
  have hmem : o ∈ obstacles.filter fun a =>
      decide (x < a.min.x ∧ a.min.y ≤ top ∧ y ≤ a.max.y) :=
    List.mem_filter.2 ⟨ho, decide_eq_true ⟨hx, hy⟩⟩
  have := (foldl_min_le (fun a => a.min.x - 1) right _).2 o hmem
  unfold reachRight
  omega

theorem le_reachRight {right : Int} (h : x ≤ right) (y top : Int) (obstacles : List Rect) :
    x ≤ reachRight x y top right obstacles := by
  apply le_foldl_min h
  intro a ha
  have := of_decide_eq_true (List.mem_filter.1 ha).2
  omega

/-- The area of a cell of the room is a part of the room. -/
theorem encloses_areaAt (h : (⟨x, y⟩ : Vec2) ∈ bounds) (obstacles : List Rect) :
    bounds.Encloses (areaAt bounds obstacles x y) ∧ (areaAt bounds obstacles x y).Valid := by
  rw [Rect.mem_iff] at h
  dsimp only at h
  have h1 := ceilingAbove_le x y bounds.max.y obstacles
  have h2 := le_ceilingAbove (x := x) h.2.2 obstacles
  have h3 := reachRight_le x y (ceilingAbove x y bounds.max.y obstacles) bounds.max.x obstacles
  have h4 := le_reachRight h.1.2 y (ceilingAbove x y bounds.max.y obstacles) obstacles
  simp only [areaAt, Rect.Encloses, Rect.Valid]
  omega

/-- The area of a free cell has no cell in common with an obstacle. An obstacle over the column ends
below the cell or starts above the ceiling, and one that starts further right stops the area. -/
theorem separate_areaAt (h : ¬ Covered obstacles ⟨x, y⟩) {o : Rect} (ho : o ∈ obstacles) :
    (areaAt bounds obstacles x y).Separate o := by
  intro p hp hpo
  have hfree : (⟨x, y⟩ : Vec2) ∉ o := fun hm => h ⟨o, ho, hm⟩
  rw [Rect.mem_iff] at hfree hp hpo
  simp only [areaAt] at hp hfree
  by_cases hx : x < o.min.x
  · have := reachRight_lt y (ceilingAbove x y bounds.max.y obstacles) bounds.max.x ho hx (by omega)
    omega
  · have := ceilingAbove_lt (x := x) (y := y) ho (by omega) (by omega) bounds.max.y
    omega

theorem mem_areaAt (obstacles : List Rect) (h : (⟨x, y⟩ : Vec2) ∈ bounds) {n : Int} (h1 : y ≤ n)
    (h2 : n ≤ (areaAt bounds obstacles x y).max.y) :
    (⟨x, n⟩ : Vec2) ∈ areaAt bounds obstacles x y := by
  have hv := (encloses_areaAt h obstacles).2
  rw [Rect.mem_iff]
  simp only [Rect.Valid, areaAt] at hv h2 ⊢
  omega

/-! ## The sweep -/

/-- The areas found so far: parts of the room without an avoided cell, and apart from each other. -/
structure Swept (bounds : Rect) (avoid areas : List Rect) : Prop where
  inside : ∀ a ∈ areas, bounds.Encloses a ∧ a.Valid
  clear : ∀ a ∈ areas, ∀ o ∈ avoid, a.Separate o
  apart : areas.Pairwise Rect.Separate

theorem Swept.nil : Swept bounds avoid [] :=
  ⟨fun _ ha => absurd ha List.not_mem_nil, fun _ ha => absurd ha List.not_mem_nil, .nil⟩

theorem Swept.step (h : Swept bounds avoid areas) (hin : (⟨x, y⟩ : Vec2) ∈ bounds)
    (hfree : ¬ Covered (avoid ++ areas) ⟨x, y⟩) :
    Swept bounds avoid (areas ++ [areaAt bounds (avoid ++ areas) x y]) := by
  have hnew : ∀ o ∈ avoid ++ areas, (areaAt bounds (avoid ++ areas) x y).Separate o :=
    fun o ho => separate_areaAt hfree ho
  constructor
  · intro a ha
    rcases List.mem_append.1 ha with ha | ha
    · exact h.inside a ha
    · obtain rfl := List.mem_singleton.1 ha
      exact encloses_areaAt hin _
  · intro a ha o ho
    rcases List.mem_append.1 ha with ha | ha
    · exact h.clear a ha o ho
    · obtain rfl := List.mem_singleton.1 ha
      exact hnew o (List.mem_append_left _ ho)
  · rw [List.pairwise_append]
    refine ⟨h.apart, List.pairwise_singleton _ _, fun a ha b hb => ?_⟩
    obtain rfl := List.mem_singleton.1 hb
    exact (hnew a (List.mem_append_right _ ha)).symm

theorem mem_of_find {b : Rect}
    (h : obstacles.find? (fun a => decide ((⟨x, y⟩ : Vec2) ∈ a)) = some b) :
    b ∈ obstacles ∧ (⟨x, y⟩ : Vec2) ∈ b := by
  have hb := List.find?_some h
  exact ⟨List.mem_of_find?_eq_some h, of_decide_eq_true hb⟩

theorem not_covered_of_find
    (h : obstacles.find? (fun a => decide ((⟨x, y⟩ : Vec2) ∈ a)) = none) :
    ¬ Covered obstacles ⟨x, y⟩ := by
  rintro ⟨o, ho, hm⟩
  exact List.find?_eq_none.1 h o ho (decide_eq_true hm)

/-- A column adds areas and takes none away. -/
theorem subset_freeColumn : areas ⊆ freeColumn bounds avoid x y areas := by
  fun_induction freeColumn bounds avoid x y areas with
  | case1 y areas hy b hb ih => exact ih
  | case2 y areas hy hb area =>
    rename_i ih
    exact fun a ha => ih (List.mem_append_left _ ha)
  | case3 y areas hy => exact fun a ha => ha

theorem swept_freeColumn (h : Swept bounds avoid areas) (hy : bounds.min.y ≤ y)
    (hx : bounds.min.x ≤ x ∧ x ≤ bounds.max.x) :
    Swept bounds avoid (freeColumn bounds avoid x y areas) := by
  fun_induction freeColumn bounds avoid x y areas with
  | case1 y areas hle b hb ih =>
    have := lt_next_of_mem hb
    exact ih h (by omega)
  | case2 y areas hle hb area ih =>
    have hin : (⟨x, y⟩ : Vec2) ∈ bounds := ⟨hx, hy, hle⟩
    have hup := (Rect.mem_iff.1 (mem_areaAt (avoid ++ areas) hin (Int.le_refl y)
      (le_ceilingAbove hle _))).2.2
    exact ih (h.step hin (not_covered_of_find hb)) (by simp only [area]; dsimp only at hup; omega)
  | case3 y areas hle => exact h

/-- After its column, every cell of the room from row `y` on is avoided or in an area. -/
theorem covered_freeColumn (hx : bounds.min.x ≤ x ∧ x ≤ bounds.max.x) (hy : bounds.min.y ≤ y)
    {n : Int} (h1 : y ≤ n) (h2 : n ≤ bounds.max.y) :
    Covered (avoid ++ freeColumn bounds avoid x y areas) ⟨x, n⟩ := by
  fun_induction freeColumn bounds avoid x y areas with
  | case1 y areas hle b hb ih =>
    obtain ⟨hmem, hin⟩ := mem_of_find hb
    rw [Rect.mem_iff] at hin
    dsimp only at hin
    -- the row lies in the rectangle that was found, or the sweep reaches it later
    by_cases hn : n ≤ b.max.y
    · have hb : b ∈ avoid ++ freeColumn bounds avoid x (b.max.y + 1) areas := by
        rcases List.mem_append.1 hmem with hmem | hmem
        · exact List.mem_append_left _ hmem
        · exact List.mem_append_right _ (subset_freeColumn hmem)
      refine ⟨b, hb, hin.1, ?_, hn⟩
      dsimp only
      omega
    · exact ih (by omega) (by omega)
  | case2 y areas hle hb area ih =>
    have hin : (⟨x, y⟩ : Vec2) ∈ bounds := ⟨hx, hy, hle⟩
    by_cases hn : n ≤ area.max.y
    · have hmem : area ∈ freeColumn bounds avoid x (area.max.y + 1) (areas ++ [area]) :=
        subset_freeColumn (List.mem_append_right _ (List.mem_singleton.2 rfl))
      exact ⟨area, List.mem_append_right _ hmem, mem_areaAt _ hin h1 hn⟩
    · have := le_ceilingAbove (x := x) hle (avoid ++ areas)
      exact ih (by simp only [area, areaAt]; omega) (by omega)
  | case3 y areas hle => omega

/-! ## All columns -/

/-- The areas after the first `n` columns. -/
def columns (bounds : Rect) (avoid : List Rect) (n : Nat) : List Rect :=
  (List.range n).foldl
    (fun areas i => freeColumn bounds avoid (bounds.min.x + (i : Nat)) bounds.min.y areas) []

theorem columns_succ (n : Nat) : columns bounds avoid (n + 1) =
    freeColumn bounds avoid (bounds.min.x + n) bounds.min.y (columns bounds avoid n) := by
  rw [columns, List.range_succ, List.foldl_append]
  rfl

theorem swept_columns {n : Nat} (h : bounds.min.x + n ≤ bounds.max.x + 1) :
    Swept bounds avoid (columns bounds avoid n) := by
  induction n with
  | zero => exact .nil
  | succ n ih =>
    rw [columns_succ]
    exact swept_freeColumn (ih (by omega)) (Int.le_refl _) (by omega)

theorem covered_columns {n : Nat} (h : bounds.min.x + n ≤ bounds.max.x + 1)
    (hx : bounds.min.x ≤ p.x ∧ p.x < bounds.min.x + n)
    (hy : bounds.min.y ≤ p.y ∧ p.y ≤ bounds.max.y) :
    Covered (avoid ++ columns bounds avoid n) p := by
  induction n with
  | zero => omega
  | succ n ih =>
    rw [columns_succ]
    by_cases hlast : p.x < bounds.min.x + n
    · obtain ⟨r, hr, hp⟩ := ih (by omega) (by omega)
      refine ⟨r, ?_, hp⟩
      rcases List.mem_append.1 hr with hr | hr
      · exact List.mem_append_left _ hr
      · exact List.mem_append_right _ (subset_freeColumn hr)
    · have hcol : p = ⟨bounds.min.x + n, p.y⟩ := by
        ext
        · dsimp only
          omega
        · rfl
      rw [hcol]
      exact covered_freeColumn (by omega) (Int.le_refl _) hy.1 hy.2

end FreeFloor

open FreeFloor

variable {bounds : Rect} {avoid : List Rect} {p : Vec2}

theorem freeFloor_eq (bounds : Rect) (avoid : List Rect)
    (hx : bounds.min.x ≤ bounds.max.x + 1) :
    ∃ n : Nat, bounds.min.x + n = bounds.max.x + 1 ∧
      freeFloor bounds avoid = columns bounds avoid n :=
  ⟨(bounds.max.x - bounds.min.x + 1).toNat, by omega, rfl⟩

/-- The free floor is made of parts of the room without an avoided cell, apart from each other. -/
theorem swept_freeFloor (bounds : Rect) (avoid : List Rect) :
    Swept bounds avoid (freeFloor bounds avoid) := by
  by_cases hx : bounds.min.x ≤ bounds.max.x + 1
  · obtain ⟨n, hn, heq⟩ := freeFloor_eq bounds avoid hx
    rw [heq]
    exact swept_columns (by omega)
  · have hempty : (bounds.max.x - bounds.min.x + 1).toNat = 0 := by omega
    rw [freeFloor, hempty]
    exact .nil

/-- The areas hold exactly the cells of the room that are not avoided. -/
theorem mem_freeFloor_iff :
    Covered (freeFloor bounds avoid) p ↔ p ∈ bounds ∧ ¬ Covered avoid p := by
  have hswept := swept_freeFloor bounds avoid
  constructor
  · rintro ⟨a, ha, hp⟩
    refine ⟨(hswept.inside a ha).1.mem hp, ?_⟩
    rintro ⟨o, ho, hpo⟩
    exact hswept.clear a ha o ho p hp hpo
  · rintro ⟨hp, hfree⟩
    rw [Rect.mem_iff] at hp
    obtain ⟨n, hn, heq⟩ := freeFloor_eq bounds avoid (by omega)
    rw [heq]
    have hcov : Covered (avoid ++ columns bounds avoid n) p :=
      covered_columns (by omega) (by omega) hp.2
    exact (covered_append.1 hcov).resolve_left hfree

end TavernLayout
