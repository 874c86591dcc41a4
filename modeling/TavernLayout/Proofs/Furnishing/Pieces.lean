import Mathlib.Data.List.Forall2
import TavernLayout.Layout.Furnishing
import TavernLayout.Proofs.Furnishing.FreeFloor
import TavernLayout.Proofs.Works

/-!
# What becomes of the areas

Furnishing uses every area of a room once: the stage or the bar takes the first of the best score if
that is positive, some of the others get a table in the middle, and the rest stay free. A piece
takes cells of its own area only, so pieces of separate areas share no cell.

* `takeBest_cases`: the area that is taken, or why none is;
* `seated_of_setTables`: the tables and the areas without one;
* `Arranged`, `ends_furnish`: the use of every area of a room;
* `Arranged.fills`, `Arranged.mem_of_occupies`, `Arranged.pieces_apart`: where the pieces stand.
-/

namespace TavernLayout

/-! ## Cells of furniture -/

namespace Furniture

/-- The piece takes the cell. A table takes those of its chairs too. -/
def Occupies : Furniture → Vec2 → Prop
  | bar area, p => p ∈ area
  | stage area, p => p ∈ area
  | table q chairs, p => p = q ∨ ∃ d ∈ chairs, p = q + d.toVec2

/-- The piece is a table in the middle of an area, with a chair on each neighbouring cell that lies
in the area and on no other. -/
def Seats (piece : Furniture) (area : Rect) : Prop :=
  ∃ chairs, piece = table area.center chairs ∧ chairs.Nodup ∧
    ∀ d, d ∈ chairs ↔ area.center + d.toVec2 ∈ area

/-- The piece belongs to the area: it is a stage or a bar on all of it, or a table in its middle. -/
def Fills (piece : Furniture) (area : Rect) : Prop :=
  piece = bar area ∨ piece = stage area ∨ piece.Seats area

theorem seats_table (area : Rect) : (Furnishing.table area.center area).Seats area := by
  refine ⟨_, rfl, List.Pairwise.filter _ (by decide), fun d => ?_⟩
  rw [List.mem_filter, decide_eq_true_iff]
  exact and_iff_right (Dir.mem_all d)

theorem center_mem {area : Rect} (h : area.Valid) : area.center ∈ area := by
  simp only [Rect.Valid] at h
  rw [Rect.mem_iff]
  simp only [Rect.center, Rect.size, Vec2.x_add, Vec2.y_add, Vec2.x_sub, Vec2.y_sub]
  omega

/-- A piece takes cells of its own area only. -/
theorem Fills.mem {piece : Furniture} {area : Rect} {p : Vec2} (h : piece.Fills area)
    (hv : area.Valid) (hp : piece.Occupies p) : p ∈ area := by
  rcases h with rfl | rfl | ⟨chairs, rfl, -, hchairs⟩
  · exact hp
  · exact hp
  · rcases hp with rfl | ⟨d, hd, rfl⟩
    · exact center_mem hv
    · exact (hchairs d).1 hd

def Apart (f g : Furniture) : Prop := ∀ p, f.Occupies p → ¬ g.Occupies p

theorem exists_of_fills {fs : List Furniture} {areas : List Rect}
    (h : List.Forall₂ Fills fs areas) {f : Furniture} (hf : f ∈ fs) :
    ∃ a ∈ areas, f.Fills a := by
  induction h with
  | nil => cases hf
  | @cons g a fs areas hfill _ ih =>
    rcases List.mem_cons.1 hf with rfl | hf
    · exact ⟨a, List.mem_cons_self, hfill⟩
    · obtain ⟨b, hb, hfill⟩ := ih hf
      exact ⟨b, List.mem_cons_of_mem _ hb, hfill⟩

/-- Pieces of separate areas share no cell. -/
theorem pairwise_of_fills {fs : List Furniture} {areas : List Rect}
    (h : List.Forall₂ Fills fs areas) (hv : ∀ a ∈ areas, a.Valid)
    (hs : areas.Pairwise Rect.Separate) : fs.Pairwise Apart := by
  induction h with
  | nil => exact .nil
  | @cons f a fs areas hfill hrest ih =>
    obtain ⟨hfirst, hs⟩ := List.pairwise_cons.1 hs
    apply List.Pairwise.cons _ (ih (fun b hb => hv b (List.mem_cons_of_mem _ hb)) hs)
    intro g hg p hp hgp
    obtain ⟨b, hb, hfill'⟩ := exists_of_fills hrest hg
    have hpa := hfill.mem (hv a List.mem_cons_self) hp
    have hpb := hfill'.mem (hv b (List.mem_cons_of_mem _ hb)) hgp
    exact hfirst b hb p hpa hpb

end Furniture

namespace Furnishing

variable {σ : Type} {src : Source σ} {st st' : Stream σ} {areas rest free : List Rect} {a : Rect}
  {score : Rect → Int} {chance : Float} {P : Fault → Prop}

/-! ## The best area -/

/-- The first area of the highest score, if that is positive; none if no score is. -/
def First (score : Rect → Int) (areas : List Rect) : Option Rect → Prop
  | none => ∀ b ∈ areas, score b ≤ 0
  | some a => 0 < score a ∧ (∀ b ∈ areas, score b ≤ score a) ∧
      ∃ i : Nat, areas[i]? = some a ∧
        ∀ (j : Nat) b, j < i → areas[j]? = some b → score b < score a

theorem foldl_max_cases (ns : List Int) (n : Int) :
    (∀ m ∈ n :: ns, m ≤ ns.foldl max n) ∧ ns.foldl max n ∈ n :: ns := by
  induction ns generalizing n with
  | nil => simp
  | cons m ns ih =>
    obtain ⟨h1, h2⟩ := ih (max n m)
    rw [List.foldl_cons]
    constructor
    · intro k hk
      have hmax := h1 (max n m) List.mem_cons_self
      rcases List.mem_cons.1 hk with rfl | hk
      · omega
      · rcases List.mem_cons.1 hk with rfl | hk
        · omega
        · exact h1 k (List.mem_cons_of_mem _ hk)
    · rcases List.mem_cons.1 h2 with h2 | h2
      · rw [h2]
        rcases Int.le_total n m with h | h
        · rw [Int.max_eq_right h]
          exact List.mem_cons_of_mem _ List.mem_cons_self
        · rw [Int.max_eq_left h]
          exact List.mem_cons_self
      · exact List.mem_cons_of_mem _ (List.mem_cons_of_mem _ h2)

theorem le_bestScore {b : Rect} (h : b ∈ areas) : score b ≤ bestScore score areas :=
  (foldl_max_cases _ 0).1 _ (List.mem_cons_of_mem _ (List.mem_map_of_mem h))

theorem exists_bestScore (h : 0 < bestScore score areas) :
    ∃ b ∈ areas, score b = bestScore score areas := by
  rcases List.mem_cons.1 (foldl_max_cases (areas.map score) 0).2 with h0 | hm
  · exact absurd h0 (Int.ne_of_gt h)
  · exact List.mem_map.1 hm

theorem takeBest_cases (score : Rect → Int) (areas : List Rect) :
    (takeBest score areas = none ∧ First score areas none) ∨
    ∃ a rest, takeBest score areas = some (a, rest) ∧ First score areas (some a) ∧
      (a :: rest).Perm areas := by
  by_cases hbest : bestScore score areas ≤ 0
  · refine .inl ⟨if_pos hbest, ?_⟩
    intro b hb
    have : score b ≤ bestScore score areas := le_bestScore hb
    omega
  · have hpos : 0 < bestScore score areas := by omega
    obtain ⟨b, hb, hscore⟩ := exists_bestScore hpos
    obtain ⟨i, hi⟩ : ∃ i, (areas.findIdx? fun a => decide (score a = bestScore score areas)) =
        some i := by
      rw [← Option.isSome_iff_exists, List.findIdx?_isSome, List.any_eq_true]
      exact ⟨b, hb, decide_eq_true hscore⟩
    obtain ⟨hlt, hscorei, hfirst⟩ := List.findIdx?_eq_some_iff_getElem.1 hi
    have hget : areas[i]? = some areas[i] := List.getElem?_eq_getElem hlt
    have htake : takeBest score areas = some (areas[i], areas.eraseIdx i) := by
      simp only [takeBest, if_neg hbest, hi, Option.bind_some, hget, Option.map_some]
    have hmax : score areas[i] = bestScore score areas := of_decide_eq_true hscorei
    refine .inr ⟨_, _, htake, ⟨by omega, ?_, i, hget, ?_⟩, takeBest_perm htake⟩
    · intro c hc
      rw [hmax]
      exact le_bestScore hc
    · intro j c hj hc
      obtain ⟨hjlt, rfl⟩ := List.getElem?_eq_some_iff.1 hc
      have hne := hfirst j hj
      rw [decide_eq_true_iff] at hne
      have : score areas[j] ≤ bestScore score areas := le_bestScore (List.getElem_mem _)
      omega

/-! ## Tables -/

/-- Some of the areas get a table, all others stay free. -/
theorem seated_of_setTables {tables : List Furniture}
    (h : setTables src chance areas st = .ok (tables, free) st') :
    ∃ seats, (seats ++ free).Perm areas ∧ List.Forall₂ Furniture.Seats tables seats ∧
      ∀ a ∈ seats, hasTableSpace a = true := by
  induction areas generalizing tables free st st' with
  | nil =>
    obtain ⟨heq, -⟩ := pure_eq_ok_iff.1 h
    cases heq
    exact ⟨[], .refl _, .nil, fun _ ha => absurd ha List.not_mem_nil⟩
  | cons area areas ih =>
    obtain ⟨placed, s1, h1, h⟩ := bind_eq_ok_iff.1 h
    obtain ⟨⟨ts, fs⟩, s2, h2, h⟩ := bind_eq_ok_iff.1 h
    obtain ⟨seats, hperm, hseats, hroom⟩ := ih h2
    cases placed with
    | true =>
      obtain ⟨heq, -⟩ := pure_eq_ok_iff.1 h
      cases heq
      have hspace : hasTableSpace area = true := by
        unfold wantsTable at h1
        split at h1
        · assumption
        · cases h1
      refine ⟨area :: seats, hperm.cons area, .cons (Furniture.seats_table area) hseats, ?_⟩
      intro a ha
      rcases List.mem_cons.1 ha with rfl | ha
      · exact hspace
      · exact hroom a ha
    | false =>
      obtain ⟨heq, -⟩ := pure_eq_ok_iff.1 h
      cases heq
      exact ⟨seats, List.perm_middle.trans (hperm.cons area), hseats, hroom⟩

theorem faultsIn_setTables : FaultsIn P (setTables src chance areas) st := by
  induction areas generalizing st with
  | nil => exact .pure _
  | cons area areas ih =>
    have hwants : FaultsIn P (wantsTable src chance area) st := by
      unfold wantsTable
      split
      · exact Source.faultsIn_chance _
      · exact .pure _
    exact hwants.bind fun placed s1 _ => ih.bind fun tf s2 _ => .pure _

/-! ## One room -/

end Furnishing

/-- The piece that a room of the kind is about: a stage or a bar. -/
def Kind.centrepiece : Kind → Rect → Furniture
  | stage => .stage
  | _ => .bar

namespace Furnishing

/-- The area of the centrepiece. Only stages and bars have one. -/
def Chosen (room : Rect) (areas : List Rect) (best : Option Rect) : Kind → Prop
  | .stage => First (stageScore room) areas best
  | .bar => First (barScore room) areas best
  | _ => best = none

/-- The use of the areas of a room: one for the centrepiece, some for tables, the others free. -/
structure Arranged (k : Kind) (room : Rect) (areas : List Rect) (best : Option Rect)
    (seats free : List Rect) (tables : List Furniture) : Prop where
  partition : (best.toList ++ seats ++ free).Perm areas
  chosen : Chosen room areas best k
  seated : List.Forall₂ Furniture.Seats tables seats
  space : ∀ a ∈ seats, hasTableSpace a = true
  bare : k = .entrance ∨ k = .cellar → seats = []

def pieces (k : Kind) (best : Option Rect) (tables : List Furniture) : List Furniture :=
  best.toList.map k.centrepiece ++ tables

/-- The room after furnishing differs in its areas and its furniture, and every area is used. -/
def Furnished (r r' : Room) : Prop :=
  ∃ best seats tables,
    r' = { r with areas := r'.areas, furniture := r.furniture ++ pieces r.kind best tables } ∧
    Arranged r.kind r.footprint r.areas best seats r'.areas tables

theorem furnished_of_addTables {r q r' : Room} (best : Option Rect)
    (h : addTables src chance q st = .ok r' st') (hk : r.kind ≠ .entrance ∧ r.kind ≠ .cellar)
    (hq : q = { r with areas := q.areas, furniture := r.furniture ++ pieces r.kind best [] })
    (hperm : (best.toList ++ q.areas).Perm r.areas)
    (hchosen : Chosen r.footprint r.areas best r.kind) : Furnished r r' := by
  obtain ⟨⟨tables, free⟩, s1, h1, h⟩ := bind_eq_ok_iff.1 h
  obtain ⟨rfl, -⟩ := pure_eq_ok_iff.1 h
  obtain ⟨seats, hseats, hseated, hspace⟩ := seated_of_setTables h1
  refine ⟨best, seats, tables, ?_, ⟨?_, hchosen, hseated, hspace, ?_⟩⟩
  · rw [hq]
    simp only [pieces, List.append_nil, List.append_assoc]
  · rw [List.append_assoc]
    exact (hseats.append_left _).trans hperm
  · rintro (hkind | hkind)
    · exact absurd hkind hk.1
    · exact absurd hkind hk.2

theorem furnished_of_occupy {r r' : Room} (hk : r.kind = .stage ∨ r.kind = .bar)
    (hscore : ∀ best, Chosen r.footprint r.areas best r.kind ↔ First score r.areas best)
    (h : addTables src chance (occupy score r.kind.centrepiece r) st = .ok r' st') :
    Furnished r r' := by
  have hkind : r.kind ≠ .entrance ∧ r.kind ≠ .cellar := by
    rcases hk with hk | hk <;> rw [hk] <;> decide
  rcases takeBest_cases score r.areas with ⟨htake, hfirst⟩ | ⟨a, rest, htake, hfirst, hperm⟩
  · refine furnished_of_addTables none h hkind ?_ ?_ ((hscore none).2 hfirst)
    · simp [occupy, htake, pieces]
    · simp [occupy, htake]
  · refine furnished_of_addTables (some a) h hkind ?_ ?_ ((hscore (some a)).2 hfirst)
    · simp [occupy, htake, pieces]
    · simpa [occupy, htake] using hperm

theorem faultsIn_addTables {r : Room} : FaultsIn P (addTables src chance r) st :=
  faultsIn_setTables.bind fun _ _ _ => .pure _

/-- Furnishing a room succeeds and uses every area once. -/
theorem ends_furnish (src : Source σ) (r : Room) (st : Stream σ) :
    Ends (fun r' _ => Furnished r r') P (furnish src r) st := by
  have htables : r.kind = .garden ∨ r.kind = .seating →
      Ends (fun r' _ => Furnished r r') P (addTables src 0.7 r) st := by
    intro hk
    refine ⟨fun r' st' h => furnished_of_addTables none h ?_ ?_ ?_ ?_, faultsIn_addTables⟩
    · rcases hk with hk | hk <;> rw [hk] <;> decide
    · simp [pieces]
    · exact .refl _
    · rcases hk with hk | hk <;> rw [hk] <;> rfl
  have hbare : r.kind = .entrance ∨ r.kind = .cellar →
      Ends (fun r' _ => Furnished r r') P (pure r) st := by
    intro hk
    refine .pure ⟨none, [], [], ?_, .refl _, ?_, .nil, fun _ ha => absurd ha List.not_mem_nil,
      fun _ => rfl⟩
    · simp [pieces]
    · rcases hk with hk | hk <;> rw [hk] <;> rfl
  have hcentre : ∀ (score : Rect → Int) (chance : Float), r.kind = .stage ∨ r.kind = .bar →
      (∀ best, Chosen r.footprint r.areas best r.kind ↔ First score r.areas best) →
      Ends (fun r' _ => Furnished r r') P
        (addTables src chance (occupy score r.kind.centrepiece r)) st :=
    fun score chance hk hscore =>
      ⟨fun r' st' h => furnished_of_occupy hk hscore h, faultsIn_addTables⟩
  unfold furnish
  cases hk : r.kind with
  | garden => exact htables (.inl hk)
  | seating => exact htables (.inr hk)
  | stage =>
    have hends := hcentre (stageScore r.footprint) 0.8 (.inl hk) (by rw [hk]; exact fun _ => .rfl)
    rw [hk] at hends
    exact hends
  | bar =>
    have hends := hcentre (barScore r.footprint) 0.1 (.inr hk) (by rw [hk]; exact fun _ => .rfl)
    rw [hk] at hends
    exact hends
  | entrance => exact hbare (.inl hk)
  | cellar => exact hbare (.inr hk)

/-! ## Where the pieces stand -/

namespace Arranged

variable {k : Kind} {room : Rect} {best : Option Rect} {seats : List Rect}
  {tables : List Furniture} {bounds : Rect} {avoid : List Rect}

/-- The pieces belong one to one to the areas that are used. -/
theorem fills (h : Arranged k room areas best seats free tables) :
    List.Forall₂ Furniture.Fills (pieces k best tables) (best.toList ++ seats) := by
  have htables : List.Forall₂ Furniture.Fills tables seats :=
    h.seated.imp fun _ _ ht => .inr (.inr ht)
  cases best with
  | none => exact htables
  | some a =>
    apply List.Forall₂.cons _ htables
    cases k with
    | stage => exact .inr (.inl rfl)
    | _ => exact .inl rfl

theorem used_subset (h : Arranged k room areas best seats free tables) :
    best.toList ++ seats ⊆ areas :=
  fun _ ha => h.partition.subset (List.mem_append_left _ ha)

/-- A piece takes free cells of the room only. -/
theorem mem_of_occupies (h : Arranged k room areas best seats free tables)
    (hs : FreeFloor.Swept bounds avoid areas) {f : Furniture} (hf : f ∈ pieces k best tables)
    {p : Vec2} (hp : f.Occupies p) : p ∈ bounds ∧ ¬ FreeFloor.Covered avoid p := by
  obtain ⟨a, ha, hfill⟩ := Furniture.exists_of_fills h.fills hf
  have hmem := h.used_subset ha
  have hpa := hfill.mem (hs.inside a hmem).2 hp
  refine ⟨(hs.inside a hmem).1.mem hpa, ?_⟩
  rintro ⟨o, ho, hpo⟩
  exact hs.clear a hmem o ho p hpa hpo

/-- No two pieces share a cell. -/
theorem pieces_apart (h : Arranged k room areas best seats free tables)
    (hs : FreeFloor.Swept bounds avoid areas) :
    (pieces k best tables).Pairwise Furniture.Apart := by
  have hall := (List.Perm.pairwise_iff Rect.Separate.symm h.partition).2 hs.apart
  exact Furniture.pairwise_of_fills h.fills (fun a ha => (hs.inside a (h.used_subset ha)).2)
    (List.pairwise_append.1 hall).1

/-- The areas after furnishing, used and free, are apart and hold the cells of those before. -/
theorem areas_apart (h : Arranged k room areas best seats free tables)
    (hs : FreeFloor.Swept bounds avoid areas) :
    (best.toList ++ seats ++ free).Pairwise Rect.Separate :=
  (List.Perm.pairwise_iff Rect.Separate.symm h.partition).2 hs.apart

theorem covered_iff (h : Arranged k room areas best seats free tables) {p : Vec2} :
    FreeFloor.Covered (best.toList ++ seats ++ free) p ↔ FreeFloor.Covered areas p := by
  unfold FreeFloor.Covered
  simp only [h.partition.mem_iff]

end Arranged

end Furnishing

end TavernLayout
