import TavernLayout.Building.Kind
import TavernLayout.Proofs.Number.Binary
import TavernLayout.Proofs.Number.Signs
import TavernLayout.Proofs.Works

/-!
# Which kinds have a chance

A kind that is drawn from a lottery has a positive weight, so a room of a kind that the building has
enough of is never drawn. Weights are computed without a fault unless the number of rooms itself
is too large for a double.

* `mem_of_sideLottery`, `mem_of_basementLottery`: what is known of a kind that is drawn;
* `warm_of_counting`, `counting_chance_stage`, `counting_chance_bar`, `not_counting_entrance`: a
  first garden needs a warm place, and there is never a second stage, a third bar or a second
  entrance;
* `sideWeight_error`: the only weights that cannot be computed.
-/

namespace TavernLayout

namespace Kind

variable {k l : Kind} {ks : List Kind} {space : Rect} {counts : Counts} {temperature : Float}
  {lottery : Lottery Float Kind} {weight : Kind → Except Fault Float}

def Counting (weight : Except Fault Float) : Prop :=
  ∃ x, weight = .ok x ∧ Weight.less 0.0 x = true

def weighted (weight : Kind → Except Fault Float) (ks : List Kind) :
    Except Fault (Option (Lottery Float Kind)) := do
  let es ← ks.mapM fun l => do return (← weight l, l)
  return Lottery.build? es

theorem mem_of_weighted (h : weighted weight ks = .ok (some lottery)) (hl : l ∈ lottery.items) :
    l ∈ ks ∧ Counting (weight l) := by
  unfold weighted at h
  cases hes : ks.mapM fun l => do return (← weight l, l) with
  | error e =>
    rw [hes] at h
    cases h
  | ok es =>
    rw [hes] at h
    obtain ⟨x, hx, hc⟩ := Lottery.mem_of_build? (Except.ok.inj h) hl
    obtain ⟨m, hm, hf⟩ := (mem_iff_of_mapM_ok hes).1 hx
    cases hw : weight m with
    | error e =>
      rw [hw] at hf
      cases hf
    | ok y =>
      rw [hw] at hf
      cases hf
      exact ⟨hm, x, hw, hc⟩

theorem exists_of_weighted_error {e : Fault} (h : weighted weight ks = .error e) :
    ∃ l ∈ ks, weight l = .error e := by
  unfold weighted at h
  cases hes : ks.mapM fun l => do return (← weight l, l) with
  | error e' =>
    rw [hes] at h
    cases h
    obtain ⟨l, hl, hf⟩ := exists_of_mapM_error hes
    refine ⟨l, hl, ?_⟩
    cases hw : weight l with
    | error e' =>
      rw [hw] at hf
      cases hf
      rfl
    | ok x =>
      rw [hw] at hf
      cases hf
  | ok es =>
    rw [hes] at h
    cases h

/-- A kind that is drawn for a room beside another one. -/
theorem mem_of_sideLottery (h : k.sideLottery? space counts temperature = .ok (some lottery))
    (hl : l ∈ lottery.items) :
    l ∈ k.sideKinds ∧ l.Fits space ∧ Counting (l.sideWeight (counts l) temperature) := by
  obtain ⟨hm, hc⟩ := mem_of_weighted h hl
  obtain ⟨hk, hfit⟩ := List.mem_filter.1 hm
  exact ⟨hk, of_decide_eq_true hfit, hc⟩

/-- A kind that is drawn for a basement. -/
theorem mem_of_basementLottery (h : k.basementLottery? space counts = .ok (some lottery))
    (hl : l ∈ lottery.items) :
    l ∈ k.basementKinds ∧ l.Fits space ∧ Counting (l.chance (counts l)) := by
  obtain ⟨hm, hc⟩ := mem_of_weighted h hl
  obtain ⟨hk, hfit⟩ := List.mem_filter.1 hm
  exact ⟨hk, of_decide_eq_true hfit, hc⟩

theorem exists_of_sideLottery_error {e : Fault}
    (h : k.sideLottery? space counts temperature = .error e) :
    ∃ l : Kind, l.sideWeight (counts l) temperature = .error e := by
  obtain ⟨l, -, hl⟩ := exists_of_weighted_error h
  exact ⟨l, hl⟩

/-- A basement is a cellar, whose chances do not depend on the number of rooms. -/
theorem basementLottery_ok (k : Kind) (space : Rect) (counts : Counts) :
    ∃ l?, k.basementLottery? space counts = .ok l? := by
  cases h : k.basementLottery? space counts with
  | ok l? => exact ⟨l?, rfl⟩
  | error e =>
    obtain ⟨l, hl, hf⟩ := exists_of_weighted_error h
    obtain ⟨-, rfl⟩ := mem_basementKinds.1 (List.mem_filter.1 hl).1
    cases hf

/-! ## Chances -/

theorem sideWeight_of_ne_garden (h : k ≠ garden) (n : Int) :
    k.sideWeight n temperature = k.chance n := by
  unfold sideWeight
  simp only [if_neg h]
  cases k.chance n <;> rfl

/-- The chance of a first garden is not below zero. -/
theorem garden_chance_zero : ∃ x, garden.chance 0 = .ok x ∧ ¬ x < 0.0 :=
  ⟨0.05, by decide +kernel, by decide⟩

/-- A first garden has a chance in a warm place only. -/
theorem warm_of_counting (h : Counting (garden.sideWeight 0 temperature)) : 0.0 < temperature := by
  obtain ⟨x, hx, hless⟩ := h
  obtain ⟨y, hy, hsign⟩ := garden_chance_zero
  unfold sideWeight at hx
  rw [hy] at hx
  obtain rfl := Except.ok.inj hx
  have hpos : 0.0 < y * temperature := of_decide_eq_true hless
  exact Number.pos_of_mul_pos hsign hpos

/-- A stage has a chance only while there is none. -/
theorem counting_chance_stage {n : Int} (h : Counting (stage.chance n)) : n = 0 := by
  obtain ⟨x, hx, hless⟩ := h
  change Except.ok (if n = 0 then 1.0 else 0.0) = _ at hx
  obtain rfl := Except.ok.inj hx
  by_cases h0 : n = 0
  · exact h0
  · rw [if_neg h0] at hless
    exact absurd hless (by decide)

/-- A bar has a chance only while there are fewer than two. -/
theorem counting_chance_bar {n : Int} (h : Counting (bar.chance n)) : n = 0 ∨ n = 1 := by
  obtain ⟨x, hx, hless⟩ := h
  change Except.ok (if n = 0 then 1.0 else if n = 1 then 0.01 else 0.0) = _ at hx
  obtain rfl := Except.ok.inj hx
  by_cases h0 : n = 0
  · exact .inl h0
  · by_cases h1 : n = 1
    · exact .inr h1
    · rw [if_neg h0, if_neg h1] at hless
      exact absurd hless (by decide)

/-- An entrance hall never has a chance beside another room. -/
theorem not_counting_entrance (n : Int) :
    ¬ Counting (entrance.sideWeight n temperature) := by
  rw [sideWeight_of_ne_garden (by decide)]
  rintro ⟨x, hx, hless⟩
  change Except.ok 0.0 = _ at hx
  obtain rfl := Except.ok.inj hx
  exact absurd hless (by decide)

theorem chance_ok {n : Int} (h0 : 0 ≤ n) (h : n < 2 ^ 500) : ∃ x, k.chance n = .ok x := by
  have hnext : (nextCount n).natAbs < 2 ^ 502 := by
    have := Number.natAbs_roundInt_le n
    unfold nextCount
    omega
  have hne : n ≠ -1 := by omega
  cases k with
  | garden =>
    obtain ⟨x, hx⟩ := Number.square_ok hnext (by decide)
    refine ⟨0.05 / x, ?_⟩
    simp only [chance, hx, bind, Except.bind, if_neg hne]
    rfl
  | seating =>
    obtain ⟨x, hx⟩ := Number.ofInt_ok hnext (by decide)
    refine ⟨0.4 / x, ?_⟩
    simp only [chance, hx, bind, Except.bind, if_neg hne]
    rfl
  | stage => exact ⟨_, rfl⟩
  | bar => exact ⟨_, rfl⟩
  | entrance => exact ⟨_, rfl⟩
  | cellar => exact ⟨_, rfl⟩

theorem sideWeight_ok {n : Int} (h0 : 0 ≤ n) (h : n < 2 ^ 500) :
    ∃ x, k.sideWeight n temperature = .ok x := by
  obtain ⟨x, hx⟩ := chance_ok (k := k) h0 h
  unfold sideWeight
  rw [hx]
  exact ⟨_, rfl⟩

theorem chance_error {n : Int} {e : Fault} (h0 : 0 ≤ n) (h : k.chance n = .error e) :
    e = .overflow := by
  have hne : n ≠ -1 := by omega
  cases k with
  | garden =>
    cases hs : Number.square (nextCount n) with
    | error e' =>
      simp only [chance, hs, bind, Except.bind] at h
      cases h
      exact Number.square_error hs
    | ok x =>
      simp only [chance, hs, bind, Except.bind, if_neg hne] at h
      cases h
  | seating =>
    cases hs : Number.ofInt (nextCount n) with
    | error e' =>
      simp only [chance, hs, bind, Except.bind] at h
      cases h
      exact Number.ofInt_error hs
    | ok x =>
      simp only [chance, hs, bind, Except.bind, if_neg hne] at h
      cases h
  | stage => cases h
  | bar => cases h
  | entrance => cases h
  | cellar => cases h

/-- A weight that cannot be computed is one for a very large number of rooms. -/
theorem sideWeight_error {n : Int} {e : Fault} (h0 : 0 ≤ n)
    (h : k.sideWeight n temperature = .error e) : e = .overflow ∧ 2 ^ 500 ≤ n := by
  constructor
  · unfold sideWeight at h
    cases hc : k.chance n with
    | error e' =>
      rw [hc] at h
      cases h
      exact chance_error h0 hc
    | ok x =>
      rw [hc] at h
      cases h
  · by_cases hn : n < 2 ^ 500
    · have hok : ∃ x, k.sideWeight n temperature = .ok x := sideWeight_ok h0 hn
      obtain ⟨x, hx⟩ := hok
      rw [hx] at h
      cases h
    · omega

end Kind

end TavernLayout
