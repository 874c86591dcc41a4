import Mathlib
import TavernLayout.Number.Binary

/-!
# Quotients and integers that have a double

Only a large quotient overflows, and only one by a large integer is rounded to zero. The square of a
double overflows later than its root is rounded.

* `quotientBits_lt`, `quotientBits_pos`: a quotient that is neither too large nor too small;
* `ofInt_ok`: every integer of at most 1023 bits has a double;
* `square_ok`: the double of an integer of at most 510 bits has a square;
* `ofInt_error`, `square_error`: all that can happen otherwise is an overflow.
-/

namespace TavernLayout.Number

theorem roundDiv_le_of_le {n d q : Nat} (hd : 0 < d) (h : n ≤ q * d) : roundDiv n d ≤ q := by
  have hr := roundDiv_le n d
  have hm : d * (2 * roundDiv n d) ≤ d * (2 * q + 1) := by
    calc d * (2 * roundDiv n d) = 2 * d * roundDiv n d := by
          rw [Nat.mul_left_comm, Nat.mul_assoc]
      _ ≤ 2 * n + d := hr
      _ ≤ 2 * (q * d) + d := by omega
      _ = d * (2 * q + 1) := by
        rw [Nat.mul_add, Nat.mul_one, Nat.mul_comm q, Nat.mul_left_comm]
  have := Nat.le_of_mul_le_mul_left hm hd
  omega

/-- Rounding at most doubles an integer. -/
theorem natAbs_roundInt_le (n : Int) : (roundInt n).natAbs ≤ 2 * n.natAbs := by
  rw [roundInt, Int.natAbs_mul, Int.natAbs_natCast]
  generalize hu : 1 <<< (n.natAbs.log2 - 52) = u
  by_cases h0 : n = 0
  · subst h0
    exact Nat.le_of_eq (Nat.zero_mul _)
  · have hpos : 0 < n.natAbs := Int.natAbs_pos.2 h0
    have hsmall : u ≤ n.natAbs := by
      rw [← hu, Nat.one_shiftLeft]
      exact Nat.le_trans (Nat.pow_le_pow_right (by decide) (Nat.sub_le _ _))
        (Nat.log2_self_le (by omega))
    have hr := roundDiv_le n.natAbs u
    rw [Int.natAbs_sign_of_ne_zero h0, Nat.one_mul, Nat.mul_comm]
    rw [Nat.mul_assoc] at hr
    omega

/-- A quotient of a number of at most 1023 bits stays below infinity. -/
theorem quotientBits_lt {n d m : Nat} (hd : 0 < d) (h : n < 2 ^ m) (hm : m ≤ 1023) :
    quotientBits n d < infinityBits := by
  unfold quotientBits
  split
  · decide
  · next h0 =>
    have hlog : n.log2 < 1023 := Nat.lt_of_lt_of_le ((Nat.log2_lt h0).2 h) hm
    have htop : n < 2 ^ (n.log2 + 1) := Nat.lt_log2_self
    have hdlog : 2 ^ d.log2 ≤ d := Nat.log2_self_le (Nat.pos_iff_ne_zero.1 hd)
    have hshift : ∀ k, 0 < d <<< k := fun k => by
      rw [Nat.shiftLeft_eq]
      exact Nat.mul_pos hd (Nat.two_pow_pos k)
    dsimp only
    generalize hguess : (n.log2 : Int) - d.log2 - 53 = guess
    have hnext : ∀ e : Int, guess + 1 ≤ e → n <<< (-e).toNat ≤ 2 * leadingBit * d <<< e.toNat := by
      intro e he
      have hlead : 2 * leadingBit = 2 ^ 53 := by decide
      rw [hlead, Nat.shiftLeft_eq, Nat.shiftLeft_eq]
      calc n * 2 ^ (-e).toNat ≤ 2 ^ (n.log2 + 1) * 2 ^ (-e).toNat :=
            Nat.mul_le_mul_right _ (Nat.le_of_lt htop)
        _ ≤ 2 ^ 53 * (2 ^ d.log2 * 2 ^ e.toNat) := by
            rw [← Nat.pow_add, ← Nat.pow_add, ← Nat.pow_add]
            exact Nat.pow_le_pow_right (by decide) (by omega)
        _ ≤ 2 ^ 53 * (d * 2 ^ e.toNat) :=
            Nat.mul_le_mul_left _ (Nat.mul_le_mul_right _ hdlog)
    generalize hexact : max leastExponent
      (if n <<< (-guess).toNat / d <<< guess.toNat < 2 * leadingBit then guess else guess + 1) =
        e
    have he : e ≤ 970 ∧ n <<< (-e).toNat ≤ 2 * leadingBit * d <<< e.toNat := by
      unfold leastExponent at hexact
      split at hexact
      · next hq =>
        by_cases hle : guess + 1 ≤ e
        · exact ⟨by omega, hnext e hle⟩
        · obtain rfl : e = guess := by omega
          rw [Nat.div_lt_iff_lt_mul (hshift _)] at hq
          exact ⟨by omega, Nat.le_of_lt hq⟩
      · exact ⟨by omega, hnext e (by omega)⟩
    have hround := roundDiv_le_of_le (hshift _) he.2
    have hexp : (e - leastExponent).toNat ≤ 2044 := by
      unfold leastExponent
      omega
    generalize roundDiv _ _ = m at hround ⊢
    have hm : m ≤ 2 ^ 53 := hround
    calc magnitudeBits m e = (e - leastExponent).toNat * 2 ^ 52 + m := by
          rw [magnitudeBits, Nat.shiftLeft_eq]
      _ ≤ 2044 * 2 ^ 52 + 2 ^ 53 := Nat.add_le_add (Nat.mul_le_mul_right _ hexp) hm
      _ < infinityBits := by decide

/-- A quotient is not rounded to zero when its divisor has at most 1074 bits. -/
theorem quotientBits_pos {n d m : Nat} (hn : 0 < n) (hd : 0 < d) (h : d ≤ 2 ^ m) (hm : m ≤ 1074) :
    0 < quotientBits n d := by
  unfold quotientBits
  rw [if_neg (Nat.pos_iff_ne_zero.1 hn)]
  dsimp only
  generalize hexact : max leastExponent _ = e
  by_cases he : e = leastExponent
  · have hleast : leastExponent = -1074 := rfl
    have hle : d <<< e.toNat ≤ n <<< (-e).toNat := by
      rw [Nat.shiftLeft_eq, Nat.shiftLeft_eq, show e.toNat = 0 by omega, Nat.pow_zero, Nat.mul_one]
      calc d ≤ 1 * 2 ^ (-e).toNat := by
            rw [Nat.one_mul]
            exact Nat.le_trans h (Nat.pow_le_pow_right (by decide) (by omega))
        _ ≤ n * 2 ^ (-e).toNat := Nat.mul_le_mul_right _ hn
    have hpos : 0 < d <<< e.toNat := by
      rw [Nat.shiftLeft_eq]
      exact Nat.mul_pos hd (Nat.two_pow_pos _)
    have hround := le_roundDiv (n <<< (-e).toNat) hpos
    refine Nat.lt_of_lt_of_le (Nat.pos_of_ne_zero fun h0 => ?_) (Nat.le_add_left _ _)
    rw [h0, Nat.mul_zero] at hround
    omega
  · have hexp : 0 < (e - leastExponent).toNat := by omega
    refine Nat.lt_of_lt_of_le ?_ (Nat.le_add_right _ _)
    rw [Nat.shiftLeft_eq]
    exact Nat.mul_pos hexp (Nat.two_pow_pos _)

theorem quotient_ok {a b : Int} {m : Nat} (hb : b ≠ 0) (h : a.natAbs < 2 ^ m) (hm : m ≤ 1023) :
    ∃ x, quotient a b = .ok x := by
  unfold quotient roundQuotient
  rw [if_neg hb]
  dsimp only
  rw [if_pos (quotientBits_lt (Int.natAbs_pos.2 hb) h hm)]
  exact ⟨_, rfl⟩

theorem ofInt_ok {n : Int} {m : Nat} (h : n.natAbs < 2 ^ m) (hm : m ≤ 1023) :
    ∃ x, ofInt n = .ok x :=
  quotient_ok (by decide) h hm

theorem ofInt_error {n : Int} {e : Fault} (h : ofInt n = .error e) : e = .overflow := by
  unfold ofInt quotient roundQuotient at h
  rw [if_neg (by decide)] at h
  dsimp only at h
  split at h
  · cases h
  · cases h
    rfl

theorem square_error {n : Int} {e : Fault} (h : square n = .error e) : e = .overflow := by
  unfold square at h
  cases hn : ofInt n with
  | error e' =>
    rw [hn] at h
    cases h
    exact ofInt_error hn
  | ok x =>
    rw [hn] at h
    simp only [bind, Except.bind] at h
    split at h
    · cases h
    · split at h
      · cases h
        rfl
      · cases h

theorem square_ok {n : Int} {m : Nat} (h : n.natAbs < 2 ^ m) (hm : m ≤ 510) :
    ∃ x, square n = .ok x := by
  have hroot : (roundInt n).natAbs < 2 ^ (m + 1) := by
    have := natAbs_roundInt_le n
    rw [Nat.pow_succ]
    omega
  have hsq : (roundInt n).natAbs * (roundInt n).natAbs < 2 ^ (m + 1 + (m + 1)) := by
    rw [Nat.pow_add]
    exact Nat.mul_lt_mul'' hroot hroot
  have hbits := quotientBits_lt (Nat.one_pos) hsq (by omega)
  obtain ⟨x, hx⟩ := ofInt_ok h (by omega)
  unfold square
  rw [hx]
  simp only [bind, Except.bind]
  split
  · exact ⟨_, rfl⟩
  · rw [if_neg (by omega)]
    exact ⟨_, rfl⟩

end TavernLayout.Number
