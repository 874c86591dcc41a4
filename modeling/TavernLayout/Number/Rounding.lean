/-!
# Rounding quotients

`roundDiv n d` is the integer nearest to `n / d`; half-way between two it is the even one.

* `roundDiv_le`, `le_roundDiv`: the result is off by at most one half;
* `roundDiv_mul`: an exact quotient is its own rounding.
-/

namespace TavernLayout.Number

/-- The integer nearest to `n / d`, the even one when two are equally near. -/
def roundDiv (n d : Nat) : Nat :=
  let q := n / d
  let r := n % d
  if 2 * r < d then q
  else if d < 2 * r then q + 1
  else q + q % 2

theorem roundDiv_cases (n d : Nat) :
    (roundDiv n d = n / d ∧ 2 * (n % d) ≤ d) ∨ (roundDiv n d = n / d + 1 ∧ d ≤ 2 * (n % d)) := by
  unfold roundDiv
  dsimp only
  split
  · exact .inl ⟨rfl, by omega⟩
  · split
    · exact .inr ⟨rfl, by omega⟩
    · rcases Nat.mod_two_eq_zero_or_one (n / d) with h | h
      · exact .inl ⟨by omega, by omega⟩
      · exact .inr ⟨by omega, by omega⟩

theorem roundDiv_le (n d : Nat) : 2 * d * roundDiv n d ≤ 2 * n + d := by
  have hn : d * (n / d) + n % d = n := Nat.div_add_mod n d
  rcases roundDiv_cases n d with ⟨h, _⟩ | ⟨h, h2⟩
  · rw [h, Nat.mul_assoc]
    omega
  · rw [h, Nat.mul_assoc, Nat.mul_add]
    omega

theorem le_roundDiv (n : Nat) {d : Nat} (hd : 0 < d) : 2 * n ≤ 2 * d * roundDiv n d + d := by
  have hn : d * (n / d) + n % d = n := Nat.div_add_mod n d
  have hr : n % d < d := Nat.mod_lt n hd
  rcases roundDiv_cases n d with ⟨h, h2⟩ | ⟨h, _⟩
  · rw [h, Nat.mul_assoc]
    omega
  · rw [h, Nat.mul_assoc, Nat.mul_add]
    omega

theorem roundDiv_mul (q : Nat) {d : Nat} (h : 0 < d) : roundDiv (q * d) d = q := by
  simp [roundDiv, h]

end TavernLayout.Number
