import Mathlib

/-!
# Signs of doubles

Whether a double is above or below zero shows in its unpacked form: NaN and the two zeros are
neither. A product rounds, but never to the other side of zero, so a product above zero with a
factor that is not below zero has its other factor above zero as well.

* `Above`, `Below`, `pos_iff`, `neg_iff`: the sides of zero;
* `not_pos_iff`: the doubles that are not above zero are those up to zero, and NaN;
* `pos_of_mul_pos`: the sign of a factor, from the sign of the product.
-/

namespace TavernLayout.Number

open Float.Model (Format UnpackedFloat)
open Float.Model.UnpackedFloat

variable {u v : UnpackedFloat} {x y : Float} {spec : Format}

/-- Above zero: positive, and not a zero. -/
def Above : UnpackedFloat → Prop
  | .infinity .positive => True
  | .finite .positive _ _ _ => True
  | _ => False

def Below : UnpackedFloat → Prop
  | .infinity .negative => True
  | .finite .negative _ _ _ => True
  | _ => False

theorem unpack_zero : (0.0 : Float).toModel.unpack = .zero .positive := rfl

theorem pos_iff : 0.0 < x ↔ Above x.toModel.unpack := by
  change decide (UnpackedFloat.lt (0.0 : Float).toModel.unpack x.toModel.unpack = true) = true ↔ _
  rw [decide_eq_true_iff, unpack_zero]
  unfold UnpackedFloat.lt
  cases x.toModel.unpack with
  | notANumber => simp [Above, UnpackedFloat.compare]
  | infinity s => cases s <;> simp [Above, UnpackedFloat.compare]
  | zero s => simp [Above, UnpackedFloat.compare]
  | finite s m e hm => cases s <;> simp [Above, UnpackedFloat.compare]

theorem neg_iff : x < 0.0 ↔ Below x.toModel.unpack := by
  change decide (UnpackedFloat.lt x.toModel.unpack (0.0 : Float).toModel.unpack = true) = true ↔ _
  rw [decide_eq_true_iff, unpack_zero]
  unfold UnpackedFloat.lt
  cases x.toModel.unpack with
  | notANumber => simp [Below, UnpackedFloat.compare]
  | infinity s => cases s <;> simp [Below, UnpackedFloat.compare]
  | zero s => simp [Below, UnpackedFloat.compare]
  | finite s m e hm => cases s <;> simp [Below, UnpackedFloat.compare]

/-- What is not above zero is at most zero, or no number at all. -/
theorem not_pos_iff : ¬ 0.0 < x ↔ x ≤ 0.0 ∨ x.isNaN = true := by
  rw [pos_iff]
  change _ ↔ decide (UnpackedFloat.le x.toModel.unpack (0.0 : Float).toModel.unpack = true) = true ∨
    x.toModel.unpack.isNaN = true
  rw [decide_eq_true_iff, unpack_zero]
  unfold UnpackedFloat.le
  cases x.toModel.unpack with
  | notANumber => simp [Above, UnpackedFloat.compare, UnpackedFloat.isNaN]
  | infinity s => cases s <;> simp [Above, UnpackedFloat.compare, UnpackedFloat.isNaN]
  | zero s => simp [Above, UnpackedFloat.compare, UnpackedFloat.isNaN]
  | finite s m e hm => cases s <;> simp [Above, UnpackedFloat.compare, UnpackedFloat.isNaN]

/-! ## Products -/

/-- A pattern with a negative sign is not above zero. -/
theorem not_above_negative (e : BitVec spec.exponentBits)
    (m : BitVec spec.mantissaBitsWithoutImplicit) :
    ¬ Above (unpack spec (packComponents spec .negative e m)) := by
  rw [unpack.eq_1, unpackSign_packComponents, Sign.ofBitVec_toBitVec]
  split
  · split <;> exact id
  · split
    · split <;> exact id
    · exact id

/-- Packing puts nothing above zero. -/
theorem above_of_pack (h : Above (unpack spec (pack spec u))) : Above u := by
  cases u with
  | notANumber =>
    rw [pack.eq_1, unpack_packedNaN] at h
    exact h
  | infinity s =>
    cases s with
    | positive => trivial
    | negative => exact absurd h (not_above_negative _ _)
  | zero s =>
    rw [pack.eq_3, unpack_packedZero] at h
    exact h
  | finite s m e hm =>
    cases s with
    | positive => trivial
    | negative =>
      rw [pack.eq_4] at h
      split at h
      · exact absurd h (not_above_negative _ _)
      · split at h
        · exact absurd h (not_above_negative _ _)
        · exact absurd h (not_above_negative _ _)

/-- Rounding keeps the sign. -/
theorem not_above_round (m : Nat) (e : Int) (acc : Accuracy) :
    ¬ Above (roundWithAccuracy spec .negative m e acc) := by
  unfold roundWithAccuracy
  dsimp only
  split <;> exact id

theorem above_of_mul (hu : ¬ Below u) (h : Above (mul spec u v)) : Above v := by
  cases v with
  | notANumber => cases u <;> exact h
  | zero s => cases u <;> exact h
  | infinity s =>
    cases s with
    | positive => trivial
    | negative =>
      cases u with
      | notANumber => exact h
      | zero s => exact h
      | infinity s => cases s <;> [exact absurd trivial hu; exact h]
      | finite s m e hm => cases s <;> [exact absurd trivial hu; exact h]
  | finite s m e hm =>
    cases s with
    | positive => trivial
    | negative =>
      cases u with
      | notANumber => exact h
      | zero s => exact h
      | infinity s => cases s <;> [exact absurd trivial hu; exact h]
      | finite s m e hm =>
        cases s with
        | negative => exact absurd trivial hu
        | positive => exact absurd h (not_above_round _ _ _)

/-- A product is above zero only if its second factor is, unless the first one is below zero. -/
theorem pos_of_mul_pos (hx : ¬ x < 0.0) (h : 0.0 < x * y) : 0.0 < y := by
  rw [neg_iff] at hx
  rw [pos_iff] at h ⊢
  exact above_of_mul hx (above_of_pack h)

end TavernLayout.Number
