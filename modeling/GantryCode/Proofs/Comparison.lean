import GantryCode.Proofs.ExactValue

namespace GantryCode.Binary64

/-! Comparison of floating-point numbers.

Two numbers are always in one order or the other. What is between two finite numbers is
finite, and finite numbers are ordered as their exact values are. Numbers above zero may be
infinite, but not if there is a larger one.
-/

open Decimal (IsFinite)
open Float.Model (UnpackedFloat)

variable {x y low high : Float}

theorem isNaN_iff : x.isNaN = true ↔ x.toModel.unpack = .notANumber := by
  rw [Float.isNaN, Float.Model.isNaN]
  cases x.toModel.unpack <;> simp [UnpackedFloat.isNaN]

theorem compare_isSome (number : x.isNaN = false) (also : y.isNaN = false) :
    ∃ order, x.toModel.unpack.compare y.toModel.unpack = some order ∧
      y.toModel.unpack.compare x.toModel.unpack = some order.swap := by
  rw [← Bool.not_eq_true, isNaN_iff] at number also
  revert number also
  cases x.toModel.unpack with
  | notANumber => simp
  | infinity sign =>
      cases y.toModel.unpack with
      | notANumber => simp
      | infinity other => cases sign <;> cases other <;> exact fun _ _ => ⟨_, rfl, rfl⟩
      | zero other => cases sign <;> simp [UnpackedFloat.compare]
      | finite other digits power nonzero => cases sign <;> simp [UnpackedFloat.compare]
  | zero sign =>
      cases y.toModel.unpack with
      | notANumber => simp
      | infinity other => cases other <;> simp [UnpackedFloat.compare]
      | zero other => simp [UnpackedFloat.compare]
      | finite other digits power nonzero => cases other <;> simp [UnpackedFloat.compare]
  | finite sign mantissa exponent positive =>
      cases y.toModel.unpack with
      | notANumber => simp
      | infinity other => cases other <;> simp [UnpackedFloat.compare]
      | zero other => cases sign <;> simp [UnpackedFloat.compare]
      | finite other digits power nonzero =>
          cases sign <;> cases other <;>
            simp [UnpackedFloat.compare, Ordering.swap_then, Int.compare_swap, Nat.compare_swap]

theorem le_or_lt (number : x.isNaN = false) (also : y.isNaN = false) : x ≤ y ∨ y < x := by
  obtain ⟨order, first, second⟩ := compare_isSome number also
  rw [le_iff, lt_iff, UnpackedFloat.le, UnpackedFloat.lt, first, second]
  cases order <;> decide

theorem isNaN_of_isFinite (finite : IsFinite x) : x.isNaN = false := by
  rw [← Bool.not_eq_true, isNaN_iff]
  intro none
  rw [IsFinite, Float.isFinite, Float.Model.isFinite, none] at finite
  cases finite

theorem isInf_of_isFinite (finite : IsFinite x) : x.isInf = false := by
  rw [Float.isInf, Float.Model.isInf]
  rcases finite_cases finite with ⟨sign, parts⟩ | ⟨sign, mantissa, exponent, positive, parts⟩ <;>
    rw [parts] <;> rfl

theorem le_of_lt (ordered : x < y) : x ≤ y := by
  rw [lt_iff, UnpackedFloat.lt, beq_iff_eq] at ordered
  rw [le_iff, UnpackedFloat.le, ordered]
  rfl

theorem not_lt_of_le (ordered : x ≤ y) : ¬y < x := by
  intro other
  have number : x.isNaN = false := by
    rw [← Bool.not_eq_true, isNaN_iff]
    intro none
    rw [le_iff, none] at ordered
    cases ordered
  have also : y.isNaN = false := by
    rw [← Bool.not_eq_true, isNaN_iff]
    intro none
    rw [lt_iff, none] at other
    cases other
  obtain ⟨order, first, second⟩ := compare_isSome number also
  rw [le_iff, UnpackedFloat.le, first] at ordered
  rw [lt_iff, UnpackedFloat.lt, second] at other
  revert ordered other
  cases order <;> decide

/-- What is between finite numbers is finite. -/
theorem isFinite_of_between (least : IsFinite low) (most : IsFinite high) (above : low ≤ x)
    (below : x ≤ high) : IsFinite x := by
  rw [le_iff] at above below
  rw [IsFinite, Float.isFinite, Float.Model.isFinite]
  cases parts : x.toModel.unpack with
  | notANumber =>
      rw [parts] at below
      cases below
  | infinity sign =>
      rw [parts] at above below
      cases sign with
      | positive =>
          rcases finite_cases most with ⟨sign, held⟩ | ⟨sign, digits, power, nonzero, held⟩ <;>
            rw [held] at below <;> cases below
      | negative =>
          rcases finite_cases least with ⟨sign, held⟩ | ⟨sign, digits, power, nonzero, held⟩ <;>
            rw [held] at above <;> cases sign <;> cases above
  | zero sign => rfl
  | finite sign mantissa exponent positive => rfl

section Exactly

variable {mantissa other : ℕ} {exponent power : ℤ}

/-- The mantissas and exponents that finite numbers are unpacked to, and larger ones. -/
structure IsCanonical (mantissa : ℕ) (exponent : ℤ) : Prop where
  bits : mantissa < 2 ^ 53
  least : -1074 ≤ exponent
  full : -1074 < exponent → 2 ^ 52 ≤ mantissa

theorem isCanonical_of_unpack {sign : UnpackedFloat.Sign} {positive : 0 < mantissa}
    (same : x.toModel.unpack = .finite sign mantissa exponent positive) :
    IsCanonical mantissa exponent :=
  ⟨(unpack_canonical same).1, unpack_exponent same, (unpack_canonical same).2⟩

/-- There is one way to take a number apart. -/
theorem IsCanonical.unique (canonical : IsCanonical mantissa exponent)
    (also : IsCanonical other power)
    (same : (mantissa : ℚ) * 2 ^ exponent = other * 2 ^ power) :
    mantissa = other ∧ exponent = power := by
  rcases lt_trichotomy exponent power with less | rfl | greater
  · exact absurd same
      (scaled_lt canonical.bits (also.full (canonical.least.trans_lt less)) less).ne
  · have scale : (2 : ℚ) ^ exponent ≠ 0 := by positivity
    exact ⟨by exact_mod_cast mul_right_cancel₀ scale same, rfl⟩
  · exact absurd same
      (scaled_lt also.bits (canonical.full (also.least.trans_lt greater)) greater).ne'

/-- Finite numbers of one value are the same, or both are zeros. -/
theorem sameValue_of_exactValue (finite : IsFinite x) (also : IsFinite y)
    (same : exactValue x = exactValue y) : SameValue x y := by
  rw [exactValue, exactValue] at same
  rcases finite_cases finite with ⟨sign, here⟩ | ⟨sign, mantissa, exponent, positive, here⟩
  · rcases finite_cases also with ⟨other, there⟩ | ⟨other, digits, power, nonzero, there⟩
    · exact .inr ⟨⟨sign, here⟩, other, there⟩
    · have size : (0 : ℚ) < digits * 2 ^ power := by positivity
      rw [here, there] at same
      cases other with
      | positive => exact absurd same size.ne
      | negative => exact absurd same (neg_lt_zero.mpr size).ne'
  · have size : (0 : ℚ) < mantissa * 2 ^ exponent := by positivity
    rcases finite_cases also with ⟨other, there⟩ | ⟨other, digits, power, nonzero, there⟩
    · rw [here, there] at same
      cases sign with
      | positive => exact absurd same size.ne'
      | negative => exact absurd same (neg_lt_zero.mpr size).ne
    · have sizeToo : (0 : ℚ) < digits * 2 ^ power := by positivity
      rw [here, there] at same
      have equal : sign = other ∧ (mantissa : ℚ) * 2 ^ exponent = digits * 2 ^ power := by
        cases sign with
        | positive =>
            cases other with
            | positive => exact ⟨rfl, same⟩
            | negative => exact absurd same ((neg_lt_zero.mpr sizeToo).trans size).ne'
        | negative =>
            cases other with
            | positive => exact absurd same ((neg_lt_zero.mpr size).trans sizeToo).ne
            | negative => exact ⟨rfl, neg_inj.mp same⟩
      obtain ⟨rfl, values⟩ := equal
      obtain ⟨rfl, rfl⟩ :=
        (isCanonical_of_unpack here).unique (isCanonical_of_unpack there) values
      left
      rw [← pack_unpack x, ← pack_unpack y, here, there]

@[simp] theorem exactValue_zero : exactValue 0 = 0 := rfl

@[simp] theorem exactValue_one : exactValue 1 = 1 := by
  change ((2 ^ 52 : ℕ) : ℚ) * 2 ^ (-52 : ℤ) = 1
  norm_num

@[simp] theorem exactValue_two : exactValue 2 = 2 := by
  change ((2 ^ 52 : ℕ) : ℚ) * 2 ^ (-51 : ℤ) = 2
  norm_num

theorem SameValue.exactValue_eq (same : SameValue x y) : exactValue x = exactValue y := by
  rcases same with rfl | ⟨⟨sign, here⟩, other, there⟩
  · rfl
  · rw [exactValue, exactValue, here, there]
    rfl

theorem SameValue.isFinite (same : SameValue x y) (finite : IsFinite x) : IsFinite y := by
  rcases same with rfl | ⟨-, sign, parts⟩
  · exact finite
  · rw [IsFinite, Float.isFinite, Float.Model.isFinite, parts]
    rfl

theorem not_lt_of_sameValue (same : SameValue x y) : ¬x < y := by
  intro less
  rcases same with rfl | ⟨⟨sign, here⟩, other, there⟩
  · exact not_lt_of_le (le_of_lt less) less
  · rw [lt_iff, here, there] at less
    cases less

/-- Finite numbers are ordered as their values are. -/
theorem lt_iff_exactValue (finite : IsFinite x) (also : IsFinite y) :
    x < y ↔ exactValue x < exactValue y := by
  constructor
  · intro less
    refine lt_of_le_of_ne (exactValue_mono finite also (le_of_lt less)) fun same => ?_
    exact not_lt_of_sameValue (sameValue_of_exactValue finite also same) less
  · intro less
    rcases le_or_lt (isNaN_of_isFinite also) (isNaN_of_isFinite finite) with ordered | below
    · exact absurd (exactValue_mono also finite ordered) (not_le.mpr less)
    · exact below

end Exactly

section Positive

theorem finite_or_infinite (above : 0 < x) :
    IsFinite x ∨ x.toModel.unpack = .infinity .positive := by
  rw [lt_iff] at above
  rw [IsFinite, Float.isFinite, Float.Model.isFinite]
  cases parts : x.toModel.unpack with
  | notANumber =>
      rw [parts] at above
      cases above
  | infinity sign =>
      rw [parts] at above
      cases sign with
      | positive => exact .inr rfl
      | negative => cases above
  | zero sign => exact .inl rfl
  | finite sign mantissa exponent positive => exact .inl rfl

theorem isNumber_of_pos (above : 0 < x) : x.isNaN = false := by
  rcases finite_or_infinite above with finite | infinite
  · exact isNaN_of_isFinite finite
  · rw [Float.isNaN, Float.Model.isNaN, infinite]
    rfl

/-- What is below another number is finite, if it is above zero. -/
theorem isFinite_of_lt (above : 0 < x) (less : x < y) : IsFinite x := by
  rcases finite_or_infinite above with finite | infinite
  · exact finite
  · rw [lt_iff, infinite] at less
    cases parts : y.toModel.unpack with
    | infinity sign => cases sign <;> (rw [parts] at less; cases less)
    | _ => rw [parts] at less; cases less

/-- What is at least a number above zero is above zero. -/
theorem pos_of_le (above : 0 < x) (ordered : x ≤ y) : 0 < y := by
  have positive (also : IsFinite y) : 0 < y := by
    have zero : IsFinite 0 := by decide
    have finite := isFinite_of_between zero also (le_of_lt above) ordered
    rw [lt_iff_exactValue zero also]
    exact ((lt_iff_exactValue zero finite).mp above).trans_le (exactValue_mono finite also ordered)
  rw [le_iff] at ordered
  cases parts : y.toModel.unpack with
  | zero sign =>
      refine positive ?_
      rw [IsFinite, Float.isFinite, Float.Model.isFinite, parts]
      rfl
  | finite sign mantissa exponent nonzero =>
      refine positive ?_
      rw [IsFinite, Float.isFinite, Float.Model.isFinite, parts]
      rfl
  | notANumber =>
      rw [parts] at ordered
      cases held : x.toModel.unpack <;> (rw [held] at ordered; cases ordered)
  | infinity sign =>
      cases sign with
      | positive =>
          rw [lt_iff, parts]
          rfl
      | negative =>
          rw [parts] at ordered
          rcases finite_or_infinite above with finite | infinite
          · rcases finite_cases finite with ⟨sign, held⟩ | ⟨sign, digits, power, some, held⟩ <;>
              (rw [held] at ordered; cases ordered)
          · rw [infinite] at ordered
            exact absurd ordered (by decide)

theorem le_of_le {z : Float} (above : 0 < x) (ordered : x ≤ y) (further : y ≤ z) : x ≤ z := by
  have aboveToo := pos_of_le above ordered
  have most := pos_of_le aboveToo further
  rcases le_or_lt (isNumber_of_pos above) (isNumber_of_pos most) with reached | less
  · exact reached
  · have zero : IsFinite 0 := by decide
    have last := isFinite_of_lt most less
    have middle := isFinite_of_between zero last (le_of_lt aboveToo) further
    have first := isFinite_of_between zero middle (le_of_lt above) ordered
    have values := (exactValue_mono first middle ordered).trans
      (exactValue_mono middle last further)
    exact absurd ((lt_iff_exactValue last first).mp less) (not_lt.mpr values)

end Positive

end GantryCode.Binary64
