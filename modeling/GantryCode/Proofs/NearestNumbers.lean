import GantryCode.Proofs.Rounding
import Mathlib.Data.Int.Log

namespace GantryCode.Binary64

/-! Results as the nearest numbers.

The digits of an exact result that a number has no room for are told by two bits, of which one
is the first of them and the other says whether there are any behind it. That is enough to find
the nearest multiple of the last place. The last place is never lower for a greater result, and a
change of it happens at a power of two, so a greater result is not rounded to a smaller number.
-/

open Decimal (IsFinite IsNearest isNearest_of_half isNearest_intCast)
open Float.Model (UnpackedFloat)
open Float.Model.UnpackedFloat (Accuracy ExtendedMantissa shiftToTargetExponent)

section Bits

variable {extended : ExtendedMantissa} {number : ℚ}

theorem tells_ofMantissaAndAccuracy {mantissa : ℕ} {accuracy : Accuracy}
    (told : Tells accuracy (number - mantissa)) :
    let extended := ExtendedMantissa.ofMantissaAndAccuracy mantissa accuracy
    Tells extended.accuracy (number - extended.mantissa) := by
  cases accuracy with
  | exact => exact told
  | inexact order => cases order <;> exact told

/-- One digit more in front of those that are told. -/
theorem tells_digit {mantissa more : ℕ} {half rest : Bool} {behind : ℚ} (digit : Bool)
    (told : Tells (ExtendedMantissa.accuracy ⟨mantissa, half, rest⟩) behind) :
    Tells (ExtendedMantissa.accuracy ⟨more, digit, half || rest⟩)
      ((behind + digit.toNat) / 2) := by
  have value : (digit.toNat : ℚ) = 0 ∧ digit = false ∨ (digit.toNat : ℚ) = 1 ∧ digit = true := by
    cases digit <;> simp
  cases half with
  | false =>
      cases rest with
      | false =>
          have none : behind = 0 := told
          rcases value with ⟨value, rfl⟩ | ⟨value, rfl⟩
          · change (behind + _) / 2 = 0
            linarith
          · change (behind + _) / 2 = 1 / 2
            linarith
      | true =>
          obtain ⟨above, below⟩ : 0 < behind ∧ behind < 1 / 2 := told
          rcases value with ⟨value, rfl⟩ | ⟨value, rfl⟩ <;> constructor <;> linarith
  | true =>
      cases rest with
      | false =>
          have middle : behind = 1 / 2 := told
          rcases value with ⟨value, rfl⟩ | ⟨value, rfl⟩ <;> constructor <;> linarith
      | true =>
          obtain ⟨above, below⟩ : 1 / 2 < behind ∧ behind < 1 := told
          rcases value with ⟨value, rfl⟩ | ⟨value, rfl⟩ <;> constructor <;> linarith

/-- The digit that is dropped becomes the first one behind the mantissa. -/
theorem tells_shiftRightOne (told : Tells extended.accuracy (number - extended.mantissa)) :
    Tells extended.shiftRightOne.accuracy (number / 2 - extended.shiftRightOne.mantissa) := by
  obtain ⟨mantissa, half, rest⟩ := extended
  have digit : mantissa % 2 = (mantissa % 2 != 0).toNat := by
    rcases Nat.mod_two_eq_zero_or_one mantissa with even | odd
    · rw [even]
      rfl
    · rw [odd]
      rfl
  have digits : (mantissa : ℚ) = 2 * (mantissa / 2 : ℕ) + (mantissa % 2 != 0).toNat := by
    rw [← digit]
    exact_mod_cast (Nat.div_add_mod mantissa 2).symm
  have behind : number / 2 - (mantissa / 2 : ℕ) =
      (number - mantissa + (mantissa % 2 != 0).toNat) / 2 := by
    rw [digits]
    ring
  change Tells _ (number / 2 - (mantissa / 2 : ℕ))
  rw [behind]
  exact tells_digit _ told

theorem tells_shiftRight (told : Tells extended.accuracy (number - extended.mantissa))
    (count : ℕ) :
    Tells (extended >>> count).accuracy (number / 2 ^ count - (extended >>> count).mantissa) := by
  induction count with
  | zero =>
      rw [pow_zero, div_one]
      exact told
  | succ count ih =>
      rw [pow_succ, ← div_div]
      exact tells_shiftRightOne ih

/-- With the two bits the nearest integer is found, the even one of two. -/
theorem isNearest_roundedMantissa (told : Tells extended.accuracy (number - extended.mantissa)) :
    IsNearest number extended.roundedMantissa := by
  rw [ExtendedMantissa.roundedMantissa]
  cases known : extended.accuracy with
  | exact =>
      rw [known] at told
      have whole : number = (extended.mantissa : ℤ) := sub_eq_zero.mp told
      rw [whole]
      exact isNearest_intCast _
  | inexact order =>
      rw [known] at told
      cases order with
      | lt =>
          obtain ⟨above, below⟩ := told
          have near : |number - (extended.mantissa : ℤ)| < 1 / 2 := by
            rwa [Int.cast_natCast, abs_of_pos above]
          exact isNearest_of_half near.le fun half => absurd half near.ne
      | gt =>
          obtain ⟨above, below⟩ := told
          have near : |number - ((extended.mantissa + 1 : ℕ) : ℤ)| < 1 / 2 := by
            push_cast
            rw [abs_lt]
            constructor <;> linarith
          exact isNearest_of_half near.le fun half => absurd half near.ne
      | eq =>
          have middle : number - extended.mantissa = 1 / 2 := told
          rcases Nat.mod_two_eq_zero_or_one extended.mantissa with even | odd
          · rw [Accuracy.roundToNearestEven, even, Nat.add_zero]
            refine isNearest_of_half ?_ fun _ => by exact_mod_cast Nat.even_iff.mpr even
            rw [Int.cast_natCast, middle]
            norm_num
          · rw [Accuracy.roundToNearestEven, odd]
            refine isNearest_of_half ?_ fun _ => by exact_mod_cast Nat.even_iff.mpr (by omega)
            push_cast
            rw [abs_le]
            constructor <;> linarith

end Bits

section Places

variable {number more : ℚ} {mantissa : ℕ} {exponent : ℤ} {x y : Float}

/-- The last place of the number for an exact result. -/
def placeOf (number : ℚ) : ℤ :=
  max (Int.log 2 number - 52) (-1074)

theorem placeOf_mono (positive : 0 < number) (ordered : number ≤ more) :
    placeOf number ≤ placeOf more :=
  max_le_max_right _ (sub_le_sub_right (Int.log_mono_right positive ordered) 52)

theorem lt_pow_placeOf (number : ℚ) : number < 2 ^ (53 + placeOf number) := by
  refine (Int.lt_zpow_succ_log_self Nat.one_lt_two number).trans_le ?_
  refine zpow_le_zpow_right₀ (by norm_num) ?_
  rw [placeOf]
  omega

theorem pow_placeOf_le (positive : 0 < number) (normal : -1074 < placeOf number) :
    2 ^ (52 + placeOf number) ≤ number := by
  refine le_trans ?_ (Int.zpow_log_le_self Nat.one_lt_two positive)
  refine zpow_le_zpow_right₀ (by norm_num) ?_
  rw [placeOf] at normal ⊢
  omega

/-- The last place is that of the digits that are kept. -/
theorem placeOf_digits (positive : 0 < number) (deep : exponent ≤ lastPlace mantissa exponent)
    (atLeast : mantissa * 2 ^ exponent ≤ number) (below : number < (mantissa + 1) * 2 ^ exponent) :
    placeOf number = lastPlace mantissa exponent := by
  rw [placeOf, lastPlace]
  by_cases none : mantissa = 0
  · subst none
    have small : Int.log 2 number < exponent := by
      rw [← Int.lt_zpow_iff_log_lt Nat.one_lt_two positive]
      simpa using below
    rw [lastPlace, Nat.log2_zero] at deep
    rw [Nat.log2_zero]
    omega
  · have least : (2 : ℚ) ^ (mantissa.log2 + exponent) ≤ number := by
      rw [zpow_add₀ two_ne_zero, zpow_natCast]
      refine le_trans (mul_le_mul_of_nonneg_right ?_ (by positivity)) atLeast
      exact_mod_cast Nat.log2_self_le none
    have most : number < (2 : ℚ) ^ (mantissa.log2 + exponent + 1) := by
      rw [add_right_comm, zpow_add₀ two_ne_zero]
      refine below.trans_le (mul_le_mul_of_nonneg_right ?_ (by positivity))
      exact_mod_cast Nat.lt_log2_self
    have digits : Int.log 2 number = mantissa.log2 + exponent := by
      refine le_antisymm ?_ ((Int.zpow_le_iff_le_log Nat.one_lt_two positive).mp least)
      exact Int.lt_add_one_iff.mp ((Int.lt_zpow_iff_log_lt Nat.one_lt_two positive).mp most)
    rw [digits]

/-- A finite number is the nearest one to the exact result. -/
def IsNearestNumber (number : ℚ) (x : Float) : Prop :=
  IsFinite x → ∃ units : ℤ, IsNearest (number / 2 ^ placeOf number) units ∧
    exactValue x = units * 2 ^ placeOf number

theorem IsResult.isNearestNumber (result : IsResult number x) (positive : 0 < number) :
    IsNearestNumber number x := by
  obtain ⟨mantissa, exponent, accuracy, deep, told, rfl⟩ := result
  intro finite
  obtain ⟨atLeast, below⟩ := told.bounds
  have scale : (0 : ℚ) < 2 ^ exponent := by positivity
  have place := placeOf_digits positive deep
    ((le_div_iff₀ scale).mp (by linarith)) ((div_lt_iff₀ scale).mp (by linarith))
  have nearest := isNearest_roundedMantissa (tells_shiftRight (tells_ofMantissaAndAccuracy told)
    (lastPlace mantissa exponent - exponent).toNat)
  rw [div_div, mul_comm, ← unit_eq deep] at nearest
  rw [place]
  refine ⟨_, nearest, ?_⟩
  have units : (shiftToTargetExponent .binary64 mantissa exponent accuracy).1 =
      ExtendedMantissa.ofMantissaAndAccuracy mantissa accuracy >>>
        (lastPlace mantissa exponent - exponent).toNat := by
    rw [← targetExponent_eq]
    rfl
  have stand := standFor_rounded .positive deep accuracy
  rw [units] at stand
  rcases stand.cases with ⟨-, value⟩ | ⟨infinite, -⟩
  · exact value
  · rw [IsFinite, Float.isFinite, Float.Model.isFinite, infinite] at finite
    cases finite

/-- A greater result is not rounded to a smaller number. -/
theorem IsNearestNumber.mono (rounded : IsNearestNumber number x) (also : IsNearestNumber more y)
    (positive : 0 < number) (ordered : number ≤ more) (finite : IsFinite x)
    (finiteToo : IsFinite y) : exactValue x ≤ exactValue y := by
  obtain ⟨units, near, value⟩ := rounded finite
  obtain ⟨unitsToo, nearToo, valueToo⟩ := also finiteToo
  rw [value, valueToo]
  rcases (placeOf_mono positive ordered).eq_or_lt with same | higher
  · rw [← same] at nearToo ⊢
    have order := near.mono nearToo (div_le_div_of_nonneg_right ordered (by positivity))
    exact mul_le_mul_of_nonneg_right (by exact_mod_cast order) (by positivity)
  · have few : units ≤ 2 ^ 53 := by
      refine near.mono (isNearest_intCast (2 ^ 53)) ?_
      rw [div_le_iff₀ (by positivity)]
      refine (lt_pow_placeOf number).le.trans (le_of_eq ?_)
      rw [zpow_add₀ two_ne_zero]
      norm_num
    have many : 2 ^ 52 ≤ unitsToo := by
      refine (isNearest_intCast (2 ^ 52)).mono nearToo ?_
      have normal : -1074 < placeOf more := (le_max_right _ _).trans_lt higher
      rw [le_div_iff₀ (by positivity)]
      refine le_trans (le_of_eq ?_) (pow_placeOf_le (positive.trans_le ordered) normal)
      rw [zpow_add₀ two_ne_zero]
      norm_num
    have few : (units : ℚ) ≤ 2 ^ 53 := by exact_mod_cast few
    have many : (2 : ℚ) ^ 52 ≤ unitsToo := by exact_mod_cast many
    calc (units : ℚ) * 2 ^ placeOf number ≤ 2 ^ 53 * 2 ^ placeOf number :=
          mul_le_mul_of_nonneg_right few (by positivity)
      _ = 2 ^ 52 * 2 ^ (placeOf number + 1) := by
          rw [zpow_add_one₀ two_ne_zero]
          ring
      _ ≤ 2 ^ 52 * 2 ^ placeOf more :=
          mul_le_mul_of_nonneg_left (zpow_le_zpow_right₀ one_le_two higher) (by positivity)
      _ ≤ unitsToo * 2 ^ placeOf more := mul_le_mul_of_nonneg_right many (by positivity)

/-- A multiple of a place that is not lost is not changed by rounding. -/
theorem IsNearestNumber.exact {multiple place : ℤ}
    (rounded : IsNearestNumber (multiple * 2 ^ place) x)
    (held : placeOf (multiple * 2 ^ place) ≤ place) (finite : IsFinite x) :
    exactValue x = multiple * 2 ^ place := by
  obtain ⟨units, near, value⟩ := rounded finite
  obtain ⟨count, whole⟩ := Int.le.dest held
  have shifted : ((multiple : ℚ) * 2 ^ place) / 2 ^ placeOf (multiple * 2 ^ place) =
      ((multiple * 2 ^ count : ℤ) : ℚ) := by
    rw [div_eq_iff (by positivity)]
    push_cast
    rw [mul_assoc, ← zpow_natCast, ← zpow_add₀ two_ne_zero, add_comm, whole]
  have same : units = multiple * 2 ^ count :=
    near.unique (shifted ▸ isNearest_intCast (multiple * 2 ^ count))
  rw [value, same, ← shifted, div_mul_cancel₀ _ (by positivity)]

end Places

end GantryCode.Binary64
