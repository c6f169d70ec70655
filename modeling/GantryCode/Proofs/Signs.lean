import GantryCode.Proofs.Rounding

namespace GantryCode.Binary64

/-! Signs of floating-point numbers.

To change the sign of a number, or to leave it out, changes nothing else in it: its parts are
those of the number it was made of, with another sign.
-/

open Decimal (IsFinite signedValue)
open Float.Model (Format UnpackedFloat)
open Float.Model.UnpackedFloat (Sign)

variable {x : Float}

section Parts

variable {sign : Sign} {mantissa : ℕ} {exponent : ℤ} {positive : 0 < mantissa}

theorem unpack_fits (parts : x.toModel.unpack = .finite sign mantissa exponent positive) :
    exponent ≤ 971 := by
  by_contra large
  have packed : (Float.ofModel (.pack (.finite sign mantissa exponent positive))).toModel.unpack =
      .infinity sign := unpack_pack_large sign (by omega)
  rw [← parts, pack_unpack, parts] at packed
  cases packed

/-- The parts of a number make another number with either sign. -/
theorem unpack_resigned (parts : x.toModel.unpack = .finite sign mantissa exponent positive)
    (other : Sign) :
    (Float.ofModel (.pack (.finite other mantissa exponent positive))).toModel.unpack =
      .finite other mantissa exponent positive :=
  unpack_pack other (isCanonical_of_unpack parts) (unpack_fits parts)

end Parts

theorem unpack_neg (x : Float) : (-x).toModel.unpack = x.toModel.unpack.neg := by
  change (Float.ofModel (.pack x.toModel.unpack.neg)).toModel.unpack = _
  cases parts : x.toModel.unpack with
  | notANumber => rfl
  | infinity sign => cases sign <;> rfl
  | zero sign => cases sign <;> rfl
  | finite sign mantissa exponent positive => exact unpack_resigned parts (-sign)

theorem unpack_abs (x : Float) : x.abs.toModel.unpack = x.toModel.unpack.abs := by
  change (Float.ofModel (.pack x.toModel.unpack.abs)).toModel.unpack = _
  cases parts : x.toModel.unpack with
  | notANumber => rfl
  | infinity sign => cases sign <;> rfl
  | zero sign => cases sign <;> rfl
  | finite sign mantissa exponent positive => exact unpack_resigned parts .positive

theorem isFinite_abs (finite : IsFinite x) : IsFinite x.abs := by
  rw [IsFinite, Float.isFinite, Float.Model.isFinite, unpack_abs]
  rcases finite_cases finite with ⟨sign, parts⟩ | ⟨sign, mantissa, exponent, positive, parts⟩ <;>
    rw [parts] <;> rfl

theorem exactValue_abs (x : Float) : exactValue x.abs = |exactValue x| := by
  rw [exactValue, exactValue, unpack_abs]
  cases x.toModel.unpack with
  | notANumber => exact abs_zero.symm
  | infinity sign => exact abs_zero.symm
  | zero sign => exact abs_zero.symm
  | finite sign mantissa exponent positive =>
      have size : (0 : ℚ) ≤ mantissa * 2 ^ exponent := by positivity
      cases sign with
      | positive => exact (abs_of_nonneg size).symm
      | negative => exact ((abs_neg _).trans (abs_of_nonneg size)).symm

end GantryCode.Binary64
