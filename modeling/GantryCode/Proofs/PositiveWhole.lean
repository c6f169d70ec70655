import GantryCode.Proofs.DecimalText
import GantryCode.Proofs.SignedZero

namespace GantryCode

/-! Numbers that round to a positive whole number.

To no decimal places, all up to one half rounds to zero: the half itself goes to the even
neighbour. One half is a floating-point number of its own, so comparison with it decides.
-/

open Float.Model (Format UnpackedFloat)

namespace Binary64

theorem lt_iff (x y : Float) : x < y ↔ x.toModel.unpack.lt y.toModel.unpack = true := by
  change Float.lt x y = true ↔ _
  rw [Float.lt, decide_eq_true_iff]
  exact Iff.rfl

variable {x : Float} {sign : UnpackedFloat.Sign} {mantissa : Nat} {exponent : Int}
  {positive : 0 < mantissa}

/-- A mantissa has at most fifty-three bits, and fewer only next to zero. -/
theorem unpack_canonical (same : x.toModel.unpack = .finite sign mantissa exponent positive) :
    mantissa < 2 ^ 53 ∧ (-1074 < exponent → 2 ^ 52 ≤ mantissa) := by
  rw [Float.Model.unpack, UnpackedFloat.unpack] at same
  dsimp only at same
  have short := (@UnpackedFloat.unpackMantissa Format.binary64 x.toModel.toBits.toBitVec).isLt
  split at same
  · split at same <;> cases same
  · split at same
    · next small =>
        split at same
        · cases same
        · rw [small] at same
          cases same
          exact ⟨Nat.lt_trans short (by decide), fun above => absurd above (by decide)⟩
    · cases same
      have long := toNat_implicit (@UnpackedFloat.unpackMantissa Format.binary64
        x.toModel.toBits.toBitVec)
      exact ⟨long.trans_lt (Nat.add_lt_add_left short (2 ^ 52)),
        fun _ => long.symm ▸ Nat.le_add_right (2 ^ 52) _⟩

theorem unpack_half :
    (0.5 : Float).toModel.unpack = .finite .positive (2 ^ 52) (-53) (by decide) :=
  rfl

/-- What is above one half has a greater exponent, or the same and a greater mantissa. -/
theorem half_lt_iff (same : x.toModel.unpack = .finite .positive mantissa exponent positive) :
    0.5 < x ↔ -53 < exponent ∨ exponent = -53 ∧ 2 ^ 52 < mantissa := by
  have compared : (0.5 < x) ↔
      ((compare (-53) exponent).then (compare (2 ^ 52) mantissa) = .lt) := by
    rw [lt_iff, unpack_half, same, UnpackedFloat.lt, UnpackedFloat.compare]
    simp
  rw [compared, Ordering.then_eq_lt, Int.compare_eq_lt, Int.compare_eq_eq, Nat.compare_eq_lt,
    eq_comm]

end Binary64

namespace Decimal

open Binary64

theorem roundQuotient_pos_iff (numerator : Nat) {denominator : Nat} (divides : 0 < denominator) :
    0 < roundQuotient numerator denominator ↔ denominator < 2 * numerator := by
  rcases Nat.lt_or_ge numerator denominator with below | above
  · have floor : numerator / denominator = 0 := Nat.div_eq_of_lt below
    have rest : numerator % denominator = numerator := Nat.mod_eq_of_lt below
    simp only [roundQuotient, floor, rest]
    split <;> try split
    all_goals simp
    all_goals omega
  · have floor : 0 < numerator / denominator := Nat.div_pos above divides
    have least : numerator / denominator ≤ roundQuotient numerator denominator := by
      simp only [roundQuotient]
      split <;> try split <;> try split
      all_goals omega
    exact iff_of_true (floor.trans_le least) (by omega)

variable {mantissa : Nat} {exponent : Int}

theorem unitsAt_pos_iff (bits : mantissa < 2 ^ 53)
    (canonical : -1074 < exponent → 2 ^ 52 ≤ mantissa) (positive : 0 < mantissa) :
    0 < unitsAt 0 mantissa exponent ↔ -53 < exponent ∨ exponent = -53 ∧ 2 ^ 52 < mantissa := by
  cases exponent with
  | ofNat shift =>
      have above : (-53 : Int) < Int.ofNat shift := Int.lt_of_lt_of_le (by decide)
        (Int.natCast_nonneg shift)
      refine iff_of_true ?_ (.inl above)
      simp [unitsAt, positive]
  | negSucc shift =>
      have quotient : 0 < unitsAt 0 mantissa (.negSucc shift) ↔ 2 ^ shift < mantissa := by
        change 0 < roundQuotient (mantissa * 1) (2 ^ (shift + 1)) ↔ _
        rw [roundQuotient_pos_iff _ (Nat.pow_pos (by decide))]
        omega
      rw [quotient]
      rcases Nat.lt_trichotomy shift 52 with near | rfl | far
      · have small : 2 ^ shift < 2 ^ 52 := Nat.pow_lt_pow_right (by decide) near
        have large := canonical (by omega)
        exact iff_of_true (by omega) (.inl (by omega))
      · omega
      · have large : 2 ^ 53 ≤ 2 ^ shift := Nat.pow_le_pow_right (by decide) far
        exact iff_of_false (by omega) (by omega)

/-- The digits of a whole number above zero. -/
def IsPositiveWhole (text : List Char) : Prop :=
  ∃ number, 0 < number ∧ text = Text.decimalDigits number

theorem isPositiveWhole_decimalDigits (number : Nat) :
    IsPositiveWhole (Text.decimalDigits number) ↔ 0 < number := by
  refine ⟨fun ⟨other, above, same⟩ => Nat.pos_of_ne_zero ?_, fun above => ⟨number, above, rfl⟩⟩
  rintro rfl
  have zero : other = 0 := decimalDigits_head (by rw [← same]; rfl)
  omega

theorem withPoint_zero (units : Nat) : withPoint 0 units = Text.decimalDigits units := by
  have filled : 1 - (Text.decimalDigits units).length = 0 := by
    have nonempty := List.length_pos_iff.mpr (decimalDigits_isDigits units).1
    omega
  simp [withPoint, filled]

theorem not_isPositiveWhole {text : List Char} {c : Char} (member : c ∈ text)
    (other : c.isDigit = false) : ¬IsPositiveWhole text := by
  rintro ⟨number, -, rfl⟩
  cases other.symm.trans ((decimalDigits_isDigits number).2 c member)

/-- The sign in front of a number stays, but for a zero, where nothing is left. -/
theorem shortened_isPositiveWhole (sign : UnpackedFloat.Sign) (units : Nat) :
    IsPositiveWhole (shortened (signChars sign ++ withPoint 0 units)) ↔
      sign = .positive ∧ 0 < units := by
  rw [withPoint_zero, shortened_of_unpointed (not_point_signed sign (decimalDigits_isDigits units))]
  cases sign with
  | positive =>
      have kept : ¬Text.decimalDigits units = ['-', '0'] := fun same => by
        cases (decimalDigits_isDigits units).2 '-' (by rw [same]; simp)
      simp [signChars, kept, isPositiveWhole_decimalDigits]
  | negative =>
      refine iff_of_false ?_ (by simp)
      split
      · exact fun whole => absurd ((isPositiveWhole_decimalDigits 0).mp whole) (by decide)
      · exact not_isPositiveWhole (List.mem_cons_self ..) (by decide)

/-- A number is written as a positive whole number if and only if it is finite and above one
half. -/
theorem rounded_isPositiveWhole_iff (x : Float) :
    IsPositiveWhole (rounded 0 x).toList ↔ IsFinite x ∧ 0.5 < x := by
  rw [rounded, String.toList_ofList, Nat.zero_min, IsFinite, Float.isFinite, Float.Model.isFinite,
    fixedChars]
  cases same : x.toModel.unpack with
  | notANumber =>
      have letter : 'n' ∈ shortened ['n', 'a', 'n'] := by decide
      refine iff_of_false (not_isPositiveWhole letter (by decide)) ?_
      rintro ⟨⟨⟩, -⟩
  | infinity sign =>
      have letter : 'n' ∈ shortened (signChars sign ++ ['i', 'n', 'f']) := by
        cases sign <;> decide
      refine iff_of_false (not_isPositiveWhole letter (by decide)) ?_
      rintro ⟨⟨⟩, -⟩
  | zero sign =>
      refine (shortened_isPositiveWhole sign 0).trans (iff_of_false (by simp) ?_)
      rintro ⟨-, above⟩
      rw [lt_iff, same] at above
      cases sign <;> cases above
  | finite sign mantissa exponent positive =>
      obtain ⟨bits, canonical⟩ := unpack_canonical same
      refine (shortened_isPositiveWhole sign _).trans ?_
      rw [unitsAt_pos_iff bits canonical positive]
      cases sign with
      | positive => simp [half_lt_iff same, UnpackedFloat.isFinite]
      | negative =>
          refine iff_of_false (by simp) ?_
          rintro ⟨-, above⟩
          rw [lt_iff, same] at above
          cases above

end Decimal

end GantryCode
