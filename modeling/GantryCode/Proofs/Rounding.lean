import GantryCode.Proofs.Comparison

namespace GantryCode.Binary64

/-! Rounding of results.

An operation has an exact result, of which the bits are dropped that a number has no room for.
What is left is unpacked as it was packed, unless it is too large for a number. Rounding goes
beyond no power of two, from below or from above.
-/

open Decimal (IsFinite signedValue)
open Float.Model (Format UnpackedFloat totalExponent)
open Float.Model.UnpackedFloat (Accuracy ExtendedMantissa Sign packComponents unpackMantissa
  unpackExponent unpackSign roundWithAccuracy shiftToTargetExponent)

section Packing

variable {sign : Sign} {mantissa : ℕ} {exponent : ℤ} {positive : 0 < mantissa} {x : Float}

theorem ofBitVec_toBitVec (sign : Sign) : Sign.ofBitVec sign.toBitVec = sign := by
  cases sign <;> rfl

theorem unpackSign_packComponents (sign : Sign) (exponent : BitVec 11) (mantissa : BitVec 52) :
    unpackSign (packComponents .binary64 sign exponent mantissa) = sign.toBitVec := by
  ext i inside
  obtain rfl : i = 0 := by omega
  simp only [unpackSign, packComponents, BitVec.extractLsb]
  grind

theorem toNat_packable (short : mantissa < 2 ^ 52) :
    (BitVec.ofNat 52 mantissa).toNat = mantissa := by
  rw [BitVec.toNat_ofNat, Nat.mod_eq_of_lt short]

/-- The fields of a number with all its digits. -/
theorem pack_full (sign : Sign) {rest biased : ℕ} (short : rest < 2 ^ 52) (finite : biased < 2047)
    (positive : 0 < 2 ^ 52 + rest) :
    UnpackedFloat.pack .binary64 (.finite sign (2 ^ 52 + rest) ((biased : ℤ) - 1075) positive) =
      packComponents .binary64 sign (BitVec.ofNat 11 biased) (BitVec.ofNat 52 rest) := by
  have same := toNat_packable short
  have whole : (1#1 ++ BitVec.ofNat 52 rest).toNat = 2 ^ 52 + rest := by
    rw [toNat_implicit, same]
  have field : (BitVec.ofNat 11 biased).toNat = biased := by
    rw [BitVec.toNat_ofNat, Nat.mod_eq_of_lt (by omega)]
  have below : BitVec.ofNat 11 biased ≠ -1#11 := by
    intro none
    have value : biased = 2047 := field.symm.trans (congrArg BitVec.toNat none)
    omega
  have packed := pack_normal sign below (BitVec.ofNat 52 rest) (by rw [whole]; exact positive)
  simp only [whole, field] at packed
  exact packed

/-- What is packed is unpacked again. -/
theorem unpack_pack_short (sign : Sign) (short : mantissa < 2 ^ 52) :
    UnpackedFloat.unpack .binary64
        (UnpackedFloat.pack .binary64 (.finite sign mantissa (-1074) positive)) =
      .finite sign mantissa (-1074) positive := by
  have same := toNat_packable short
  have packed := pack_subnormal sign (by rw [same]; exact positive)
  have filled : BitVec.ofNat 52 mantissa ≠ 0#52 := by
    intro none
    rw [none] at same
    exact positive.ne same
  simp only [same] at packed
  rw [packed, UnpackedFloat.unpack]
  simp only [UnpackedFloat.unpackExponent_packComponents,
    UnpackedFloat.unpackMantissa_packComponents, unpackSign_packComponents, ofBitVec_toBitVec,
    filled, same]
  rfl

theorem unpack_pack_full (sign : Sign) {rest biased : ℕ} {positive : 0 < 2 ^ 52 + rest}
    (short : rest < 2 ^ 52) (stored : 0 < biased) (fits : biased < 2047) :
    UnpackedFloat.unpack .binary64
        (UnpackedFloat.pack .binary64 (.finite sign (2 ^ 52 + rest) (biased - 1075) positive)) =
      .finite sign (2 ^ 52 + rest) (biased - 1075) positive := by
  have same : (BitVec.ofNat 52 rest).toNat = rest := toNat_packable short
  have field : (BitVec.ofNat 11 biased).toNat = biased := by
    rw [BitVec.toNat_ofNat, Nat.mod_eq_of_lt (by omega)]
  have finite : BitVec.ofNat 11 biased ≠ -1#11 := by
    intro none
    have value : biased = 2047 := field.symm.trans (congrArg BitVec.toNat none)
    omega
  have normal : BitVec.ofNat 11 biased ≠ 0#11 := by
    intro none
    have value : biased = 0 := field.symm.trans (congrArg BitVec.toNat none)
    omega
  rw [pack_full sign (by omega) (by omega), UnpackedFloat.unpack]
  simp only [UnpackedFloat.unpackExponent_packComponents,
    UnpackedFloat.unpackMantissa_packComponents, unpackSign_packComponents, ofBitVec_toBitVec,
    finite, normal, if_false, toNat_implicit, same, field]
  rfl

theorem unpack_pack (sign : Sign) (canonical : IsCanonical mantissa exponent)
    (fits : exponent ≤ 971) :
    (Float.ofModel (.pack (.finite sign mantissa exponent positive))).toModel.unpack =
      .finite sign mantissa exponent positive := by
  change UnpackedFloat.unpack .binary64 (UnpackedFloat.pack .binary64 _) = _
  obtain ⟨bits, least, full⟩ := canonical
  by_cases short : mantissa < 2 ^ 52
  · obtain rfl : exponent = -1074 := by omega
    exact unpack_pack_short sign short
  · obtain ⟨rest, rfl⟩ := Nat.exists_eq_add_of_le (Nat.le_of_not_lt short)
    obtain ⟨biased, stored⟩ : ∃ biased : ℕ, exponent = biased - 1075 :=
      ⟨(exponent + 1075).toNat, by omega⟩
    subst stored
    exact unpack_pack_full sign (by omega) (by omega) (by omega)

/-- What is too large for a number is packed as infinite. -/
theorem unpack_pack_large (sign : Sign) (large : 971 < exponent) :
    (Float.ofModel (.pack (.finite sign mantissa exponent positive))).toModel.unpack =
      .infinity sign := by
  change UnpackedFloat.unpack .binary64 (UnpackedFloat.pack .binary64 _) = _
  have beyond : 2 ^ Format.binary64.exponentBits ≤ (exponent + Format.binary64.exponentBias +
      Format.binary64.mantissaBitsWithoutImplicit).toNat + 1 := by
    change 2 ^ 11 ≤ (exponent + 1023 + 52).toNat + 1
    omega
  rw [UnpackedFloat.pack, if_pos beyond]
  cases sign <;> rfl

end Packing

section Dropping

variable {sign : Sign} {mantissa : ℕ} {exponent : ℤ}

theorem mantissa_shiftRight (extended : ExtendedMantissa) (count : ℕ) :
    (extended >>> count).mantissa = extended.mantissa / 2 ^ count := by
  induction count with
  | zero => exact (Nat.div_one _).symm
  | succ count ih =>
      change (extended >>> count).mantissa / 2 = _
      rw [ih, Nat.div_div_eq_div_mul, Nat.pow_succ]

theorem roundedMantissa_bounds (extended : ExtendedMantissa) :
    extended.mantissa ≤ extended.roundedMantissa ∧
      extended.roundedMantissa ≤ extended.mantissa + 1 := by
  obtain ⟨mantissa, half, rest⟩ := extended
  cases half <;> cases rest <;>
    simp [ExtendedMantissa.roundedMantissa, ExtendedMantissa.accuracy,
      Accuracy.roundToNearestEven]
  omega

/-- The last place of a result: fifty-two behind its first digit, but none that a number does
not have. -/
def lastPlace (mantissa : ℕ) (exponent : ℤ) : ℤ :=
  max (mantissa.log2 + exponent - 52) (-1074)

theorem targetExponent_eq (mantissa : ℕ) (exponent : ℤ) :
    Format.binary64.targetExponent (totalExponent mantissa exponent) =
      lastPlace mantissa exponent := by
  change max ((mantissa.log2 : ℤ) + 1 + exponent - 53) (-1074) = _
  rw [lastPlace]
  omega

theorem mantissa_shiftToTargetExponent (mantissa : ℕ) (exponent : ℤ) (accuracy : Accuracy) :
    (shiftToTargetExponent .binary64 mantissa exponent accuracy).1.mantissa =
      mantissa / 2 ^ (lastPlace mantissa exponent - exponent).toNat := by
  rw [← targetExponent_eq]
  refine (mantissa_shiftRight _ _).trans ?_
  cases accuracy with
  | exact => rfl
  | inexact order => cases order <;> rfl

theorem exponent_shiftToTargetExponent (deep : exponent ≤ lastPlace mantissa exponent)
    (accuracy : Accuracy) :
    (shiftToTargetExponent .binary64 mantissa exponent accuracy).2 =
      lastPlace mantissa exponent := by
  change exponent + ((Format.binary64.targetExponent (totalExponent mantissa exponent) -
    exponent).toNat : ℤ) = _
  rw [targetExponent_eq]
  omega

/-- The parts are those of a number, if they are not too large for one. -/
def StandFor (parts : UnpackedFloat) (sign : Sign) (number : ℚ) : Prop :=
  number = 0 ∧ parts = .zero sign ∨
    ∃ mantissa exponent positive, parts = .finite sign mantissa exponent positive ∧
      IsCanonical mantissa exponent ∧ (mantissa : ℚ) * 2 ^ exponent = number

theorem quotient_lt (mantissa : ℕ) (exponent : ℤ) :
    mantissa / 2 ^ (lastPlace mantissa exponent - exponent).toNat < 2 ^ 53 := by
  have shift : mantissa.log2 + 1 ≤ 53 + (lastPlace mantissa exponent - exponent).toNat := by
    rw [lastPlace]
    omega
  rw [Nat.div_lt_iff_lt_mul (by positivity), ← pow_add]
  exact Nat.lt_log2_self.trans_le (Nat.pow_le_pow_right (by decide) shift)

theorem le_quotient (deep : exponent ≤ lastPlace mantissa exponent)
    (normal : -1074 < lastPlace mantissa exponent) :
    2 ^ 52 ≤ mantissa / 2 ^ (lastPlace mantissa exponent - exponent).toNat := by
  have place : lastPlace mantissa exponent = mantissa.log2 + exponent - 52 := by
    rw [lastPlace] at normal ⊢
    omega
  have nonzero : mantissa ≠ 0 := by
    rintro rfl
    rw [Nat.log2_zero] at place
    omega
  have shift : mantissa.log2 = 52 + (lastPlace mantissa exponent - exponent).toNat := by omega
  rw [Nat.le_div_iff_mul_le (by positivity), ← pow_add, ← shift]
  exact Nat.log2_self_le nonzero

/-- A carry to one digit too many is shifted by one place. -/
theorem shift_of_carry {place : ℤ} (least : -1074 ≤ place) :
    let final := shiftToTargetExponent .binary64 (2 ^ 53) place .exact
    final.1.mantissa = 2 ^ 52 ∧ final.2 = place + 1 := by
  intro final
  have target : lastPlace (2 ^ 53) place = place + 1 := by
    rw [lastPlace, Nat.log2_two_pow]
    omega
  constructor
  · rw [mantissa_shiftToTargetExponent, target, add_sub_cancel_left]
    rfl
  · rw [exponent_shiftToTargetExponent (by omega), target]

/-- No more digits than there are places for are not shifted. -/
theorem shift_of_few {units : ℕ} {place : ℤ} (least : -1074 ≤ place) (few : units < 2 ^ 53) :
    let final := shiftToTargetExponent .binary64 units place .exact
    final.1.mantissa = units ∧ final.2 = place := by
  intro final
  have short : units.log2 ≤ 52 := by
    by_cases none : units = 0
    · simp [none]
    · exact Nat.le_of_lt_succ ((Nat.log2_lt none).mpr few)
  have shift : (lastPlace units place - place).toNat = 0 := by
    rw [lastPlace]
    omega
  constructor
  · rw [mantissa_shiftToTargetExponent, shift, pow_zero, Nat.div_one]
  · change place +
      ((Format.binary64.targetExponent (totalExponent units place) - place).toNat : ℤ) = _
    rw [targetExponent_eq, shift]
    exact add_zero place

/-- What has been rounded is not rounded again: at most one more digit is dropped, which is a
zero. -/
theorem standFor_carried (sign : Sign) (units : ℕ) {place : ℤ} (least : -1074 ≤ place)
    (few : units ≤ 2 ^ 53) (normal : -1074 < place → 2 ^ 52 ≤ units) :
    let final := shiftToTargetExponent .binary64 units place .exact
    StandFor (if zero : final.1.mantissa = 0 then .zero sign
      else .finite sign final.1.mantissa final.2 (Nat.pos_of_ne_zero zero)) sign
        (units * 2 ^ place) := by
  intro final
  rcases few.eq_or_lt with rfl | short
  · obtain ⟨mantissa, exponent⟩ := shift_of_carry least
    rw [dif_neg (by rw [mantissa]; decide)]
    refine .inr ⟨_, _, _, rfl, ?_, ?_⟩
    · rw [mantissa, exponent]
      exact ⟨by decide, by omega, fun _ => le_rfl⟩
    · rw [mantissa, exponent, zpow_add_one₀ two_ne_zero]
      push_cast
      ring
  · obtain ⟨mantissa, exponent⟩ := shift_of_few least short
    by_cases none : units = 0
    · rw [dif_pos (mantissa.trans none)]
      exact .inl ⟨by rw [none]; simp, rfl⟩
    · rw [dif_neg (by rwa [mantissa])]
      refine .inr ⟨_, _, _, rfl, ?_, ?_⟩
      · rw [mantissa, exponent]
        exact ⟨by omega, least, normal⟩
      · rw [mantissa, exponent]

/-- The result is a count of units of the last place. -/
theorem standFor_rounded (sign : Sign) (deep : exponent ≤ lastPlace mantissa exponent)
    (accuracy : Accuracy) :
    StandFor (roundWithAccuracy .binary64 sign mantissa exponent accuracy) sign
      ((shiftToTargetExponent .binary64 mantissa exponent accuracy).1.roundedMantissa *
        2 ^ lastPlace mantissa exponent) := by
  let first := shiftToTargetExponent .binary64 mantissa exponent accuracy
  have least : -1074 ≤ lastPlace mantissa exponent := le_max_right _ _
  obtain ⟨atLeast, atMost⟩ := roundedMantissa_bounds first.1
  rw [mantissa_shiftToTargetExponent] at atLeast atMost
  have few := quotient_lt mantissa exponent
  have carried := standFor_carried sign first.1.roundedMantissa least (by omega)
    fun normal => (le_quotient deep normal).trans atLeast
  rw [← exponent_shiftToTargetExponent deep accuracy] at carried ⊢
  exact carried

/-- The units are those of the digits that are kept, or one more. -/
theorem standFor_roundWithAccuracy (sign : Sign) (deep : exponent ≤ lastPlace mantissa exponent)
    (accuracy : Accuracy) : ∃ units : ℕ,
      mantissa / 2 ^ (lastPlace mantissa exponent - exponent).toNat ≤ units ∧
      units ≤ mantissa / 2 ^ (lastPlace mantissa exponent - exponent).toNat + 1 ∧
      StandFor (roundWithAccuracy .binary64 sign mantissa exponent accuracy) sign
        (units * 2 ^ lastPlace mantissa exponent) := by
  obtain ⟨atLeast, atMost⟩ :=
    roundedMantissa_bounds (shiftToTargetExponent .binary64 mantissa exponent accuracy).1
  rw [mantissa_shiftToTargetExponent] at atLeast atMost
  exact ⟨_, atLeast, atMost, standFor_rounded sign deep accuracy⟩

end Dropping

section Results

variable {mantissa : ℕ} {exponent : ℤ} {parts : UnpackedFloat} {number : ℚ} {x : Float}

/-- The number is rounded from another that is not negative, beyond no power of two. -/
structure IsRounded (number : ℚ) (x : Float) : Prop where
  isNumber : x.isNaN = false
  below : ∀ place : ℤ, -1074 ≤ place → place ≤ 1023 → number < 2 ^ place →
    IsFinite x ∧ 0 ≤ exactValue x ∧ exactValue x ≤ 2 ^ place
  above : ∀ place : ℤ, -1074 ≤ place → IsFinite x → 2 ^ place ≤ number → 2 ^ place ≤ exactValue x

theorem StandFor.cases (stand : StandFor parts .positive number) :
    IsFinite (.ofModel (.pack parts)) ∧ exactValue (.ofModel (.pack parts)) = number ∨
      (.ofModel (.pack parts) : Float).toModel.unpack = .infinity .positive ∧
        2 ^ 1024 ≤ number := by
  rcases stand with ⟨rfl, rfl⟩ | ⟨mantissa, exponent, positive, rfl, canonical, rfl⟩
  · exact .inl ⟨rfl, rfl⟩
  · by_cases fits : exponent ≤ 971
    · have same :
        (Float.ofModel (.pack (.finite .positive mantissa exponent positive))).toModel.unpack =
          .finite .positive mantissa exponent positive := unpack_pack .positive canonical fits
      refine .inl ⟨?_, ?_⟩
      · rw [IsFinite, Float.isFinite, Float.Model.isFinite, same]
        rfl
      · rw [exactValue, same]
        rfl
    · refine .inr ⟨unpack_pack_large .positive (by omega), ?_⟩
      have full : (2 : ℚ) ^ 52 ≤ mantissa := by
        exact_mod_cast canonical.full (by omega)
      calc (2 : ℚ) ^ 1024 = 2 ^ 52 * (2 : ℚ) ^ (972 : ℤ) := by
            rw [zpow_ofNat, ← pow_add]
        _ ≤ (mantissa : ℚ) * 2 ^ exponent :=
          mul_le_mul full (zpow_le_zpow_right₀ one_le_two (by omega)) (by positivity)
            (by positivity)

theorem unit_eq (deep : exponent ≤ lastPlace mantissa exponent) :
    (2 : ℚ) ^ lastPlace mantissa exponent =
      2 ^ (lastPlace mantissa exponent - exponent).toNat * 2 ^ exponent := by
  rw [← zpow_natCast, ← zpow_add₀ two_ne_zero, Int.toNat_of_nonneg (by omega), sub_add_cancel]

/-- No power of two that is above the exact result is below the last place. -/
theorem lastPlace_le {place : ℤ} (deep : exponent ≤ lastPlace mantissa exponent)
    (least : -1074 ≤ place) (below : (mantissa : ℚ) * 2 ^ exponent < 2 ^ place) :
    lastPlace mantissa exponent ≤ place := by
  by_cases none : mantissa = 0
  · subst none
    rw [lastPlace, Nat.log2_zero] at deep ⊢
    omega
  · have digits : (2 : ℚ) ^ mantissa.log2 ≤ mantissa := by
      exact_mod_cast Nat.log2_self_le none
    have first : (2 : ℚ) ^ (mantissa.log2 + exponent) < 2 ^ place := by
      rw [zpow_add₀ two_ne_zero, zpow_natCast]
      exact (mul_le_mul_of_nonneg_right digits (by positivity)).trans_lt below
    have less := (zpow_lt_zpow_iff_right₀ one_lt_two).mp first
    rw [lastPlace]
    omega

theorem units_le_pow {units : ℕ} {place : ℤ} (deep : exponent ≤ lastPlace mantissa exponent)
    (least : -1074 ≤ place) (below : (mantissa : ℚ) * 2 ^ exponent < 2 ^ place)
    (atMost : units ≤ mantissa / 2 ^ (lastPlace mantissa exponent - exponent).toNat + 1) :
    (units : ℚ) * 2 ^ lastPlace mantissa exponent ≤ 2 ^ place := by
  obtain ⟨count, whole⟩ := Int.le.dest (lastPlace_le deep least below)
  have quotient : mantissa / 2 ^ (lastPlace mantissa exponent - exponent).toNat < 2 ^ count := by
    rw [Nat.div_lt_iff_lt_mul (by positivity)]
    have scaled : (mantissa : ℚ) * 2 ^ exponent <
        2 ^ count * 2 ^ (lastPlace mantissa exponent - exponent).toNat * 2 ^ exponent := by
      rw [mul_assoc, ← unit_eq deep, ← zpow_natCast, ← zpow_add₀ two_ne_zero, add_comm, whole]
      exact below
    exact_mod_cast lt_of_mul_lt_mul_right scaled (by positivity)
  have few : (units : ℚ) ≤ 2 ^ count := by
    exact_mod_cast atMost.trans quotient
  calc (units : ℚ) * 2 ^ lastPlace mantissa exponent
      ≤ 2 ^ count * 2 ^ lastPlace mantissa exponent :=
        mul_le_mul_of_nonneg_right few (by positivity)
    _ = 2 ^ place := by rw [← zpow_natCast, ← zpow_add₀ two_ne_zero, add_comm, whole]

theorem pow_le_units {units : ℕ} {place : ℤ} (deep : exponent ≤ lastPlace mantissa exponent)
    (least : -1074 ≤ place) (above : (2 : ℚ) ^ place < (mantissa + 1) * 2 ^ exponent)
    (atLeast : mantissa / 2 ^ (lastPlace mantissa exponent - exponent).toNat ≤ units) :
    2 ^ place ≤ (units : ℚ) * 2 ^ lastPlace mantissa exponent := by
  rcases lt_or_ge place (lastPlace mantissa exponent) with less | greater
  · have full := le_quotient deep (least.trans_lt less)
    have some : (1 : ℚ) ≤ units := by
      exact_mod_cast (by omega : 1 ≤ units)
    calc (2 : ℚ) ^ place ≤ 1 * 2 ^ lastPlace mantissa exponent := by
          rw [one_mul]
          exact zpow_le_zpow_right₀ one_le_two less.le
      _ ≤ units * 2 ^ lastPlace mantissa exponent :=
        mul_le_mul_of_nonneg_right some (by positivity)
  · obtain ⟨count, whole⟩ := Int.le.dest greater
    have quotient : 2 ^ count ≤ mantissa / 2 ^ (lastPlace mantissa exponent - exponent).toNat := by
      rw [Nat.le_div_iff_mul_le (by positivity)]
      have scaled : 2 ^ count * 2 ^ (lastPlace mantissa exponent - exponent).toNat *
          2 ^ exponent < ((mantissa : ℚ) + 1) * 2 ^ exponent := by
        rw [mul_assoc, ← unit_eq deep, ← zpow_natCast, ← zpow_add₀ two_ne_zero, add_comm, whole]
        exact above
      have less :
          2 ^ count * 2 ^ (lastPlace mantissa exponent - exponent).toNat < mantissa + 1 := by
        exact_mod_cast lt_of_mul_lt_mul_right scaled (by positivity)
      exact Nat.le_of_lt_succ less
    have many : (2 : ℚ) ^ count ≤ units := by
      exact_mod_cast quotient.trans atLeast
    calc (2 : ℚ) ^ place = 2 ^ count * 2 ^ lastPlace mantissa exponent := by
          rw [← zpow_natCast, ← zpow_add₀ two_ne_zero, add_comm, whole]
      _ ≤ units * 2 ^ lastPlace mantissa exponent :=
        mul_le_mul_of_nonneg_right many (by positivity)

/-- A result is rounded from the exact one, which has further digits if it is not exact. -/
theorem isRounded_roundWithAccuracy (deep : exponent ≤ lastPlace mantissa exponent)
    (accuracy : Accuracy) (atLeast : mantissa * 2 ^ exponent ≤ number)
    (below : number < (mantissa + 1) * 2 ^ exponent) :
    IsRounded number (.ofModel (.pack
      (roundWithAccuracy .binary64 .positive mantissa exponent accuracy))) := by
  obtain ⟨units, many, few, stand⟩ := standFor_roundWithAccuracy .positive deep accuracy
  refine ⟨?_, fun place least most less => ?_, fun place least finite greater => ?_⟩
  · rcases stand.cases with ⟨finite, -⟩ | ⟨infinite, -⟩
    · exact isNaN_of_isFinite finite
    · rw [Float.isNaN, Float.Model.isNaN, infinite]
      rfl
  · have small := units_le_pow deep least (atLeast.trans_lt less) few
    rcases stand.cases with ⟨finite, same⟩ | ⟨-, large⟩
    · rw [same]
      exact ⟨finite, by positivity, small⟩
    · have most : (2 : ℚ) ^ place < 2 ^ 1024 := by
        rw [← zpow_natCast]
        exact zpow_lt_zpow_right₀ one_lt_two (by omega)
      exact absurd (large.trans small) (not_le.mpr most)
  · rcases stand.cases with ⟨-, same⟩ | ⟨infinite, -⟩
    · rw [same]
      exact pow_le_units deep least (greater.trans_lt below) many
    · rw [IsFinite, Float.isFinite, Float.Model.isFinite, infinite] at finite
      cases finite

/-- What the accuracy of a mantissa tells about the part of a number behind it. -/
def Tells : Accuracy → ℚ → Prop
  | .exact, rest => rest = 0
  | .inexact .lt, rest => 0 < rest ∧ rest < 1 / 2
  | .inexact .eq, rest => rest = 1 / 2
  | .inexact .gt, rest => 1 / 2 < rest ∧ rest < 1

theorem Tells.bounds {accuracy : Accuracy} {rest : ℚ} (told : Tells accuracy rest) :
    0 ≤ rest ∧ rest < 1 := by
  cases accuracy with
  | exact =>
      cases told
      norm_num
  | inexact order =>
      cases order with
      | lt => exact ⟨told.1.le, told.2.trans (by norm_num)⟩
      | eq =>
          cases told
          norm_num
      | gt => exact ⟨le_trans (by norm_num) told.1.le, told.2⟩

theorem tells_fraction {rest whole : ℕ} (less : rest < whole) :
    Tells (UnpackedFloat.accuracyOfFraction rest whole) (rest / whole) := by
  have positive : (0 : ℚ) < whole := by exact_mod_cast Nat.zero_lt_of_lt less
  have below : (rest : ℚ) / whole < 1 := by
    rw [div_lt_one positive]
    exact_mod_cast less
  rw [UnpackedFloat.accuracyOfFraction]
  split
  · next none => simp [Tells, none]
  · next some =>
      have above : (0 : ℚ) < rest / whole := by positivity
      rcases Nat.lt_trichotomy (2 * rest) whole with short | half | long
      · rw [Nat.compare_eq_lt.mpr short]
        refine ⟨above, ?_⟩
        rw [div_lt_div_iff₀ positive two_pos]
        exact_mod_cast (by omega : rest * 2 < 1 * whole)
      · rw [Nat.compare_eq_eq.mpr half]
        change (rest : ℚ) / whole = 1 / 2
        rw [div_eq_div_iff positive.ne' two_ne_zero]
        exact_mod_cast (by omega : rest * 2 = 1 * whole)
      · rw [Nat.compare_eq_gt.mpr long]
        refine ⟨?_, below⟩
        rw [div_lt_div_iff₀ two_pos positive]
        exact_mod_cast (by omega : 1 * whole < rest * 2)

/-- The number has been rounded from the digits of this exact result. -/
def IsResult (number : ℚ) (x : Float) : Prop :=
  ∃ mantissa exponent accuracy, exponent ≤ lastPlace mantissa exponent ∧
    Tells accuracy (number / 2 ^ exponent - mantissa) ∧
    x = .ofModel (.pack (roundWithAccuracy .binary64 .positive mantissa exponent accuracy))

theorem isResult_exact (deep : exponent ≤ lastPlace mantissa exponent) :
    IsResult (mantissa * 2 ^ exponent) (.ofModel (.pack
      (roundWithAccuracy .binary64 .positive mantissa exponent .exact))) := by
  refine ⟨mantissa, exponent, .exact, deep, ?_, rfl⟩
  change (mantissa : ℚ) * 2 ^ exponent / 2 ^ exponent - mantissa = 0
  rw [mul_div_cancel_right₀ _ (by positivity), sub_self]

theorem IsResult.isRounded (result : IsResult number x) : IsRounded number x := by
  obtain ⟨mantissa, exponent, accuracy, deep, told, rfl⟩ := result
  obtain ⟨atLeast, below⟩ := told.bounds
  have scale : (0 : ℚ) < 2 ^ exponent := by positivity
  refine isRounded_roundWithAccuracy deep accuracy ?_ ?_
  · rw [← le_div_iff₀ scale]
    linarith
  · rw [← div_lt_iff₀ scale]
    linarith

end Results

section Operations

variable {mantissa : ℕ} {exponent : ℤ} {x y : Float}

theorem deep_of_long (long : 52 ≤ mantissa.log2 ∨ exponent ≤ -1074) :
    exponent ≤ lastPlace mantissa exponent := by
  rw [lastPlace]
  omega

theorem positive_parts (finite : IsFinite x) (above : 0 < exactValue x) :
    ∃ mantissa exponent positive, x.toModel.unpack = .finite .positive mantissa exponent positive ∧
      exactValue x = mantissa * 2 ^ exponent := by
  rw [exactValue] at above ⊢
  rcases finite_cases finite with ⟨sign, parts⟩ | ⟨sign, mantissa, exponent, positive, parts⟩
  · rw [parts] at above
    exact absurd above (lt_irrefl 0)
  · cases sign with
    | positive => exact ⟨mantissa, exponent, positive, parts, by rw [parts]; rfl⟩
    | negative =>
        rw [parts] at above
        have size : (0 : ℚ) ≤ mantissa * 2 ^ exponent := by positivity
        exact absurd above (not_lt.mpr (neg_nonpos.mpr size))

theorem log2_shiftLeft (positive : 0 < mantissa) (count : ℕ) :
    (mantissa <<< count).log2 = mantissa.log2 + count := by
  induction count with
  | zero => rfl
  | succ count ih =>
      have shifted : 0 < mantissa <<< count := Nat.shiftLeft_pos_iff.mpr positive
      rw [Nat.shiftLeft_succ, Nat.log2_two_mul shifted.ne', ih]
      rfl

theorem shiftLeft_value (mantissa count : ℕ) (exponent : ℤ) :
    ((mantissa <<< count : ℕ) : ℚ) * 2 ^ (exponent - count) = mantissa * 2 ^ exponent := by
  rw [Nat.shiftLeft_eq, zpow_sub₀ two_ne_zero, zpow_natCast]
  push_cast
  field_simp

/-- A number with few digits is brought to its last place first. -/
theorem isResult_round (positive : 0 < mantissa) (exponent : ℤ) :
    IsResult (mantissa * 2 ^ exponent)
      (.ofModel (.pack (UnpackedFloat.round .binary64 .positive mantissa exponent))) := by
  let shift := (exponent - lastPlace mantissa exponent).toNat
  have deep : exponent - shift ≤ lastPlace (mantissa <<< shift) (exponent - shift) := by
    refine deep_of_long ?_
    rw [log2_shiftLeft positive]
    have place := lastPlace.eq_1 mantissa exponent
    omega
  rw [← shiftLeft_value mantissa shift, UnpackedFloat.round, targetExponent_eq]
  exact isResult_exact deep

theorem isRounded_round (positive : 0 < mantissa) (exponent : ℤ) :
    IsRounded (mantissa * 2 ^ exponent)
      (.ofModel (.pack (UnpackedFloat.round .binary64 .positive mantissa exponent))) :=
  (isResult_round positive exponent).isRounded

theorem isResult_mul (finite : IsFinite x) (also : IsFinite y) (above : 0 < exactValue x)
    (aboveToo : 0 < exactValue y) : IsResult (exactValue x * exactValue y) (x * y) := by
  obtain ⟨mantissa, exponent, positive, parts, value⟩ := positive_parts finite above
  obtain ⟨other, power, nonzero, partsToo, valueToo⟩ := positive_parts also aboveToo
  have product : x * y = .ofModel (.pack (roundWithAccuracy .binary64 .positive
      (mantissa * other) (exponent + power) .exact)) := by
    change Float.ofModel (.pack (UnpackedFloat.mul .binary64 x.toModel.unpack
      y.toModel.unpack)) = _
    rw [parts, partsToo]
    rfl
  have number : exactValue x * exactValue y =
      (mantissa * other : ℕ) * 2 ^ (exponent + power) := by
    rw [value, valueToo, zpow_add₀ two_ne_zero]
    push_cast
    ring
  have first := isCanonical_of_unpack parts
  have second := isCanonical_of_unpack partsToo
  have long : 52 ≤ (mantissa * other).log2 ∨ exponent + power ≤ -1074 := by
    rw [Nat.le_log2 (Nat.mul_pos positive nonzero).ne']
    by_cases full : -1074 < exponent
    · exact .inl ((first.full full).trans (Nat.le_mul_of_pos_right mantissa nonzero))
    · by_cases fullToo : -1074 < power
      · exact .inl ((second.full fullToo).trans (Nat.le_mul_of_pos_left other positive))
      · exact .inr (by omega)
  rw [product, number]
  exact isResult_exact (deep_of_long long)

theorem isRounded_mul (finite : IsFinite x) (also : IsFinite y) (above : 0 < exactValue x)
    (aboveToo : 0 < exactValue y) : IsRounded (exactValue x * exactValue y) (x * y) :=
  (isResult_mul finite also above aboveToo).isRounded

/-- A numerator with fifty-three digits more than the denominator makes a full quotient. -/
theorem pow_le_quotient {mantissa other shift : ℕ} (positive : 0 < mantissa) (nonzero : 0 < other)
    (digits : 52 + (other.log2 + 1) ≤ mantissa.log2 + shift) :
    2 ^ 52 ≤ mantissa <<< shift / other := by
  rw [Nat.le_div_iff_mul_le nonzero]
  rw [← log2_shiftLeft positive] at digits
  calc 2 ^ 52 * other ≤ 2 ^ 52 * 2 ^ (other.log2 + 1) :=
        Nat.mul_le_mul_left _ Nat.lt_log2_self.le
    _ ≤ mantissa <<< shift := by
        rw [← pow_add]
        exact (Nat.le_log2 (Nat.shiftLeft_pos_iff.mpr positive).ne').mp digits

theorem isResult_div (finite : IsFinite x) (also : IsFinite y) (above : 0 < exactValue x)
    (aboveToo : 0 < exactValue y) : IsResult (exactValue x / exactValue y) (x / y) := by
  obtain ⟨mantissa, exponent, positive, parts, value⟩ := positive_parts finite above
  obtain ⟨other, power, nonzero, partsToo, valueToo⟩ := positive_parts also aboveToo
  let place := min (exponent - power) (Format.binary64.targetExponent
    (totalExponent mantissa exponent - totalExponent other power))
  let shift := (exponent - power - place).toNat
  let quotient := mantissa <<< shift / other
  have result : x / y = .ofModel (.pack (roundWithAccuracy .binary64 .positive quotient place
      (UnpackedFloat.accuracyOfFraction (mantissa <<< shift % other) other))) := by
    change Float.ofModel (.pack (UnpackedFloat.div .binary64 x.toModel.unpack
      y.toModel.unpack)) = _
    rw [parts, partsToo]
    rfl
  have within : place ≤ exponent - power := min_le_left _ _
  have target :
      place ≤ max ((mantissa.log2 + 1 + exponent) - (other.log2 + 1 + power) - 53) (-1074) :=
    min_le_right _ _
  have long : 52 ≤ quotient.log2 ∨ place ≤ -1074 := by
    by_cases normal : place ≤ -1074
    · exact .inr normal
    · have full : 2 ^ 52 ≤ quotient := pow_le_quotient positive nonzero (by omega)
      exact .inl ((Nat.le_log2 (by omega)).mpr full)
  have number : exactValue x / exactValue y =
      (mantissa <<< shift : ℕ) / other * 2 ^ place := by
    have scaled := shiftLeft_value mantissa shift (exponent - power)
    have same : exponent - power - shift = place := by omega
    rw [same, zpow_sub₀ two_ne_zero] at scaled
    rw [value, valueToo, div_mul_eq_mul_div, scaled]
    field_simp
  refine ⟨quotient, place, _, deep_of_long long, ?_, result⟩
  have behind : (mantissa <<< shift : ℕ) / (other : ℚ) - quotient =
      ((mantissa <<< shift % other : ℕ) : ℚ) / other := by
    have whole : (other : ℚ) ≠ 0 := by exact_mod_cast nonzero.ne'
    have split : ((mantissa <<< shift : ℕ) : ℚ) =
        other * quotient + (mantissa <<< shift % other : ℕ) := by
      exact_mod_cast (Nat.div_add_mod (mantissa <<< shift) other).symm
    rw [split]
    field_simp
    ring
  rw [number, mul_div_cancel_right₀ _ (by positivity), behind]
  exact tells_fraction (Nat.mod_lt _ nonzero)

theorem isRounded_div (finite : IsFinite x) (also : IsFinite y) (above : 0 < exactValue x)
    (aboveToo : 0 < exactValue y) : IsRounded (exactValue x / exactValue y) (x / y) :=
  (isResult_div finite also above aboveToo).isRounded

theorem aligned_value {place : ℤ} (lower : place ≤ exponent) (mantissa : ℕ) :
    ((mantissa <<< (exponent - place).toNat : ℕ) : ℚ) * 2 ^ place = mantissa * 2 ^ exponent := by
  have same := shiftLeft_value mantissa (exponent - place).toNat exponent
  rwa [Int.toNat_of_nonneg (by omega), sub_sub_cancel] at same

theorem normalize_pos (positive : 0 < mantissa) (exponent : ℤ) (sign : Sign) :
    UnpackedFloat.normalize .binary64 mantissa exponent sign =
      UnpackedFloat.round .binary64 .positive mantissa exponent := by
  have above : compare (mantissa : ℤ) 0 = .gt := Int.compare_eq_gt.mpr (by omega)
  rw [UnpackedFloat.normalize, above]
  rfl

theorem isResult_normalize {units : ℤ} (positive : 0 < units) (place : ℤ) (sign : Sign) :
    IsResult (units * 2 ^ place)
      (.ofModel (.pack (UnpackedFloat.normalize .binary64 units place sign))) := by
  obtain ⟨mantissa, rfl⟩ := Int.eq_ofNat_of_zero_le positive.le
  have counted : 0 < mantissa := by omega
  rw [normalize_pos counted]
  exact isResult_round counted place

theorem aligned_signed {place : ℤ} (lower : place ≤ exponent) (sign : Sign) (mantissa : ℕ) :
    ((sign.apply ((mantissa <<< (exponent - place).toNat : ℕ) : ℤ) : ℤ) : ℚ) * 2 ^ place =
      signedValue sign (mantissa * 2 ^ exponent) := by
  rw [← aligned_value lower mantissa]
  cases sign with
  | positive => rfl
  | negative =>
      change ((-((mantissa <<< (exponent - place).toNat : ℕ) : ℤ) : ℤ) : ℚ) * 2 ^ place = -_
      rw [Int.cast_neg, neg_mul, Int.cast_natCast]

end Operations

end GantryCode.Binary64
