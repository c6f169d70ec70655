import GantryCode.Angle
import GantryCode.Proofs.Rounding

namespace GantryCode

/-! Angles of cosines.

The angle is computed on integers, with roots and a series that are cut off. However far the
cosine is from one, at every step the result is known up to a few binary places, and that is
enough for the angle of a cosine below one to be a positive number of moderate size, whichever
way the platform rounds it.
-/

namespace Angle

section Roots

variable {square r guess : ℕ}

theorem rootFrom_le (square steps guess : ℕ) : rootFrom square steps guess ≤ guess := by
  induction steps generalizing guess with
  | zero => exact le_rfl
  | succ steps ih =>
      rw [rootFrom]
      split
      · next falls => exact (ih _).trans falls.le
      · exact le_rfl

/-- The mean of a guess and its counterpart is no less than the root. -/
theorem le_mean (below : r * r ≤ square) (positive : 0 < guess) :
    r ≤ (guess + square / guess) / 2 := by
  have counterpart : 2 * r - guess ≤ square / guess := by
    rw [Nat.le_div_iff_mul_le positive]
    refine le_trans ?_ below
    rcases Nat.le_total (2 * r) guess with small | large
    · rw [Nat.sub_eq_zero_of_le small, Nat.zero_mul]
      exact Nat.zero_le _
    · obtain ⟨rest, twice⟩ := Nat.exists_eq_add_of_le large
      rw [twice, Nat.add_sub_cancel_left]
      nlinarith [sq_nonneg ((guess : ℤ) - rest)]
  omega

theorem le_rootFrom (below : r * r ≤ square) (steps : ℕ) (atMost : r ≤ guess) :
    r ≤ rootFrom square steps guess := by
  rcases Nat.eq_zero_or_pos r with rfl | positive
  · exact Nat.zero_le _
  · induction steps generalizing guess with
    | zero => exact atMost
    | succ steps ih =>
        rw [rootFrom]
        split
        · exact ih (le_mean below (positive.trans_le atMost))
        · exact atMost

theorem le_root (below : r * r ≤ square) : r ≤ root square := by
  by_cases none : square = 0
  · subst none
    rw [mul_self_eq_zero.mp (Nat.le_zero.mp below)]
    exact Nat.zero_le _
  · rw [root, if_neg none]
    refine le_rootFrom below _ (Nat.mul_self_le_mul_self_iff.mp ?_)
    change r * r ≤ 2 ^ (square.log2 / 2 + 1) * 2 ^ (square.log2 / 2 + 1)
    rw [← pow_add]
    exact (below.trans Nat.lt_log2_self.le).trans (Nat.pow_le_pow_right two_pos (by omega))

theorem root_le {count : ℕ} (below : square < 2 ^ (2 * count)) : root square ≤ 2 ^ count := by
  rw [root]
  split
  · exact Nat.zero_le _
  · next nonzero =>
      have digits := (Nat.log2_lt nonzero).mpr below
      exact (rootFrom_le _ _ _).trans (Nat.pow_le_pow_right two_pos (by omega))

end Roots

section Tangents

variable {tangent : ℕ}

theorem unit_eq_pow : unit = 2 ^ 200 := rfl

/-- Halving an angle makes its tangent at most eight times smaller, and at least two times. -/
theorem le_halfTangent (low : ℕ) (atLeast : 2 ^ (low + 3) ≤ tangent) (atMost : tangent ≤ 2 ^ 201) :
    2 ^ low ≤ halfTangent tangent := by
  have square : unit * unit + tangent * tangent < 2 ^ (2 * 202) := by
    rw [unit_eq_pow]
    calc 2 ^ 200 * 2 ^ 200 + tangent * tangent
        ≤ 2 ^ 200 * 2 ^ 200 + 2 ^ 201 * 2 ^ 201 :=
          Nat.add_le_add_left (Nat.mul_le_mul atMost atMost) _
      _ < 2 ^ (2 * 202) := by decide +kernel
  have divisor : unit + root (unit * unit + tangent * tangent) ≤ 2 ^ 203 := by
    have bound := root_le square
    rw [unit_eq_pow] at bound ⊢
    omega
  rw [halfTangent, Nat.le_div_iff_mul_le (by rw [unit_eq_pow]; positivity)]
  calc 2 ^ low * (unit + root (unit * unit + tangent * tangent)) ≤ 2 ^ low * 2 ^ 203 :=
        Nat.mul_le_mul_left _ divisor
    _ = 2 ^ (low + 3) * unit := by rw [unit_eq_pow, ← pow_add, ← pow_add]
    _ ≤ tangent * unit := Nat.mul_le_mul_right _ atLeast

theorem halfTangent_le (high : ℕ) (atMost : tangent ≤ 2 ^ (high + 1)) :
    halfTangent tangent ≤ 2 ^ high := by
  have divisor : unit ≤ root (unit * unit + tangent * tangent) :=
    le_root (Nat.le_add_right _ _)
  have positive : 0 < unit := by rw [unit_eq_pow]; positivity
  rw [halfTangent]
  refine Nat.div_le_of_le_mul ?_
  calc tangent * unit ≤ 2 ^ (high + 1) * unit := Nat.mul_le_mul_right _ atMost
    _ = (unit + unit) * 2 ^ high := by ring
    _ ≤ (unit + root (unit * unit + tangent * tangent)) * 2 ^ high :=
        Nat.mul_le_mul_right _ (Nat.add_le_add_left divisor _)

theorem seriesFrom_le (square index terms : ℕ) : seriesFrom square index terms ≤ unit := by
  cases terms with
  | zero => exact Nat.zero_le _
  | succ terms =>
      rw [seriesFrom]
      exact (Nat.sub_le _ _).trans (Nat.div_le_self _ _)

/-- The first term of the series is one, and the others take away less than the square. -/
theorem le_seriesFrom (square terms : ℕ) : unit - square ≤ seriesFrom square 0 (terms + 1) := by
  have positive : 0 < unit := by rw [unit_eq_pow]; positivity
  have rest : square * seriesFrom square (0 + 1) terms / unit ≤ square := by
    refine Nat.div_le_of_le_mul ?_
    rw [Nat.mul_comm]
    exact Nat.mul_le_mul_right _ (seriesFrom_le _ _ _)
  rw [seriesFrom, Nat.mul_zero, Nat.zero_add, Nat.div_one]
  exact Nat.sub_le_sub_left rest unit

theorem square_le (atMost : tangent ≤ 2 ^ 197) : tangent * tangent / unit ≤ 2 ^ 194 := by
  refine Nat.div_le_of_le_mul ?_
  rw [unit_eq_pow]
  calc tangent * tangent ≤ 2 ^ 197 * 2 ^ 197 := Nat.mul_le_mul atMost atMost
    _ = 2 ^ 200 * 2 ^ 194 := by norm_num

theorem le_ofSmallTangent (low : ℕ) (atLeast : 2 ^ (low + 1) ≤ tangent)
    (atMost : tangent ≤ 2 ^ 197) :
    2 ^ low ≤ ofSmallTangent tangent := by
  have square := square_le atMost
  have series := le_seriesFrom (tangent * tangent / unit) 31
  have most : 2 ^ 199 ≤ seriesFrom (tangent * tangent / unit) 0 seriesLength := by
    rw [unit_eq_pow] at series square ⊢
    change 2 ^ 199 ≤ seriesFrom _ 0 (31 + 1)
    omega
  rw [ofSmallTangent, Nat.le_div_iff_mul_le (by rw [unit_eq_pow]; positivity)]
  calc 2 ^ low * unit = 2 ^ (low + 1) * 2 ^ 199 := by rw [unit_eq_pow, ← pow_add, ← pow_add]
    _ ≤ tangent * seriesFrom (tangent * tangent / unit) 0 seriesLength :=
        Nat.mul_le_mul atLeast most

theorem ofSmallTangent_le (tangent : ℕ) : ofSmallTangent tangent ≤ tangent := by
  refine Nat.div_le_of_le_mul ?_
  rw [Nat.mul_comm]
  exact Nat.mul_le_mul_right _ (seriesFrom_le _ _ _)

/-- A cosine that stays so many units below one makes a tangent of moderate size. -/
theorem tangent_bounds {cosine : ℕ} (apart : cosine + 2 ^ 147 ≤ unit) :
    let tangent := root (unit * unit - cosine * cosine) * unit / (unit + cosine)
    2 ^ 172 ≤ tangent ∧ tangent ≤ 2 ^ 201 := by
  intro tangent
  have positive : 0 < unit := by rw [unit_eq_pow]; positivity
  have smaller : cosine ≤ unit := (Nat.le_add_right _ _).trans apart
  have least : 2 ^ 173 * 2 ^ 173 ≤ unit * unit - cosine * cosine := by
    refine Nat.le_sub_of_add_le ?_
    calc 2 ^ 173 * 2 ^ 173 + cosine * cosine ≤ 2 ^ 147 * unit + cosine * unit :=
          Nat.add_le_add (by rw [unit_eq_pow]; decide) (Nat.mul_le_mul_left _ smaller)
      _ = (cosine + 2 ^ 147) * unit := by ring
      _ ≤ unit * unit := Nat.mul_le_mul_right _ apart
  have most : unit * unit - cosine * cosine < 2 ^ (2 * 201) :=
    (Nat.sub_le _ _).trans_lt (by rw [unit_eq_pow]; decide +kernel)
  constructor
  · rw [Nat.le_div_iff_mul_le (by omega)]
    calc 2 ^ 172 * (unit + cosine) ≤ 2 ^ 172 * (unit + unit) :=
          Nat.mul_le_mul_left _ (Nat.add_le_add_left smaller _)
      _ = 2 ^ 173 * unit := by ring
      _ ≤ root (unit * unit - cosine * cosine) * unit :=
          Nat.mul_le_mul_right _ (le_root least)
  · refine Nat.div_le_of_le_mul ?_
    rw [Nat.mul_comm]
    exact Nat.mul_le_mul (Nat.le_add_right _ _) (root_le most)

/-- A cosine that stays so many units below one has an angle of moderate size. -/
theorem ofCosine_bounds {cosine : ℕ} (apart : cosine + 2 ^ 147 ≤ unit) :
    2 ^ 164 ≤ ofCosine cosine ∧ ofCosine cosine ≤ 2 ^ 202 := by
  obtain ⟨atLeast, atMost⟩ := tangent_bounds apart
  have halved := halfTangent_le 200 atMost
  have halvedTwice := halfTangent_le 199 halved
  have halvedThrice := halfTangent_le 198 halvedTwice
  have small := halfTangent_le 197 halvedThrice
  have enough := le_ofSmallTangent 159
    (le_halfTangent 160
      (le_halfTangent 163
        (le_halfTangent 166
          (le_halfTangent 169 atLeast atMost)
          (halved.trans (by decide)))
        (halvedTwice.trans (by decide)))
      (halvedThrice.trans (by decide))) small
  have few := (ofSmallTangent_le _).trans small
  change 2 ^ 164 ≤ 2 * (16 * _) ∧ 2 * (16 * _) ≤ 2 ^ 202
  constructor
  · calc 2 ^ 164 = 2 * (16 * 2 ^ 159) := by decide
      _ ≤ _ := Nat.mul_le_mul_left 2 (Nat.mul_le_mul_left 16 enough)
  · calc _ ≤ 2 * (16 * 2 ^ 197) := Nat.mul_le_mul_left 2 (Nat.mul_le_mul_left 16 few)
      _ = 2 ^ 202 := by decide

end Tangents

section Numbers

open Binary64
open Decimal (IsFinite)

theorem toFloat_bounds {angle : ℕ} (atLeast : 2 ^ 163 ≤ angle) (atMost : angle ≤ 2 ^ 203) :
    IsFinite (toFloat angle) ∧ 2 ^ (-37 : ℤ) ≤ exactValue (toFloat angle) ∧
      exactValue (toFloat angle) ≤ 2 ^ (5 : ℤ) := by
  have rounded : IsRounded (angle * 2 ^ (-200 : ℤ)) (toFloat angle) :=
    isRounded_round (by omega) (-200)
  have least : (2 : ℚ) ^ (-37 : ℤ) ≤ angle * 2 ^ (-200 : ℤ) := by
    have enough : (2 : ℚ) ^ 163 ≤ angle := by exact_mod_cast atLeast
    calc (2 : ℚ) ^ (-37 : ℤ) = 2 ^ 163 * 2 ^ (-200 : ℤ) := by norm_num
      _ ≤ angle * 2 ^ (-200 : ℤ) := mul_le_mul_of_nonneg_right enough (by positivity)
  have most : (angle : ℚ) * 2 ^ (-200 : ℤ) < 2 ^ (5 : ℤ) := by
    have few : (angle : ℚ) ≤ 2 ^ 203 := by exact_mod_cast atMost
    calc (angle : ℚ) * 2 ^ (-200 : ℤ) ≤ 2 ^ 203 * 2 ^ (-200 : ℤ) :=
          mul_le_mul_of_nonneg_right few (by positivity)
      _ < 2 ^ (5 : ℤ) := by norm_num
  obtain ⟨finite, -, below⟩ := rounded.below 5 (by decide) (by decide) most
  exact ⟨finite, rounded.above (-37) (by decide) finite least, below⟩

/-- The number for an angle is that of an angle next to it. -/
theorem towards_near (angle : ℕ) (other : Float) : ∃ near : ℕ, towards angle other = toFloat near ∧
    angle - tie angle ≤ near ∧ near ≤ angle + tie angle := by
  rw [towards]
  split
  · exact ⟨_, rfl, le_rfl, by omega⟩
  · split
    · exact ⟨_, rfl, by omega, le_rfl⟩
    · exact ⟨_, rfl, by omega, by omega⟩

theorem tie_le (angle : ℕ) : tie angle * 2 ^ 56 ≤ angle :=
  Nat.div_mul_le_self angle _

/-- A number in units is cut off behind the last of them. -/
theorem scaled_bounds (mantissa : ℕ) (exponent : ℤ) :
    (scaled mantissa exponent : ℚ) ≤ mantissa * 2 ^ exponent * 2 ^ 200 ∧
      mantissa * 2 ^ exponent * 2 ^ 200 < (scaled mantissa exponent : ℚ) + 1 := by
  have value : (mantissa : ℚ) * 2 ^ exponent * 2 ^ 200 = mantissa * 2 ^ (exponent + 200) := by
    rw [zpow_add₀ two_ne_zero, mul_assoc, zpow_ofNat]
  have shifted : exponent + places = exponent + 200 := rfl
  rw [value, scaled, shifted]
  cases exponent + 200 with
  | ofNat shift =>
      have whole : ((mantissa * Nat.pow 2 shift : ℕ) : ℚ) = mantissa * 2 ^ Int.ofNat shift := by
        rw [Int.ofNat_eq_natCast, zpow_natCast]
        exact_mod_cast rfl
      rw [← whole]
      exact ⟨le_rfl, lt_add_one _⟩
  | negSucc shift =>
      have positive : 0 < Nat.pow 2 (shift + 1) := Nat.pow_pos two_pos
      have divisor : ((Nat.pow 2 (shift + 1) : ℕ) : ℚ) = 2 ^ (shift + 1) := by exact_mod_cast rfl
      rw [zpow_negSucc, ← div_eq_mul_inv, ← divisor]
      refine ⟨Nat.cast_div_le, ?_⟩
      rw [div_lt_iff₀ (by exact_mod_cast positive), mul_comm]
      exact_mod_cast Nat.lt_mul_div_succ mantissa positive

/-- A number below one is below it by at least a unit of its own last place. -/
theorem exactValue_below_one {x : Float} (finite : IsFinite x) (less : exactValue x < 1) :
    exactValue x ≤ 1 - 2 ^ (-53 : ℤ) := by
  rcases le_or_gt (exactValue x) 0 with negative | above
  · exact negative.trans (by norm_num)
  · obtain ⟨mantissa, exponent, positive, parts, value⟩ := positive_parts finite above
    have canonical := isCanonical_of_unpack parts
    have small : exponent ≤ -53 := by
      by_contra large
      have full : (2 : ℚ) ^ 52 ≤ mantissa := by
        exact_mod_cast canonical.full (by omega)
      have one : (1 : ℚ) ≤ mantissa * 2 ^ exponent := by
        calc (1 : ℚ) = 2 ^ 52 * 2 ^ (-52 : ℤ) := by norm_num
          _ ≤ mantissa * 2 ^ exponent :=
            mul_le_mul full (zpow_le_zpow_right₀ one_le_two (by omega)) (by positivity)
              (by positivity)
      rw [value] at less
      exact absurd less (not_lt.mpr one)
    have bits : (mantissa : ℚ) ≤ 2 ^ 53 - 1 := by
      rw [le_sub_iff_add_le]
      exact_mod_cast canonical.bits
    rw [value]
    calc (mantissa : ℚ) * 2 ^ exponent ≤ (2 ^ 53 - 1) * 2 ^ (-53 : ℤ) :=
          mul_le_mul bits (zpow_le_zpow_right₀ one_le_two small) (by positivity) (by norm_num)
      _ = 1 - 2 ^ (-53 : ℤ) := by norm_num

theorem scaled_apart {mantissa : ℕ} {exponent : ℤ}
    (below : (mantissa : ℚ) * 2 ^ exponent ≤ 1 - 2 ^ (-53 : ℤ)) :
    scaled mantissa exponent + 2 ^ 147 ≤ unit := by
  have units : ((scaled mantissa exponent + 2 ^ 147 : ℕ) : ℚ) ≤ (2 ^ 200 : ℕ) := by
    push_cast
    calc (scaled mantissa exponent : ℚ) + 2 ^ 147
        ≤ (1 - 2 ^ (-53 : ℤ)) * 2 ^ 200 + 2 ^ 147 :=
          add_le_add_left ((scaled_bounds mantissa exponent).1.trans
            (mul_le_mul_of_nonneg_right below (by positivity))) _
      _ = 2 ^ 200 := by norm_num
  rw [unit_eq_pow]
  exact_mod_cast units

/-- A cosine from zero on and below one in units, of which its angle is computed. -/
theorem ofNumber?_below_one {cosine : Float} (finite : IsFinite cosine)
    (atLeast : 0 ≤ exactValue cosine) (less : exactValue cosine < 1) :
    ∃ units : ℕ, ofNumber? cosine = some (ofCosine units) ∧ units + 2 ^ 147 ≤ unit ∧
      (units : ℚ) ≤ exactValue cosine * 2 ^ 200 ∧ exactValue cosine * 2 ^ 200 < units + 1 := by
  have below := exactValue_below_one finite less
  rw [exactValue] at atLeast below ⊢
  rw [ofNumber?]
  rcases finite_cases finite with ⟨sign, parts⟩ | ⟨sign, mantissa, exponent, positive, parts⟩
  · rw [parts]
    refine ⟨0, rfl, by decide, ?_, ?_⟩ <;> simp [Binary64.exactParts]
  · rw [parts] at atLeast below ⊢
    cases sign with
    | positive =>
        obtain ⟨floor, rest⟩ := scaled_bounds mantissa exponent
        exact ⟨_, rfl, scaled_apart below, floor, rest⟩
    | negative =>
        have size : (0 : ℚ) < mantissa * 2 ^ exponent := by positivity
        exact absurd atLeast (not_le.mpr (neg_lt_zero.mpr size))

end Numbers

end Angle

namespace Binary64

open Decimal (IsFinite)

theorem arccos_eq {cosine : Float} {angle : ℕ} (found : Angle.ofNumber? cosine = some angle) :
    arccos cosine = Angle.towards angle cosine.acos := by
  rw [arccos, found]

/-- The angle of a cosine from zero on and below one, whatever the platform prefers. -/
theorem arccos_bounds {cosine : Float} (finite : IsFinite cosine) (atLeast : 0 ≤ exactValue cosine)
    (less : exactValue cosine < 1) :
    IsFinite (arccos cosine) ∧ 2 ^ (-37 : ℤ) ≤ exactValue (arccos cosine) ∧
      exactValue (arccos cosine) ≤ 2 ^ (5 : ℤ) := by
  obtain ⟨units, found, apart, -⟩ := Angle.ofNumber?_below_one finite atLeast less
  obtain ⟨above, below⟩ := Angle.ofCosine_bounds apart
  obtain ⟨near, same, low, high⟩ := Angle.towards_near (Angle.ofCosine units) cosine.acos
  have small := Angle.tie_le (Angle.ofCosine units)
  rw [arccos_eq found, same]
  exact Angle.toFloat_bounds (by omega) (by omega)

/-- The angle of one is zero, and there is nothing that the platform could decide. -/
theorem arccos_one : arccos 1 = 0 := by
  have found : Angle.ofNumber? 1 = some 0 := by decide +kernel
  have none : Angle.toFloat 0 = 0 := by decide
  obtain ⟨near, same, -, high⟩ := Angle.towards_near 0 (Float.acos 1)
  have zero : near = 0 := Nat.le_zero.mp high
  rw [arccos_eq found, same, zero, none]

end Binary64

end GantryCode
