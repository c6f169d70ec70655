import GantryCode.Proofs.Angles
import Mathlib.Analysis.Real.Pi.Bounds
import Mathlib.Analysis.SpecialFunctions.Complex.Arctan
import Mathlib.Analysis.SpecialFunctions.Trigonometric.ArctanDeriv
import Mathlib.Analysis.SpecialFunctions.Trigonometric.Bounds

namespace GantryCode.Angle

/-! How near the angles that are computed are to those of their cosines.

Each step loses a few units: the roots and quotients are cut off, and so are the terms of the
series, of which those that are left out do not count. As the arc tangent grows no faster than
its argument, an error of a tangent is none larger of its angle, and the doublings at the end
leave it far below the last place of a number. Two cosines that are a place of theirs apart have
angles that are at least as far apart, so the angles are in order whichever way they are rounded.
-/

open Real (arctan arccos)

section Tangents

theorem abs_arctan_sub_le (s t : ℝ) : |arctan s - arctan t| ≤ |s - t| := by
  have lipschitz : LipschitzWith 1 arctan := by
    refine lipschitzWith_of_nnnorm_deriv_le Real.differentiable_arctan fun t => ?_
    rw [← NNReal.coe_le_coe, coe_nnnorm, Real.deriv_arctan, Real.norm_eq_abs,
      abs_of_pos (by positivity), NNReal.coe_one, div_le_one (by positivity)]
    linarith [sq_nonneg t]
  simpa [Real.dist_eq] using lipschitz.dist_le_mul s t

theorem arctan_half {t : ℝ} (nonnegative : 0 ≤ t) :
    arctan (t / (1 + √(1 + t ^ 2))) = arctan t / 2 := by
  have square : √(1 + t ^ 2) ^ 2 = 1 + t ^ 2 := Real.sq_sqrt (by positivity)
  have root : 0 ≤ √(1 + t ^ 2) := Real.sqrt_nonneg _
  have less : t < 1 + √(1 + t ^ 2) := by nlinarith
  have positive : 0 < 1 + √(1 + t ^ 2) := by linarith
  have small : t / (1 + √(1 + t ^ 2)) < 1 := (div_lt_one positive).mpr less
  have above : 0 ≤ t / (1 + √(1 + t ^ 2)) := div_nonneg nonnegative positive.le
  have doubled := Real.two_mul_arctan (by linarith) small
  have whole : 2 * (t / (1 + √(1 + t ^ 2))) / (1 - (t / (1 + √(1 + t ^ 2))) ^ 2) = t := by
    have rest : 1 - (t / (1 + √(1 + t ^ 2))) ^ 2 = 2 / (1 + √(1 + t ^ 2)) := by
      field_simp
      nlinarith
    rw [rest]
    field_simp
  rw [whole] at doubled
  linarith

/-- Half of an angle by its cosine. -/
theorem arctan_of_cosine {c : ℝ} (nonnegative : 0 ≤ c) (atMost : c ≤ 1) :
    arctan (√(1 - c ^ 2) / (1 + c)) = arccos c / 2 := by
  rcases nonnegative.eq_or_lt with rfl | positive
  · rw [Real.arccos_zero]
    norm_num
    ring
  · have square : √(1 - c ^ 2) ^ 2 = 1 - c ^ 2 := Real.sq_sqrt (by nlinarith)
    have root : 0 ≤ √(1 - c ^ 2) := Real.sqrt_nonneg _
    have less : √(1 - c ^ 2) < 1 + c := by nlinarith
    have small : √(1 - c ^ 2) / (1 + c) < 1 := (div_lt_one (by linarith)).mpr less
    have above : 0 ≤ √(1 - c ^ 2) / (1 + c) := by positivity
    have doubled := Real.two_mul_arctan (by linarith) small
    have whole : 2 * (√(1 - c ^ 2) / (1 + c)) / (1 - (√(1 - c ^ 2) / (1 + c)) ^ 2) =
        √(1 - c ^ 2) / c := by
      have rest : 1 - (√(1 - c ^ 2) / (1 + c)) ^ 2 = 2 * c / (1 + c) := by
        field_simp
        nlinarith
      rw [rest]
      field_simp
    rw [whole, ← Real.arccos_eq_arctan positive] at doubled
    linarith

/-- Cosines differ no more than their angles. -/
theorem sub_le_arccos_sub {b c : ℝ} (nonnegative : 0 ≤ b) (ordered : b ≤ c) (atMost : c ≤ 1) :
    c - b ≤ arccos b - arccos c := by
  have falls : arccos c ≤ arccos b := Real.arccos_le_arccos ordered
  have near := Real.abs_cos_sub_cos_le (arccos c) (arccos b)
  rw [Real.cos_arccos (by linarith) atMost, Real.cos_arccos (by linarith) (by linarith),
    abs_of_nonneg (by linarith), abs_of_nonpos (by linarith)] at near
  linarith

end Tangents

section Series

variable {square : ℝ}

/-- The terms of the series of the arc tangent from the one of order `index` on, divided by the
power of the tangent that they share. -/
noncomputable def tail (square : ℝ) (index : ℕ) : ℝ :=
  tsum fun count : ℕ => (-square) ^ count / (2 * (index + count) + 1)

theorem norm_term_le (nonnegative : 0 ≤ square) (index count : ℕ) :
    ‖(-square) ^ count / (2 * ((index : ℝ) + count) + 1)‖ ≤ square ^ count := by
  have divisor : (1 : ℝ) ≤ 2 * (index + count) + 1 := by
    have whole : (0 : ℝ) ≤ index + count := by positivity
    linarith
  rw [norm_div, norm_pow, norm_neg, Real.norm_of_nonneg nonnegative,
    Real.norm_of_nonneg (by linarith)]
  exact div_le_self (by positivity) divisor

theorem summable_terms (nonnegative : 0 ≤ square) (less : square < 1) (index : ℕ) :
    Summable fun count : ℕ => (-square) ^ count / (2 * ((index : ℝ) + count) + 1) :=
  .of_norm_bounded (summable_geometric_of_lt_one nonnegative less)
    (norm_term_le nonnegative index)

theorem abs_tail_le (nonnegative : 0 ≤ square) (small : square ≤ 1 / 2) (index : ℕ) :
    |tail square index| ≤ 2 := by
  have bounded := tsum_of_norm_bounded (hasSum_geometric_of_lt_one nonnegative (by linarith))
    (norm_term_le nonnegative index)
  refine bounded.trans ?_
  rw [inv_le_comm₀ (by linarith) two_pos]
  linarith

/-- The terms are taken off one by one. -/
theorem tail_eq (nonnegative : 0 ≤ square) (less : square < 1) (index : ℕ) :
    tail square index = 1 / (2 * index + 1) - square * tail square (index + 1) := by
  have next (count : ℕ) : (-square) ^ (count + 1) / (2 * ((index : ℝ) + (count + 1 : ℕ)) + 1) =
      -square * ((-square) ^ count / (2 * (((index + 1 : ℕ) : ℝ) + count) + 1)) := by
    push_cast
    rw [pow_succ', mul_div_assoc]
    ring_nf
  rw [tail, (summable_terms nonnegative less index).tsum_eq_zero_add]
  simp only [next, tsum_mul_left, pow_zero, Nat.cast_zero, add_zero]
  rw [tail]
  ring

theorem arctan_eq_tail {t : ℝ} (nonnegative : 0 ≤ t) (less : t < 1) :
    arctan t = t * tail (t ^ 2) 0 := by
  have series := Real.hasSum_arctan (x := t) (by rwa [Real.norm_of_nonneg nonnegative])
  rw [← series.tsum_eq, tail, ← tsum_mul_left]
  refine tsum_congr fun count => ?_
  push_cast
  rw [neg_pow (t ^ 2), ← pow_mul, pow_succ]
  ring

end Series

section Units

theorem unit_pos : (0 : ℝ) < unit := by
  rw [unit_eq_pow]
  positivity

theorem floor_near (numerator denominator : ℕ) (positive : 0 < denominator) :
    |((numerator / denominator : ℕ) : ℝ) - numerator / denominator| ≤ 1 := by
  have above : (0 : ℝ) < denominator := by exact_mod_cast positive
  have floor : ((numerator / denominator : ℕ) : ℝ) ≤ numerator / denominator := Nat.cast_div_le
  have next : (numerator : ℝ) / denominator < (numerator / denominator : ℕ) + 1 := by
    rw [div_lt_iff₀ above, mul_comm]
    exact_mod_cast Nat.lt_mul_div_succ numerator positive
  rw [abs_le]
  constructor <;> linarith

/-- At each step of the iteration at least half of what is too much goes away. -/
theorem rootFrom_le_sqrt {square guess steps : ℕ} (excess : ℕ)
    (atMost : guess ≤ square.sqrt + excess) (few : excess < 2 ^ steps) :
    rootFrom square steps guess ≤ square.sqrt := by
  induction steps generalizing guess excess with
  | zero =>
      rw [rootFrom]
      omega
  | succ steps ih =>
      have mean (above : square.sqrt < guess) :
          (guess + square / guess) / 2 ≤ (guess + square.sqrt) / 2 := by
        have counterpart : square / guess < square.sqrt + 1 := by
          rw [Nat.div_lt_iff_lt_mul (by omega)]
          exact Nat.lt_succ_sqrt square |>.trans_le (Nat.mul_le_mul_left _ above)
        omega
      rw [rootFrom]
      split
      · next falls =>
          by_cases above : square.sqrt < guess
          · have halved := mean above
            exact ih (excess / 2) (by omega) (by omega)
          · exact (rootFrom_le _ _ _).trans (by omega)
      · next stays =>
          by_contra above
          have halved := mean (by omega)
          omega

theorem root_eq_sqrt (square : ℕ) : root square = square.sqrt := by
  refine le_antisymm ?_ (le_root (Nat.sqrt_le square))
  rw [root]
  split
  · exact Nat.zero_le _
  · next nonzero =>
      have some : 1 ≤ square.sqrt := Nat.sqrt_pos.mpr (Nat.pos_of_ne_zero nonzero)
      have guess : Nat.pow 2 (square.log2 / 2 + 1) ≤ 2 ^ (square.log2 + 1) :=
        Nat.pow_le_pow_right two_pos (by omega)
      exact rootFrom_le_sqrt (2 ^ (square.log2 + 1) - 1) (by omega)
        (Nat.sub_lt (by positivity) one_pos)

theorem root_near (square : ℕ) : |(root square : ℝ) - √square| ≤ 1 := by
  have floor : ((square.sqrt : ℕ) : ℝ) ≤ √square := Real.nat_sqrt_le_real_sqrt
  have next : √square < (square.sqrt : ℕ) + 1 := Real.real_sqrt_lt_nat_sqrt_succ
  rw [root_eq_sqrt, abs_le]
  constructor <;> linarith

/-- The angle of a tangent, both in units. -/
noncomputable def exactAngle (tangent : ℕ) : ℝ :=
  unit * arctan (tangent / unit)

theorem exactAngle_near (tangent : ℕ) (t : ℝ) :
    |exactAngle tangent - unit * arctan t| ≤ |tangent - unit * t| := by
  have scaled : (tangent : ℝ) - unit * t = unit * (tangent / unit - t) := by
    have nonzero := unit_pos.ne'
    field_simp
  rw [exactAngle, ← mul_sub, scaled, abs_mul, abs_mul, abs_of_pos unit_pos]
  exact mul_le_mul_of_nonneg_left (abs_arctan_sub_le _ _) unit_pos.le

/-- A divisor that is one off does not change the quotient by more than one. -/
theorem quotient_near {t u length root : ℝ} (nonnegative : 0 ≤ t) (positive : 0 < u)
    (above : 0 ≤ root) (long : t ≤ length) (near : |root - length| ≤ 1) :
    |t * u / (u + root) - t * u / (u + length)| ≤ 1 := by
  have sum : 0 < u + length := by linarith
  have sumToo : 0 < u + root := by linarith
  have difference : t * u / (u + root) - t * u / (u + length) =
      t * u * (length - root) / ((u + root) * (u + length)) := by
    field_simp
    ring
  rw [difference, abs_div, abs_mul, abs_of_nonneg (mul_nonneg nonnegative positive.le),
    abs_of_pos (mul_pos sumToo sum), div_le_one (mul_pos sumToo sum), abs_sub_comm]
  calc t * u * |root - length| ≤ t * u * 1 :=
        mul_le_mul_of_nonneg_left near (mul_nonneg nonnegative positive.le)
    _ = u * t := by ring
    _ ≤ (u + root) * (u + length) := mul_le_mul (by linarith) (by linarith) nonnegative sumToo.le

theorem sqrt_in_units (square : ℝ) : √(unit * unit * square) = unit * √square := by
  rw [Real.sqrt_mul (by positivity), Real.sqrt_mul_self unit_pos.le]

theorem half_in_units (tangent : ℕ) :
    unit * ((tangent / unit : ℝ) / (1 + √(1 + (tangent / unit : ℝ) ^ 2))) =
      tangent * unit / (unit + √((unit * unit + tangent * tangent : ℕ) : ℝ)) := by
  have positive := unit_pos
  have square : ((unit * unit + tangent * tangent : ℕ) : ℝ) =
      unit * unit * (1 + (tangent / unit : ℝ) ^ 2) := by
    push_cast
    field_simp
  have sum : 1 + √(1 + (tangent / unit : ℝ) ^ 2) ≠ 0 := by positivity
  rw [square, sqrt_in_units, ← mul_one_add]
  field_simp

/-- The angle is halved, up to what the root and the quotient lose. -/
theorem halfTangent_near (tangent : ℕ) :
    |exactAngle (halfTangent tangent) - exactAngle tangent / 2| ≤ 2 := by
  let square := unit * unit + tangent * tangent
  have long : (tangent : ℝ) ≤ √(square : ℕ) := by
    refine Real.le_sqrt_of_sq_le ?_
    push_cast [square]
    nlinarith [mul_self_nonneg (unit : ℝ)]
  have quotient := quotient_near (Nat.cast_nonneg tangent) unit_pos (Nat.cast_nonneg _) long
    (root_near square)
  have whole : 0 < unit + root square := Nat.add_pos_left (by rw [unit_eq_pow]; positivity) _
  have floor := floor_near (tangent * unit) _ whole
  push_cast at floor
  have near := exactAngle_near (halfTangent tangent)
    ((tangent / unit : ℝ) / (1 + √(1 + (tangent / unit : ℝ) ^ 2)))
  have half : unit * arctan ((tangent / unit : ℝ) / (1 + √(1 + (tangent / unit : ℝ) ^ 2))) =
      exactAngle tangent / 2 := by
    rw [arctan_half (by positivity), exactAngle, mul_div_assoc]
  rw [half, half_in_units] at near
  have legs := abs_sub_le ((halfTangent tangent : ℕ) : ℝ) (tangent * unit / (unit + root square))
    (tangent * unit / (unit + √(square : ℕ)))
  have floor : |((halfTangent tangent : ℕ) : ℝ) - tangent * unit / (unit + root square)| ≤ 1 :=
    floor
  linarith

theorem halfAngle_in_units {cosine : ℕ} (atMost : cosine ≤ unit) :
    unit * (√(1 - (cosine / unit : ℝ) ^ 2) / (1 + cosine / unit)) =
      √((unit * unit - cosine * cosine : ℕ) : ℝ) * unit / (unit + cosine) := by
  have positive := unit_pos
  have square : ((unit * unit - cosine * cosine : ℕ) : ℝ) =
      unit * unit * (1 - (cosine / unit : ℝ) ^ 2) := by
    rw [Nat.cast_sub (Nat.mul_self_le_mul_self atMost)]
    push_cast
    field_simp
  have sum : (unit : ℝ) + cosine ≠ 0 := by positivity
  rw [square, sqrt_in_units]
  field_simp

/-- The tangent of half of an angle is found by its cosine, up to what the root and the quotient
lose. -/
theorem halfAngle_near {cosine : ℕ} (atMost : cosine ≤ unit) :
    |exactAngle (root (unit * unit - cosine * cosine) * unit / (unit + cosine)) -
      unit * arccos (cosine / unit) / 2| ≤ 2 := by
  have positive := unit_pos
  let square := unit * unit - cosine * cosine
  have small : (cosine : ℝ) / unit ≤ 1 := by
    rw [div_le_one positive]
    exact_mod_cast atMost
  have rootOff : |(root square * unit : ℝ) / (unit + cosine) -
      √(square : ℕ) * unit / (unit + cosine)| ≤ 1 := by
    have sum : (0 : ℝ) < unit + cosine := by positivity
    rw [← sub_div, ← sub_mul, abs_div, abs_mul, abs_of_pos positive, abs_of_pos sum,
      div_le_one sum]
    calc |(root square : ℝ) - √(square : ℕ)| * unit ≤ 1 * unit :=
          mul_le_mul_of_nonneg_right (root_near square) positive.le
      _ ≤ unit + cosine := by
        have above : (0 : ℝ) ≤ cosine := Nat.cast_nonneg cosine
        linarith
  have floor := floor_near (root square * unit) (unit + cosine)
    (Nat.add_pos_left (by rw [unit_eq_pow]; positivity) _)
  push_cast at floor
  have half : unit * arctan (√(1 - (cosine / unit : ℝ) ^ 2) / (1 + cosine / unit)) =
      unit * arccos (cosine / unit) / 2 := by
    rw [arctan_of_cosine (by positivity) small, mul_div_assoc]
  have near := exactAngle_near (root square * unit / (unit + cosine))
    (√(1 - (cosine / unit : ℝ) ^ 2) / (1 + cosine / unit))
  rw [half, halfAngle_in_units atMost] at near
  have legs := abs_sub_le (((root square * unit / (unit + cosine) : ℕ)) : ℝ)
    (root square * unit / (unit + cosine)) (√(square : ℕ) * unit / (unit + cosine))
  linarith

section Terms

variable {squared : ℕ} {square : ℝ}

/-- What is taken away from a term is less than the term. -/
theorem term_enough {index : ℕ} (few : index < 32) (small : squared ≤ 2 ^ 194) (terms : ℕ) :
    squared * seriesFrom squared (index + 1) terms / unit ≤ unit / (2 * index + 1) := by
  have whole : 0 < unit := by rw [unit_eq_pow]; positivity
  have less : squared * seriesFrom squared (index + 1) terms / unit ≤ squared := by
    refine Nat.div_le_of_le_mul ?_
    rw [Nat.mul_comm]
    exact Nat.mul_le_mul_right _ (seriesFrom_le _ _ _)
  refine (less.trans small).trans ?_
  rw [Nat.le_div_iff_mul_le (by omega), unit_eq_pow]
  calc 2 ^ 194 * (2 * index + 1) ≤ 2 ^ 194 * 2 ^ 6 := Nat.mul_le_mul_left _ (by omega)
    _ = 2 ^ 200 := by norm_num

/-- The error of one term, and what is left of those of the terms behind it. -/
theorem seriesFrom_near (near : |(squared : ℝ) - unit * square| ≤ 1) (nonnegative : 0 ≤ square)
    (atMost : square ≤ 1 / 64) (small : squared ≤ 2 ^ 194) (index terms : ℕ)
    (few : index + terms ≤ 32) :
    |(seriesFrom squared index terms : ℝ) - unit * tail square index| ≤
      4 + 2 * unit / 64 ^ terms := by
  have positive := unit_pos
  induction terms generalizing index with
  | zero =>
      have bounded := abs_tail_le nonnegative (by linarith) index
      rw [seriesFrom, Nat.cast_zero, zero_sub, abs_neg, abs_mul, abs_of_pos positive, pow_zero]
      nlinarith
  | succ terms ih =>
      have behind := ih (index + 1) (by omega)
      have first := floor_near unit (2 * index + 1) (by omega)
      have rest := floor_near (squared * seriesFrom squared (index + 1) terms) unit
        (by rw [unit_eq_pow]; positivity)
      have bounded : (seriesFrom squared (index + 1) terms : ℝ) ≤ unit := by
        exact_mod_cast seriesFrom_le squared (index + 1) terms
      set series := seriesFrom squared (index + 1) terms
      push_cast at first rest
      have product : |(squared * series : ℝ) / unit - square * (unit * tail square (index + 1))| ≤
          1 + (4 + 2 * unit / 64 ^ terms) / 64 := by
        have split : (squared * series : ℝ) / unit - square * (unit * tail square (index + 1)) =
            (squared - unit * square) * (series / unit) +
              square * (series - unit * tail square (index + 1)) := by
          field_simp
          ring
        have part : (series : ℝ) / unit ≤ 1 := (div_le_one positive).mpr bounded
        rw [split]
        refine (abs_add_le _ _).trans (add_le_add ?_ ?_)
        · rw [abs_mul, abs_of_nonneg (by positivity : (0 : ℝ) ≤ series / unit)]
          exact mul_le_one₀ near (by positivity) part
        · rw [abs_mul, abs_of_nonneg nonnegative, div_eq_mul_one_div _ (64 : ℝ), mul_comm]
          exact mul_le_mul behind atMost nonnegative (by positivity)
      rw [seriesFrom, Nat.cast_sub (term_enough (by omega) small terms),
        tail_eq nonnegative (by linarith) index, pow_succ, ← div_div]
      have whole : unit * (1 / (2 * (index : ℝ) + 1) - square * tail square (index + 1)) =
          unit / (2 * index + 1) - square * (unit * tail square (index + 1)) := by
        field_simp
      rw [whole]
      rw [abs_le] at first rest product ⊢
      constructor <;> linarith [first.1, first.2, rest.1, rest.2, product.1, product.2]

end Terms

/-- The series is that of the angle, up to a few units. -/
theorem ofSmallTangent_near {tangent : ℕ} (small : tangent ≤ 2 ^ 197) :
    |(ofSmallTangent tangent : ℝ) - exactAngle tangent| ≤ 100 := by
  have positive := unit_pos
  have value : (unit : ℝ) = 2 ^ 200 := by exact_mod_cast unit_eq_pow
  have whole : 0 < unit := by rw [unit_eq_pow]; positivity
  have eighth : (tangent : ℝ) / unit ≤ 1 / 8 := by
    have digits : (tangent : ℝ) ≤ 2 ^ 197 := by exact_mod_cast small
    rw [div_le_iff₀ positive, value]
    exact digits.trans (by norm_num)
  have nonnegative : (0 : ℝ) ≤ tangent / unit := by positivity
  have squared : |((tangent * tangent / unit : ℕ) : ℝ) - unit * (tangent / unit) ^ 2| ≤ 1 := by
    have floor := floor_near (tangent * tangent) unit whole
    have same : unit * (tangent / unit : ℝ) ^ 2 = (tangent * tangent : ℕ) / unit := by
      push_cast
      field_simp
    rwa [same]
  have terms := seriesFrom_near squared (by positivity) (by nlinarith) (square_le small)
    0 32 (by omega)
  have few : 4 + 2 * (unit : ℝ) / 64 ^ 32 = 516 := by
    rw [value]
    norm_num
  rw [few] at terms
  set series := seriesFrom (tangent * tangent / unit) 0 32
  set total := tail ((tangent / unit : ℝ) ^ 2) 0
  have floor := floor_near (tangent * series) unit whole
  push_cast at floor
  have angle : exactAngle tangent = tangent * total := by
    rw [exactAngle, arctan_eq_tail nonnegative (by linarith)]
    change unit * (tangent / unit * total) = tangent * total
    field_simp
  have product : |(tangent * series : ℝ) / unit - tangent * total| ≤ 1 / 8 * 516 := by
    have split : (tangent * series : ℝ) / unit - tangent * total =
        tangent / unit * (series - unit * total) := by
      field_simp
    rw [split, abs_mul, abs_of_nonneg nonnegative]
    exact mul_le_mul eighth terms (abs_nonneg _) (by norm_num)
  have computed : ofSmallTangent tangent = tangent * series / unit := rfl
  rw [computed, angle]
  have legs := abs_sub_le (((tangent * series / unit : ℕ)) : ℝ) (tangent * series / unit)
    (tangent * total)
  linarith

/-- The angle of a cosine, up to some thousands of units. -/
theorem ofCosine_near {cosine : ℕ} (apart : cosine + 2 ^ 147 ≤ unit) :
    |(ofCosine cosine : ℝ) - unit * arccos (cosine / unit)| ≤ 2 ^ 12 := by
  let first := root (unit * unit - cosine * cosine) * unit / (unit + cosine)
  let second := halfTangent first
  let third := halfTangent second
  let fourth := halfTangent third
  let last := halfTangent fourth
  have small : last ≤ 2 ^ 197 :=
    halfTangent_le 197 (halfTangent_le 198 (halfTangent_le 199
      (halfTangent_le 200 (tangent_bounds apart).2)))
  have computed : ofCosine cosine = 2 * (16 * ofSmallTangent last) := rfl
  have start := abs_le.mp (halfAngle_near ((Nat.le_add_right _ _).trans apart))
  have once := abs_le.mp (halfTangent_near first)
  have twice := abs_le.mp (halfTangent_near second)
  have thrice := abs_le.mp (halfTangent_near third)
  have often := abs_le.mp (halfTangent_near fourth)
  have found := abs_le.mp (ofSmallTangent_near small)
  rw [computed]
  push_cast
  rw [abs_le]
  constructor <;>
    linarith [start.1, start.2, once.1, once.2, twice.1, twice.2, thrice.1, thrice.2, often.1,
      often.2, found.1, found.2]

/-- Angles of cosines that are a place of theirs apart are further apart than the platform can
bring them together. -/
theorem ofCosine_apart {cosine larger : ℕ} (apart : cosine + 2 ^ 147 ≤ larger)
    (below : larger + 2 ^ 147 ≤ unit) :
    ofCosine larger + tie (ofCosine larger) ≤ ofCosine cosine - tie (ofCosine cosine) := by
  have positive := unit_pos
  have value : (unit : ℝ) = 2 ^ 200 := by exact_mod_cast unit_eq_pow
  have here := abs_le.mp (ofCosine_near below)
  have lower : cosine + 2 ^ 147 ≤ unit := by omega
  have there := abs_le.mp (ofCosine_near lower)
  have ordered : (cosine : ℝ) / unit ≤ larger / unit :=
    div_le_div_of_nonneg_right (by exact_mod_cast (by omega : cosine ≤ larger)) positive.le
  have atMost : (larger : ℝ) / unit ≤ 1 := by
    rw [div_le_one positive]
    exact_mod_cast (by omega : larger ≤ unit)
  have distance := sub_le_arccos_sub (by positivity) ordered atMost
  have units : (2 : ℝ) ^ 147 ≤ unit * (larger / unit - cosine / unit) := by
    have gap : (cosine : ℝ) + 2 ^ 147 ≤ larger := by exact_mod_cast apart
    have same : unit * ((larger : ℝ) / unit - cosine / unit) = larger - cosine := by field_simp
    linarith
  have further := units.trans (mul_le_mul_of_nonneg_left distance positive.le)
  have order : ofCosine larger + 2 ^ 147 ≤ ofCosine cosine + 2 ^ 13 := by
    have real : (ofCosine larger : ℝ) + 2 ^ 147 ≤ ofCosine cosine + 2 ^ 13 := by
      rw [mul_sub] at further
      linarith [here.2, there.1]
    exact_mod_cast real
  have most : ofCosine cosine ≤ 2 ^ 201 := by
    have quarter : arccos (cosine / unit) ≤ 1.6 := by
      have right := Real.arccos_le_pi_div_two.mpr (by positivity : (0 : ℝ) ≤ cosine / unit)
      linarith [Real.pi_lt_d2]
    have real : (ofCosine cosine : ℝ) ≤ 2 ^ 201 := by
      have scaled := mul_le_mul_of_nonneg_left quarter positive.le
      rw [value] at scaled there
      linarith [there.2]
    exact_mod_cast real
  have small := tie_le (ofCosine larger)
  have smallToo := tie_le (ofCosine cosine)
  omega

end Units

end GantryCode.Angle
