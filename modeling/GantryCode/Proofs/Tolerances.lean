import GantryCode.Proofs.AngleOrder
import GantryCode.Proofs.SegmentCounts

namespace GantryCode

/-! How many chords an arc takes with one tolerance and with a looser one.

With a looser tolerance below the radius the ratio is no smaller, the cosine no greater, the step
no narrower and the count no greater, through all roundings. From the radius on the step is a
quarter turn, whatever the tolerance. A tolerance of somewhat less than the radius allows a wider
step than that, so the only tolerances that are looser and take more chords are those beyond it.
-/

open Decimal (IsFinite signedValue)

namespace Binary64

open Float.Model.UnpackedFloat (Sign)

variable {x : Float} {count : ℤ}

theorem ceilingOf_eq (sign : Sign) (mantissa : ℕ) (exponent : ℤ) :
    ceilingOf sign mantissa exponent = ⌈signedValue sign (mantissa * 2 ^ exponent)⌉ := by
  have signed : signedValue sign (mantissa * 2 ^ exponent) =
      (sign.apply (mantissa : ℤ) : ℤ) * 2 ^ exponent := by
    rw [Decimal.signedValue_mul, ← Decimal.signedValue_cast, Int.cast_natCast]
  rw [signed]
  cases exponent with
  | ofNat shift =>
      have whole : ((sign.apply (mantissa : ℤ) : ℤ) : ℚ) * 2 ^ Int.ofNat shift =
          (sign.apply ((mantissa * Nat.pow 2 shift : ℕ) : ℤ) : ℤ) := by
        rw [Int.ofNat_eq_natCast, zpow_natCast]
        cases sign with
        | positive => exact_mod_cast rfl
        | negative =>
            change ((-(mantissa : ℤ) : ℤ) : ℚ) * 2 ^ shift = (-((mantissa * 2 ^ shift : ℕ) : ℤ) : ℤ)
            push_cast
            ring
      rw [whole, Int.ceil_intCast]
      rfl
  | negSucc shift =>
      have fraction : ((sign.apply (mantissa : ℤ) : ℤ) : ℚ) * 2 ^ Int.negSucc shift =
          (sign.apply (mantissa : ℤ) : ℤ) / (Nat.pow 2 (shift + 1) : ℕ) := by
        have divisor : ((Nat.pow 2 (shift + 1) : ℕ) : ℚ) = 2 ^ (shift + 1) := by exact_mod_cast rfl
        rw [zpow_negSucc, ← div_eq_mul_inv, divisor]
      rw [fraction, Rat.ceil_intCast_div_natCast]
      rfl

/-- A finite number has a ceiling, which is that of its value. -/
theorem ceiling_eq (finite : IsFinite x) : ceiling x = .ok ⌈exactValue x⌉ := by
  rw [ceiling, exactValue]
  rcases finite_cases finite with ⟨sign, parts⟩ | ⟨sign, mantissa, exponent, positive, parts⟩
  · rw [parts]
    exact congrArg Except.ok Int.ceil_zero.symm
  · rw [parts]
    exact congrArg Except.ok (ceilingOf_eq sign mantissa exponent)

theorem isFinite_of_ceiling (counted : ceiling x = .ok count) : IsFinite x := by
  rw [ceiling] at counted
  rw [IsFinite, Float.isFinite, Float.Model.isFinite]
  cases parts : x.toModel.unpack with
  | notANumber =>
      rw [parts] at counted
      cases counted
  | infinity sign =>
      rw [parts] at counted
      cases counted
  | zero sign => rfl
  | finite sign mantissa exponent positive => rfl

end Binary64

namespace Arc

open Binary64 (SameValue exactValue exactValue_one exactValue_two exactValue_zero exactValue_abs
  isFinite_abs lt_iff_exactValue)

variable {radius sweep tight loose tolerance narrow wide : Float} {limit many few : ℤ}

section Ratios

/-- A ratio of nothing leaves one. -/
theorem rest_of_none (none : SameValue (tolerance / radius) 0) : 1 - tolerance / radius = 1 := by
  have same : SameValue (1 - tolerance / radius) (1 - 0) := SameValue.sub (.refl 1) none
  have whole : (1 : Float) - 0 = 1 := by decide
  rw [whole] at same
  rcases same with equal | ⟨-, sign, parts⟩
  · exact equal
  · cases sign <;> cases parts

/-- The parts of two calls that may both return: the radius and a tolerance below it. -/
structure Within (radius tolerance : Float) : Prop where
  finite : IsFinite radius
  tolerates : IsFinite tolerance
  above : 0 < tolerance
  less : tolerance < radius
  remains : 1 - tolerance / radius ≠ 1

namespace Within

theorem bounds (within : Within radius tolerance) : IsFinite (1 - tolerance / radius) ∧
    0 ≤ exactValue (1 - tolerance / radius) ∧ exactValue (1 - tolerance / radius) < 1 :=
  cosine_bounds within.finite within.tolerates within.above within.less
    fun vanishes => within.remains vanishes.2

theorem ratio_pos (within : Within radius tolerance) : 0 < exactValue (tolerance / radius) := by
  obtain ⟨ratio, atLeast, -⟩ :=
    ratio_bounds within.finite within.tolerates within.above within.less
  exact atLeast.lt_of_ne fun none => within.remains
    (rest_of_none (Binary64.sameValue_of_exactValue ratio (by decide) none.symm))

/-- A ratio of one leaves nothing. -/
theorem rest_of_full (within : Within radius tolerance)
    (full : exactValue (tolerance / radius) = 1) : 1 - tolerance / radius = 0 := by
  obtain ⟨ratio, -, -⟩ :=
    ratio_bounds within.finite within.tolerates within.above within.less
  have one : tolerance / radius = 1 :=
    Binary64.eq_of_exactValue ratio (by decide) (exactValue_one ▸ one_pos)
      (full.trans exactValue_one.symm)
  have none : (1 : Float) - 1 = 0 := by decide
  rw [one, none]

theorem onGrid (within : Within radius tolerance) :
    Binary64.OnGrid (1 - tolerance / radius) := by
  obtain ⟨ratio, -, atMost⟩ :=
    ratio_bounds within.finite within.tolerates within.above within.less
  rcases atMost.eq_or_lt with full | less
  · rw [within.rest_of_full full]
    exact ⟨0, by simp⟩
  · exact (Binary64.onGrid_rest ratio within.ratio_pos less).1

theorem angle_bounds (within : Within radius tolerance) :
    IsFinite (Binary64.arccos (1 - tolerance / radius)) ∧
      0 < exactValue (Binary64.arccos (1 - tolerance / radius)) := by
  obtain ⟨cosine, least, below⟩ := within.bounds
  obtain ⟨angle, low, -⟩ := Binary64.arccos_bounds cosine least below
  exact ⟨angle, lt_of_lt_of_le (by positivity) low⟩

end Within

/-- The ratio grows with the tolerance. -/
theorem ratio_mono (within : Within radius tight) (also : Within radius loose)
    (ordered : exactValue tight ≤ exactValue loose) :
    exactValue (tight / radius) ≤ exactValue (loose / radius) := by
  have positive := (positive_iff within.tolerates).mp within.above
  have positiveToo := (positive_iff also.tolerates).mp also.above
  have radial := positive.trans ((lt_iff_exactValue within.tolerates within.finite).mp within.less)
  exact ((Binary64.isResult_div within.tolerates within.finite positive radial).isNearestNumber
    (div_pos positive radial)).mono
      ((Binary64.isResult_div also.tolerates also.finite positiveToo radial).isNearestNumber
        (div_pos positiveToo radial)) (div_pos positive radial)
      (div_le_div_of_nonneg_right ordered radial.le)
      (ratio_bounds within.finite within.tolerates within.above within.less).1
      (ratio_bounds also.finite also.tolerates also.above also.less).1

/-- The angle whose cosine is what is left of one grows with the tolerance. -/
theorem angle_mono (within : Within radius tight) (also : Within radius loose)
    (ordered : exactValue tight ≤ exactValue loose) :
    exactValue (Binary64.arccos (1 - tight / radius)) ≤
      exactValue (Binary64.arccos (1 - loose / radius)) := by
  have ratios := ratio_mono within also ordered
  obtain ⟨ratio, -, -⟩ := ratio_bounds within.finite within.tolerates within.above within.less
  obtain ⟨ratioToo, -, atMost⟩ := ratio_bounds also.finite also.tolerates also.above also.less
  rcases ratios.eq_or_lt with same | smaller
  · rw [Binary64.eq_of_exactValue ratio ratioToo also.ratio_pos same]
  · have below := smaller.trans_le atMost
    obtain ⟨-, above⟩ := Binary64.onGrid_rest ratio within.ratio_pos below
    obtain ⟨cosine, -, less⟩ := within.bounds
    refine Binary64.arccos_antitone also.bounds.1 cosine also.onGrid within.onGrid ?_ above less
    rcases atMost.eq_or_lt with full | part
    · rw [also.rest_of_full full, exactValue_zero]
      exact above.le
    · have rest {x : Float} (finite : IsFinite x) (positive : 0 < exactValue x)
          (less : exactValue x < 1) : Binary64.IsNearestNumber (1 - exactValue x) (1 - x) := by
        have result := Binary64.isResult_sub (by decide : IsFinite 1) finite positive
          (exactValue_one ▸ less)
        rw [exactValue_one] at result
        exact result.isNearestNumber (sub_pos.mpr less)
      exact (rest ratioToo also.ratio_pos part).mono (rest ratio within.ratio_pos below)
        (sub_pos.mpr part) (by linarith) also.bounds.1 cosine

end Ratios

section Counts

/-- Twice an angle. -/
theorem doubled_mono {angle wider : Float} (finite : IsFinite angle) (also : IsFinite wider)
    (positive : 0 < exactValue angle) (ordered : exactValue angle ≤ exactValue wider)
    (result : IsFinite (2 * angle)) (resultToo : IsFinite (2 * wider)) :
    exactValue (2 * angle) ≤ exactValue (2 * wider) := by
  have two : IsFinite 2 := by decide
  have above : 0 < exactValue 2 := exactValue_two ▸ two_pos
  exact ((Binary64.isResult_mul two finite above positive).isNearestNumber
    (mul_pos above positive)).mono
      ((Binary64.isResult_mul two also above (positive.trans_le ordered)).isNearestNumber
        (mul_pos above (positive.trans_le ordered))) (mul_pos above positive)
      (mul_le_mul_of_nonneg_left ordered above.le) result resultToo

/-- Only a finite sweep has a finite number of steps. -/
theorem isFinite_of_steps (finite : IsFinite narrow) (positive : 0 < narrow)
    (quotient : IsFinite (sweep.abs / narrow)) : IsFinite sweep := by
  obtain ⟨mantissa, exponent, nonzero, parts, -⟩ :=
    Binary64.positive_parts finite ((positive_iff finite).mp positive)
  have divided : sweep.abs / narrow = .ofModel (.pack (.div .binary64 sweep.toModel.unpack.abs
      (.finite .positive mantissa exponent nonzero))) := by
    rw [← Binary64.unpack_abs, ← parts]
    rfl
  rw [divided] at quotient
  rw [IsFinite, Float.isFinite, Float.Model.isFinite]
  cases held : sweep.toModel.unpack with
  | notANumber =>
      rw [held] at quotient
      change IsFinite (.ofModel (.pack .notANumber)) at quotient
      exact absurd quotient (by decide)
  | infinity sign =>
      rw [held] at quotient
      change IsFinite (.ofModel (.pack (.infinity .positive))) at quotient
      exact absurd quotient (by decide)
  | zero sign => rfl
  | finite sign mantissa exponent positive => rfl

theorem steps_antitone (finite : IsFinite narrow) (also : IsFinite wide)
    (above : 0 < exactValue narrow) (ordered : exactValue narrow ≤ exactValue wide)
    (turns : IsFinite sweep) (quotient : IsFinite (sweep.abs / narrow))
    (quotientToo : IsFinite (sweep.abs / wide)) :
    exactValue (sweep.abs / wide) ≤ exactValue (sweep.abs / narrow) := by
  have aboveToo := above.trans_le ordered
  rcases (exactValue_abs sweep ▸ abs_nonneg (exactValue sweep) :
      0 ≤ exactValue sweep.abs).eq_or_lt with still | moves
  · obtain ⟨sign, parts⟩ := steps_of_still finite ((positive_iff finite).mpr above) still.symm turns
    obtain ⟨signToo, partsToo⟩ :=
      steps_of_still also ((positive_iff also).mpr aboveToo) still.symm turns
    rw [Binary64.exactValue_of_zero parts, Binary64.exactValue_of_zero partsToo]
  · have size := div_pos moves aboveToo
    have order := div_le_div_of_nonneg_left moves.le above ordered
    exact ((Binary64.isResult_div (isFinite_abs turns) also moves aboveToo).isNearestNumber
      size).mono ((Binary64.isResult_div (isFinite_abs turns) finite moves above).isNearestNumber
        (size.trans_le order)) size order quotientToo quotient

/-- With a wider step there are no more steps. -/
theorem stepCount_antitone (finite : IsFinite narrow) (also : IsFinite wide)
    (positive : 0 < narrow) (ordered : exactValue narrow ≤ exactValue wide)
    (counted : stepCount narrow sweep limit = .ok many)
    (countedToo : stepCount wide sweep limit = .ok few) : few ≤ many := by
  have above := (positive_iff finite).mp positive
  have positiveToo := (positive_iff also).mpr (above.trans_le ordered)
  rw [stepCount_eq finite positive] at counted
  rw [stepCount_eq also positiveToo] at countedToo
  cases ceiling : Binary64.ceiling (sweep.abs / narrow) with
  | error unbounded =>
      rw [ceiling] at counted
      cases unbounded <;> cases counted
  | ok steps =>
      cases ceilingToo : Binary64.ceiling (sweep.abs / wide) with
      | error unbounded =>
          rw [ceilingToo] at countedToo
          cases unbounded <;> cases countedToo
      | ok stepsToo =>
          rw [ceiling] at counted
          rw [ceilingToo] at countedToo
          cases counted
          cases countedToo
          have quotient := Binary64.isFinite_of_ceiling ceiling
          have quotientToo := Binary64.isFinite_of_ceiling ceilingToo
          have turns : IsFinite sweep := isFinite_of_steps finite positive quotient
          have order : exactValue (sweep.abs / wide) ≤ exactValue (sweep.abs / narrow) :=
            steps_antitone finite also above ordered turns quotient quotientToo
          have ceilings : stepsToo ≤ steps := by
            cases (Binary64.ceiling_eq quotient).symm.trans ceiling
            cases (Binary64.ceiling_eq quotientToo).symm.trans ceilingToo
            exact Int.ceil_mono order
          omega

end Counts

section Switch

/-- The cosine from which on a step is no wider than a quarter turn. -/
def eighthCosine : Float :=
  0.7071067811865476

/-- Where the tolerance reaches the radius the step becomes narrower than it was. -/
def Narrows (radius tight loose : Float) : Prop :=
  tight < radius ∧ radius ≤ loose ∧ 1 - tight / radius < eighthCosine

theorem Within.step_bounds (within : Within radius tolerance) :
    IsFinite (2 * Binary64.arccos (1 - tolerance / radius)) ∧
      2 ^ (-36 : ℤ) ≤ exactValue (2 * Binary64.arccos (1 - tolerance / radius)) ∧
      exactValue (2 * Binary64.arccos (1 - tolerance / radius)) ≤ 2 ^ (7 : ℤ) := by
  obtain ⟨step, stepped, bounds⟩ :=
    widestStep_bounds within.finite within.tolerates within.above
      fun vanishes => within.remains vanishes.2
  cases (widestStep_within within.finite within.tolerates within.above within.less).2.2.symm.trans
    stepped
  exact bounds

/-- From that cosine on a step is no wider. -/
theorem step_le_quarterTurn (within : Within radius tolerance)
    (reached : exactValue eighthCosine ≤ exactValue (1 - tolerance / radius)) :
    exactValue (2 * Binary64.arccos (1 - tolerance / radius)) ≤ exactValue quarterTurn := by
  obtain ⟨cosine, -, less⟩ := within.bounds
  have eighth : IsFinite eighthCosine ∧ 2 ^ (-1 : ℤ) ≤ exactValue eighthCosine := by decide +kernel
  have angles := Binary64.arccos_antitone eighth.1 cosine
    (Binary64.onGrid_of_half eighth.1 eighth.2) within.onGrid reached
    (lt_of_lt_of_le (by positivity) (eighth.2.trans reached)) less
  have turned : Binary64.arccos eighthCosine = 0.7853981633974483 := Binary64.arccos_eighth
  rw [turned] at angles
  have quarter : (2 : Float) * 0.7853981633974483 = quarterTurn := by decide +kernel
  rw [← quarter]
  obtain ⟨angle, positive⟩ := within.angle_bounds
  exact doubled_mono angle (by decide +kernel) positive angles within.step_bounds.1
    (by decide +kernel)

/-- Below it a step is wider by a last place at least. -/
theorem quarterTurn_lt_step (within : Within radius tolerance)
    (missed : exactValue (1 - tolerance / radius) < exactValue eighthCosine) :
    exactValue (2 * 0.7853981633974484) ≤
      exactValue (2 * Binary64.arccos (1 - tolerance / radius)) := by
  obtain ⟨cosine, -, -⟩ := within.bounds
  have past : IsFinite 0.7071067811865475 ∧ 2 ^ (-1 : ℤ) ≤ exactValue 0.7071067811865475 ∧
      exactValue 0.7071067811865475 < 1 := by decide +kernel
  have next : exactValue (1 - tolerance / radius) ≤ exactValue 0.7071067811865475 := by
    obtain ⟨count, value⟩ := within.onGrid
    have eighth : exactValue eighthCosine = (6369051672525772 + 1 : ℕ) * 2 ^ (-53 : ℤ) := by
      decide +kernel
    have before : exactValue 0.7071067811865475 = (6369051672525772 : ℕ) * 2 ^ (-53 : ℤ) := by
      decide +kernel
    rw [value, eighth] at missed
    have counts : count < 6369051672525772 + 1 := by
      exact_mod_cast lt_of_mul_lt_mul_right missed (by positivity)
    rw [value, before]
    refine mul_le_mul_of_nonneg_right ?_ (by positivity)
    exact_mod_cast Nat.le_of_lt_succ counts
  have angles := Binary64.arccos_antitone cosine past.1 within.onGrid
    (Binary64.onGrid_of_half past.1 past.2.1) next
    (lt_of_lt_of_le (by positivity) past.2.1) past.2.2
  rw [Binary64.arccos_past_eighth] at angles
  exact doubled_mono (by decide +kernel) within.angle_bounds.1 (by decide +kernel) angles
    (by decide +kernel) within.step_bounds.1

/-- Beside an infinite radius nothing is left of a tolerance. -/
theorem rest_of_infinite (infinite : radius.toModel.unpack = .infinity .positive)
    (also : IsFinite tolerance) : 1 - tolerance / radius = 1 := by
  have none : Binary64.IsZero (tolerance / radius) := by
    have divided : tolerance / radius = .ofModel (.pack (.div .binary64 tolerance.toModel.unpack
      radius.toModel.unpack)) := rfl
    rw [divided, infinite]
    rcases Binary64.finite_cases also with
      ⟨sign, parts⟩ | ⟨sign, mantissa, exponent, positive, parts⟩
    · rw [parts]
      exact Binary64.isZero_pack _
    · rw [parts]
      exact Binary64.isZero_pack _
  exact rest_of_none (.inr ⟨none, Binary64.isZero_zero⟩)

theorem segmentCount_of_infinite (infinite : radius.toModel.unpack = .infinity .positive)
    (above : 0 < tolerance) (less : tolerance < radius) (sweep : Float) (limit : ℤ) :
    segmentCount radius sweep tolerance limit = .error .divisionByZero := by
  have nonzero : Scalar.isZero radius = false := by
    change Float.Model.UnpackedFloat.beq radius.toModel.unpack (.zero .positive) = false
    rw [infinite]
    rfl
  have unreached : Scalar.atMost radius tolerance = false :=
    decide_eq_false fun reaches => Binary64.not_lt_of_le reaches less
  have divides : Scalar.quotient tolerance radius = .ok (tolerance / radius) := by
    rw [Scalar.quotient, nonzero]
    rfl
  have turned : Scalar.arccos (1 - tolerance / radius) = .ok 0 := by
    rw [rest_of_infinite infinite (Binary64.isFinite_of_lt above less),
      arccos_within (by decide) (by decide), Binary64.arccos_one]
  have stepped : widestStep radius tolerance = .ok (2 * 0) := by
    rw [widestStep, unreached, stepWithin, divides]
    change Scalar.arccos (1 - tolerance / radius) >>= _ = _
    rw [turned]
    rfl
  rw [segmentCount_of_step stepped]
  rfl

/-- A call with a tolerance below the radius returns only where a step is left. -/
theorem within_of_counted (above : 0 < tolerance) (less : tolerance < radius)
    (counted : segmentCount radius sweep tolerance limit = .ok many) : Within radius tolerance := by
  have tolerates := Binary64.isFinite_of_lt above less
  rcases Binary64.finite_or_infinite (Binary64.pos_of_le above (Binary64.le_of_lt less)) with
    finite | infinite
  · refine ⟨finite, tolerates, above, less, fun whole => ?_⟩
    cases (segmentCount_vanishing finite tolerates above ⟨less, whole⟩ sweep limit).symm.trans
      counted
  · cases (segmentCount_of_infinite infinite above less sweep limit).symm.trans counted

theorem within_of_narrows (solid : 0 < radius) (above : 0 < tight)
    (narrows : Narrows radius tight loose) : Within radius tight := by
  obtain ⟨less, -, missed⟩ := narrows
  have tolerates := Binary64.isFinite_of_lt above less
  have remains (whole : 1 - tight / radius = 1) : False := by
    rw [whole] at missed
    exact absurd missed (by decide +kernel)
  rcases Binary64.finite_or_infinite solid with finite | infinite
  · exact ⟨finite, tolerates, above, less, remains⟩
  · exact (remains (rest_of_infinite infinite tolerates)).elim

/-- The count of a step that a call takes. -/
theorem Within.counted (within : Within radius tolerance) (sweep : Float) (limit : ℤ) :
    segmentCount radius sweep tolerance limit =
      stepCount (2 * Binary64.arccos (1 - tolerance / radius)) sweep limit :=
  segmentCount_of_step
    (widestStep_within within.finite within.tolerates within.above within.less).2.2 sweep limit

/-- Below the radius a looser tolerance takes no more chords. -/
theorem count_below (within : Within radius tight) (also : Within radius loose)
    (ordered : tight ≤ loose) (counted : segmentCount radius sweep tight limit = .ok many)
    (countedToo : segmentCount radius sweep loose limit = .ok few) : few ≤ many := by
  have values := Binary64.exactValue_mono within.tolerates also.tolerates ordered
  obtain ⟨step, least, -⟩ := within.step_bounds
  obtain ⟨angle, positive⟩ := within.angle_bounds
  have steps := doubled_mono angle also.angle_bounds.1 positive (angle_mono within also values)
    step also.step_bounds.1
  rw [within.counted] at counted
  rw [also.counted] at countedToo
  exact stepCount_antitone step also.step_bounds.1 (positive_of_least step least) steps
    counted countedToo

/-- Across the radius it depends on which of the two steps is wider. -/
theorem count_across (within : Within radius tight) (reaches : radius ≤ loose)
    (counted : segmentCount radius sweep tight limit = .ok many)
    (countedToo : segmentCount radius sweep loose limit = .ok few) :
    (exactValue eighthCosine ≤ exactValue (1 - tight / radius) → few ≤ many) ∧
      (exactValue (1 - tight / radius) < exactValue eighthCosine → many ≤ few) := by
  obtain ⟨step, least, -⟩ := within.step_bounds
  have quarter : IsFinite quarterTurn ∧ (0 : Float) < quarterTurn ∧
      exactValue quarterTurn ≤ exactValue (2 * 0.7853981633974484) := by decide +kernel
  rw [within.counted] at counted
  rw [segmentCount_of_step (widestStep_reached reaches)] at countedToo
  constructor
  · intro reached
    exact stepCount_antitone step quarter.1 (positive_of_least step least)
      (step_le_quarterTurn within reached) counted countedToo
  · intro missed
    exact stepCount_antitone quarter.1 step quarter.2.1
      (quarter.2.2.trans (quarterTurn_lt_step within missed)) countedToo counted

theorem stepCount_of_finite (finite : IsFinite narrow) (positive : 0 < narrow)
    (quotient : IsFinite (sweep.abs / narrow)) (limit : ℤ) :
    stepCount narrow sweep limit = .ok (max 1 (min ⌈exactValue (sweep.abs / narrow)⌉ limit)) := by
  rw [stepCount_eq finite positive, Binary64.ceiling_eq quotient]

/-- A sweep of one step is a single one. -/
theorem stepCount_self (finite : IsFinite narrow) (positive : 0 < narrow) :
    stepCount narrow narrow 2 = .ok 1 := by
  have above := (positive_iff finite).mp positive
  have size : exactValue narrow.abs = exactValue narrow := by
    rw [exactValue_abs, abs_of_pos above]
  have whole : exactValue narrow.abs / exactValue narrow = ((1 : ℤ) : ℚ) * 2 ^ (0 : ℤ) := by
    rw [size, div_self above.ne']
    norm_num
  have result := Binary64.isResult_div (isFinite_abs finite) finite (size ▸ above) above
  rw [whole] at result
  obtain ⟨quotient, -⟩ := result.isRounded.below 1 (by decide) (by decide) (by norm_num)
  have place : Binary64.placeOf (((1 : ℤ) : ℚ) * 2 ^ (0 : ℤ)) ≤ 0 := by
    simp [Binary64.placeOf, Int.log_one_right]
  have one := (result.isNearestNumber (by norm_num)).exact place quotient
  rw [stepCount_of_finite finite positive quotient, one]
  norm_num

/-- A step beyond a quarter turn is a sweep of two quarter turns. -/
theorem stepCount_beyond (finite : IsFinite wide)
    (beyond : exactValue (2 * 0.7853981633974484) ≤ exactValue wide)
    (most : exactValue wide ≤ 2 ^ (7 : ℤ)) : stepCount quarterTurn wide 2 = .ok 2 := by
  have quarter : IsFinite quarterTurn ∧ (0 : Float) < quarterTurn ∧
      (1 : ℚ) ≤ exactValue quarterTurn := by decide +kernel
  have next : IsFinite (2 * 0.7853981633974484) ∧ 0 < exactValue (2 * 0.7853981633974484) ∧
      IsFinite (2 * 0.7853981633974484 / quarterTurn) ∧
      1 < exactValue (2 * 0.7853981633974484 / quarterTurn) := by decide +kernel
  have positive : 0 < exactValue quarterTurn := lt_of_lt_of_le one_pos quarter.2.2
  have above := next.2.1.trans_le beyond
  have size : exactValue wide.abs = exactValue wide := by
    rw [exactValue_abs, abs_of_pos above]
  have result := Binary64.isResult_div (isFinite_abs finite) quarter.1 (size ▸ above) positive
  rw [size] at result
  have few : exactValue wide / exactValue quarterTurn < 2 ^ (8 : ℤ) :=
    ((div_le_self above.le quarter.2.2).trans most).trans_lt (by norm_num)
  obtain ⟨quotient, -⟩ := result.isRounded.below 8 (by decide) (by decide) few
  have order := ((Binary64.isResult_div next.1 quarter.1 next.2.1 positive).isNearestNumber
    (div_pos next.2.1 positive)).mono (result.isNearestNumber (div_pos above positive))
      (div_pos next.2.1 positive) (div_le_div_of_nonneg_right beyond positive.le) next.2.2.1
      quotient
  have many : 1 < ⌈exactValue (wide.abs / quarterTurn)⌉ := by
    rw [Int.lt_ceil, Int.cast_one]
    exact next.2.2.2.trans_le order
  rw [stepCount_of_finite quarter.1 quarter.2.1 quotient, min_eq_right many,
    max_eq_right (by decide)]

/-- A looser tolerance takes no more chords, for every sweep and limit for which both calls
return, unless it reaches the radius and the tighter one allows a step of more than a quarter
turn. Then it takes no fewer, and for some sweep it takes more. -/
theorem segmentCount_antitone (solid : 0 < radius) (above : 0 < tight) (ordered : tight ≤ loose) :
    ((∀ sweep limit many few, 1 ≤ limit → segmentCount radius sweep tight limit = .ok many →
        segmentCount radius sweep loose limit = .ok few → few ≤ many) ↔
      ¬Narrows radius tight loose) ∧
    (Narrows radius tight loose → ∀ sweep limit many few, 1 ≤ limit →
      segmentCount radius sweep tight limit = .ok many →
      segmentCount radius sweep loose limit = .ok few → many ≤ few) := by
  have number := Binary64.isNumber_of_pos solid
  have numberToo := Binary64.isNumber_of_pos above
  have aboveToo := Binary64.pos_of_le above ordered
  have eighth : IsFinite eighthCosine := by decide +kernel
  have values {x : Float} (within : Within radius x) :
      1 - x / radius < eighthCosine ↔ exactValue (1 - x / radius) < exactValue eighthCosine :=
    lt_iff_exactValue within.bounds.1 eighth
  refine ⟨⟨fun law narrows => ?_, fun widens sweep limit many few _ counted countedToo => ?_⟩,
    fun narrows sweep limit many few _ counted countedToo => ?_⟩
  · have within := within_of_narrows solid above narrows
    obtain ⟨less, reaches, missed⟩ := narrows
    obtain ⟨step, least, most⟩ := within.step_bounds
    have single := stepCount_self step (positive_of_least step least)
    have double := stepCount_beyond step
      (quarterTurn_lt_step within ((values within).mp missed)) most
    have count := law (2 * Binary64.arccos (1 - tight / radius)) 2 1 2 (by decide)
      ((within.counted _ _).trans single)
      ((segmentCount_of_step (widestStep_reached reaches) _ _).trans double)
    exact absurd count (by decide)
  · rcases Binary64.le_or_lt number numberToo with reached | less
    · have reaches := Binary64.le_of_le solid reached ordered
      rw [segmentCount_of_step (widestStep_reached reached)] at counted
      rw [segmentCount_of_step (widestStep_reached reaches)] at countedToo
      cases counted.symm.trans countedToo
      exact le_rfl
    · have within := within_of_counted above less counted
      rcases Binary64.le_or_lt number (Binary64.isNumber_of_pos aboveToo) with reaches | lessToo
      · refine (count_across within reaches counted countedToo).1 (not_lt.mp fun missed => ?_)
        exact widens ⟨less, reaches, (values within).mpr missed⟩
      · exact count_below within (within_of_counted aboveToo lessToo countedToo) ordered counted
          countedToo
  · obtain ⟨less, reaches, missed⟩ := narrows
    have within := within_of_counted above less counted
    exact (count_across within reaches counted countedToo).2 ((values within).mp missed)

/-- A tolerance beyond the radius and one of an eighth of it. -/
theorem segmentCount_of_looser :
    ((0 : Float) < 1 ∧ (0 : Float) < 0.125 ∧ (0.125 : Float) ≤ 2) ∧ ¬Narrows 1 0.125 2 ∧
      ∃ many few, segmentCount (1 : Float) 3 0.125 1000 = .ok many ∧
        segmentCount (1 : Float) 3 2 1000 = .ok few ∧ few ≤ many := by
  have solid : (0 : Float) < 1 := by decide
  have above : (0 : Float) < 0.125 := by decide
  have ordered : (0.125 : Float) ≤ 2 := by decide
  have widens : ¬Narrows 1 0.125 2 := fun narrows => absurd narrows.2.2 (by decide +kernel)
  have within : Within 1 0.125 := ⟨by decide, by decide, above, by decide, by decide⟩
  have found : Angle.ofNumber? (1 - 0.125 / 1) =
      some (Angle.ofCosine (7881299347898368 * 2 ^ 147)) := by decide +kernel
  have angle : Binary64.arccos (1 - 0.125 / 1) = 0.5053605102841573 := by
    rw [Binary64.arccos_eq found]
    exact Angle.towards_settled (by decide +kernel) (by decide +kernel) (by decide +kernel) _
  have counted : segmentCount (1 : Float) 3 0.125 1000 = .ok 3 := by
    rw [within.counted, angle]
    decide +kernel
  have countedToo : segmentCount (1 : Float) 3 2 1000 = .ok 2 := by decide +kernel
  exact ⟨⟨solid, above, ordered⟩, widens, 3, 2, counted, countedToo,
    (segmentCount_antitone solid above ordered).1.mpr widens 3 1000 3 2 (by decide) counted
      countedToo⟩

/-- Almost half a turn about a radius of one takes one chord with a tolerance of a little less,
but two with a tolerance of the radius. -/
theorem quarter_turns_take_more :
    ((0 : Float) < 1 ∧ (0 : Float) < 0.99 ∧ (0.99 : Float) ≤ 1) ∧
      segmentCount (1 : Float) 3.1 0.99 1000 = .ok 1 ∧
      segmentCount (1 : Float) 3.1 1 1000 = .ok 2 := by
  have within : Within 1 0.99 :=
    ⟨by decide, by decide, by decide, by decide, by decide +kernel⟩
  have found : Angle.ofNumber? (1 - 0.99 / 1) =
      some (Angle.ofCosine (90071992547410 * 2 ^ 147)) := by decide +kernel
  have angle : Binary64.arccos (1 - 0.99 / 1) = 1.5607961601207294 := by
    rw [Binary64.arccos_eq found]
    exact Angle.towards_settled (by decide +kernel) (by decide +kernel) (by decide +kernel) _
  refine ⟨⟨by decide, by decide, by decide⟩, ?_, by decide +kernel⟩
  rw [within.counted, angle]
  decide +kernel

end Switch

end Arc

end GantryCode
