import GantryCode.Arc
import GantryCode.Proofs.Angles
import GantryCode.Proofs.Opposites

namespace GantryCode

/-! How many chords an arc takes.

The widest step comes from the cosine of half of it, which is one less the tolerance in parts of
the radius. As long as that is a number below one, the step is moderate, and only for a sweep of
astronomical size there are more steps than a number can tell. If nothing is left of the
tolerance beside the radius, the cosine is one and the step is zero.
-/

open Binary64 (SameValue exactValue exactValue_zero exactValue_one exactValue_two
  isFinite_abs exactValue_abs lt_iff_exactValue)
open Decimal (IsFinite)

namespace Arc

variable {radius sweep tolerance step : Float} {limit : ℤ}

/-- The tolerance is so small that nothing is left of it beside the radius. -/
def Vanishes (radius tolerance : Float) : Prop :=
  tolerance < radius ∧ 1 - tolerance / radius = 1

/-- There are more steps than a number can tell. -/
def Overflows (radius sweep tolerance : Float) : Prop :=
  ∃ step, widestStep radius tolerance = .ok step ∧ 0 < step ∧ (sweep.abs / step).isInf = true

section Steps

theorem positive_iff (finite : IsFinite radius) : 0 < radius ↔ 0 < exactValue radius :=
  lt_iff_exactValue (by decide) finite

theorem not_beq_zero (finite : IsFinite radius) (positive : 0 < radius) :
    Scalar.isZero radius = false := by
  obtain ⟨mantissa, exponent, nonzero, parts, -⟩ :=
    Binary64.positive_parts finite ((positive_iff finite).mp positive)
  change Float.Model.UnpackedFloat.beq radius.toModel.unpack (.zero .positive) = false
  rw [parts]
  rfl

/-- The tolerance in parts of a larger radius. -/
theorem ratio_bounds (finite : IsFinite radius) (also : IsFinite tolerance) (above : 0 < tolerance)
    (less : tolerance < radius) : IsFinite (tolerance / radius) ∧
      0 ≤ exactValue (tolerance / radius) ∧ exactValue (tolerance / radius) ≤ 1 := by
  have small := (lt_iff_exactValue also finite).mp less
  have positive := (positive_iff also).mp above
  have rounded := Binary64.isRounded_div also finite positive (positive.trans small)
  refine rounded.below 0 (by decide) (by decide) ?_
  rw [zpow_zero, div_lt_one (positive.trans small)]
  exact small

/-- What is left of one after a number from zero to one. -/
theorem rest_bounds (finite : IsFinite radius) (atLeast : 0 ≤ exactValue radius)
    (atMost : exactValue radius ≤ 1) : IsFinite (1 - radius) ∧ 0 ≤ exactValue (1 - radius) ∧
      exactValue (1 - radius) ≤ 1 := by
  rcases atLeast.eq_or_lt with none | above
  · have same : SameValue (1 - radius) (1 - 0) := SameValue.sub (.refl 1)
      (Binary64.sameValue_of_exactValue finite (by decide) (none.symm.trans (by decide)))
    have whole : (1 : Float) - 0 = 1 := by decide
    rw [whole] at same
    rw [same.exactValue_eq, exactValue_one]
    exact ⟨same.symm.isFinite (by decide), zero_le_one, le_rfl⟩
  · rcases atMost.eq_or_lt with full | less
    · have same : SameValue (1 - radius) (1 - 1) := SameValue.sub (.refl 1)
        (Binary64.sameValue_of_exactValue finite (by decide) (full.trans exactValue_one.symm))
      have none : (1 : Float) - 1 = 0 := by decide
      rw [none] at same
      rw [same.exactValue_eq, exactValue_zero]
      exact ⟨same.symm.isFinite (by decide), le_rfl, zero_le_one⟩
    · have rounded := Binary64.isRounded_sub (by decide : IsFinite 1) finite (exactValue_one ▸ less)
      refine rounded.below 0 (by decide) (by decide) ?_
      rw [exactValue_one, zpow_zero]
      linarith

theorem arccos_within {cosine : Float} (notBelow : ¬cosine < -1) (notAbove : ¬1 < cosine) :
    Scalar.arccos cosine = .ok (Binary64.arccos cosine) := by
  have angle : Scalar.arccos? cosine = some (Binary64.arccos cosine) := by
    change (if _ then none else some _) = _
    simp [notBelow, notAbove]
  rw [Scalar.arccos, angle]

theorem widestStep_reached (reaches : radius ≤ tolerance) :
    widestStep radius tolerance = .ok quarterTurn :=
  if_pos (decide_eq_true reaches)

/-- The cosine of half a step is in the range of cosines, so it has an angle. -/
theorem widestStep_within (finite : IsFinite radius) (also : IsFinite tolerance)
    (above : 0 < tolerance) (less : tolerance < radius) :
    -1 ≤ 1 - tolerance / radius ∧ 1 - tolerance / radius ≤ 1 ∧
      widestStep radius tolerance = .ok (2 * Binary64.arccos (1 - tolerance / radius)) := by
  obtain ⟨ratio, atLeast, atMost⟩ := ratio_bounds finite also above less
  obtain ⟨cosine, least, most⟩ := rest_bounds ratio atLeast atMost
  have notBelow : ¬1 - tolerance / radius < -1 := by
    rw [lt_iff_exactValue cosine (by decide), Binary64.exactValue_neg, exactValue_one]
    linarith
  have notAbove : ¬1 < 1 - tolerance / radius := by
    rw [lt_iff_exactValue (by decide) cosine, exactValue_one]
    exact not_lt.mpr most
  have number := Binary64.isNaN_of_isFinite cosine
  have low : -1 ≤ 1 - tolerance / radius :=
    (Binary64.le_or_lt (by decide) number).resolve_right notBelow
  have high : 1 - tolerance / radius ≤ 1 :=
    (Binary64.le_or_lt number (by decide)).resolve_right notAbove
  refine ⟨low, high, ?_⟩
  have positive : 0 < radius := by
    rw [positive_iff finite]
    exact ((positive_iff also).mp above).trans ((lt_iff_exactValue also finite).mp less)
  have unreached : Scalar.atMost radius tolerance = false :=
    decide_eq_false fun reaches => Binary64.not_lt_of_le reaches less
  have divides : Scalar.quotient tolerance radius = .ok (tolerance / radius) := by
    rw [Scalar.quotient, not_beq_zero finite positive]
    rfl
  have turned : Scalar.arccos (1 - tolerance / radius) =
      .ok (Binary64.arccos (1 - tolerance / radius)) := arccos_within notBelow notAbove
  rw [widestStep, unreached, stepWithin, divides]
  change Scalar.arccos (1 - tolerance / radius) >>= _ = _
  rw [turned]
  rfl

theorem widestStep_vanishing (finite : IsFinite radius) (also : IsFinite tolerance)
    (above : 0 < tolerance) (vanishes : Vanishes radius tolerance) :
    widestStep radius tolerance = .ok 0 := by
  obtain ⟨less, whole⟩ := vanishes
  rw [(widestStep_within finite also above less).2.2, whole, Binary64.arccos_one]
  decide

theorem positive_of_least (finite : IsFinite step) (least : 2 ^ (-36 : ℤ) ≤ exactValue step) :
    0 < step :=
  (positive_iff finite).mpr (lt_of_lt_of_le (by positivity) least)

theorem quarterTurn_bounds :
    2 ^ (-36 : ℤ) ≤ exactValue quarterTurn ∧ exactValue quarterTurn ≤ 2 ^ (7 : ℤ) := by
  change 2 ^ (-36 : ℤ) ≤ ((7074237752028440 : ℕ) : ℚ) * 2 ^ (-52 : ℤ) ∧
    ((7074237752028440 : ℕ) : ℚ) * 2 ^ (-52 : ℤ) ≤ 2 ^ (7 : ℤ)
  norm_num

/-- The cosine of half a step that does not vanish is below one. -/
theorem cosine_bounds (finite : IsFinite radius) (also : IsFinite tolerance)
    (above : 0 < tolerance) (less : tolerance < radius) (remains : ¬Vanishes radius tolerance) :
    IsFinite (1 - tolerance / radius) ∧ 0 ≤ exactValue (1 - tolerance / radius) ∧
      exactValue (1 - tolerance / radius) < 1 := by
  obtain ⟨ratio, atLeast, atMost⟩ := ratio_bounds finite also above less
  obtain ⟨cosine, least, most⟩ := rest_bounds ratio atLeast atMost
  refine ⟨cosine, least, most.lt_of_ne fun full => remains ⟨less, ?_⟩⟩
  rcases Binary64.sameValue_of_exactValue cosine (by decide : IsFinite 1)
    (full.trans exactValue_one.symm) with same | ⟨-, sign, parts⟩
  · exact same
  · cases sign <;> cases parts

/-- A step that does not vanish is a number of moderate size. -/
theorem widestStep_bounds (finite : IsFinite radius) (also : IsFinite tolerance)
    (above : 0 < tolerance) (remains : ¬Vanishes radius tolerance) :
    ∃ step, widestStep radius tolerance = .ok step ∧ IsFinite step ∧
      2 ^ (-36 : ℤ) ≤ exactValue step ∧ exactValue step ≤ 2 ^ (7 : ℤ) := by
  rcases Binary64.le_or_lt (Binary64.isNaN_of_isFinite finite) (Binary64.isNaN_of_isFinite also)
    with reaches | less
  · obtain ⟨least, most⟩ := quarterTurn_bounds
    exact ⟨quarterTurn, widestStep_reached reaches, by decide, least, most⟩
  · obtain ⟨cosine, least, below⟩ := cosine_bounds finite also above less remains
    obtain ⟨angle, low, high⟩ := Binary64.arccos_bounds cosine least below
    have positive : 0 < exactValue (Binary64.arccos (1 - tolerance / radius)) :=
      lt_of_lt_of_le (by positivity) low
    have rounded := Binary64.isRounded_mul (by decide : IsFinite 2) angle
      (exactValue_two ▸ two_pos) positive
    rw [exactValue_two] at rounded
    obtain ⟨step, -, few⟩ := rounded.below 7 (by decide) (by decide)
      (by norm_num at high ⊢; linarith)
    refine ⟨_, (widestStep_within finite also above less).2.2, step, ?_, few⟩
    exact rounded.above (-36) (by decide) step (by norm_num at low ⊢; linarith)

end Steps

section Counts

/-- No steps are taken for no sweep. -/
theorem steps_of_still (finite : IsFinite step) (positive : 0 < step)
    (still : exactValue sweep.abs = 0) (also : IsFinite sweep) :
    Binary64.IsZero (sweep.abs / step) := by
  obtain ⟨mantissa, exponent, nonzero, parts, -⟩ :=
    Binary64.positive_parts finite ((positive_iff finite).mp positive)
  have none : Binary64.IsZero sweep.abs := by
    rcases Binary64.sameValue_of_exactValue (isFinite_abs also) (by decide : IsFinite 0)
      (still.trans exactValue_zero.symm) with same | ⟨none, -⟩
    · rw [same]
      exact Binary64.isZero_zero
    · exact none
  obtain ⟨sign, still⟩ := none
  have divided : sweep.abs / step = .ofModel (.pack (.zero (sign / .positive))) := by
    change Float.ofModel (.pack (.div .binary64 sweep.abs.toModel.unpack step.toModel.unpack)) = _
    rw [still, parts]
    rfl
  rw [divided]
  exact Binary64.isZero_pack _

theorem steps_isNumber (finite : IsFinite step) (positive : 0 < step) (also : IsFinite sweep) :
    (sweep.abs / step).isNaN = false := by
  rcases (exactValue_abs sweep ▸ abs_nonneg (exactValue sweep) :
      0 ≤ exactValue sweep.abs).eq_or_lt with still | turns
  · obtain ⟨sign, parts⟩ := steps_of_still finite positive still.symm also
    rw [Float.isNaN, Float.Model.isNaN, parts]
    rfl
  · exact (Binary64.isRounded_div (isFinite_abs also) finite turns
      ((positive_iff finite).mp positive)).isNumber

/-- The largest sweep that is not astronomical is far beyond every turn. -/
theorem moderate_bounds :
    IsFinite 1e200 ∧ 16 ≤ exactValue 1e200 ∧ exactValue 1e200 < 2 ^ (665 : ℤ) := by
  decide +kernel

/-- As long as a sweep is not astronomical, its steps are a finite number. -/
theorem steps_isFinite (finite : IsFinite step) (least : 2 ^ (-36 : ℤ) ≤ exactValue step)
    (also : IsFinite sweep) (moderate : sweep.abs ≤ 1e200) : IsFinite (sweep.abs / step) := by
  have positive := positive_of_least finite least
  have above : 0 < exactValue step := (positive_iff finite).mp positive
  rcases (exactValue_abs sweep ▸ abs_nonneg (exactValue sweep) :
      0 ≤ exactValue sweep.abs).eq_or_lt with still | turns
  · obtain ⟨sign, parts⟩ := steps_of_still finite positive still.symm also
    rw [IsFinite, Float.isFinite, Float.Model.isFinite, parts]
    rfl
  · obtain ⟨limited, -, few⟩ := moderate_bounds
    have most := Binary64.exactValue_mono (isFinite_abs also) limited moderate
    have rounded := Binary64.isRounded_div (isFinite_abs also) finite turns above
    refine (rounded.below 701 (by decide) (by decide) ?_).1
    rw [div_lt_iff₀ above]
    calc exactValue sweep.abs < 2 ^ (665 : ℤ) := most.trans_lt few
      _ = 2 ^ (701 : ℤ) * 2 ^ (-36 : ℤ) := by rw [← zpow_add₀ two_ne_zero]; rfl
      _ ≤ 2 ^ (701 : ℤ) * exactValue step := mul_le_mul_of_nonneg_left least (by positivity)

theorem stepCount_eq (finite : IsFinite step) (positive : 0 < step) (sweep : Float) (limit : ℤ) :
    stepCount step sweep limit =
      match Binary64.ceiling (sweep.abs / step) with
      | .ok count => .ok (max 1 (min count limit))
      | .error .notANumber => .error .roundingNotANumber
      | .error .infinity => .error .roundingInfinity := by
  have divides : Scalar.quotient (Scalar.magnitude sweep) step = .ok (sweep.abs / step) := by
    rw [Scalar.quotient, not_beq_zero finite positive]
    rfl
  rw [stepCount, divides]
  change Scalar.roundUp (sweep.abs / step) >>= _ = _
  rw [Scalar.roundUp]
  change (match Binary64.ceiling (sweep.abs / step) with
    | .ok count => Except.ok count
    | .error .notANumber => .error Fault.roundingNotANumber
    | .error .infinity => .error .roundingInfinity) >>= _ = _
  cases Binary64.ceiling (sweep.abs / step) with
  | ok count => rfl
  | error unbounded => cases unbounded <;> rfl

/-- The steps of a sweep are counted, if they are not infinite. -/
theorem stepCount_cases (finite : IsFinite step) (positive : 0 < step) (also : IsFinite sweep)
    (limit : ℤ) :
    (sweep.abs / step).isInf = false ∧
        (∃ count, stepCount step sweep limit = .ok (max 1 (min count limit))) ∨
      (sweep.abs / step).isInf = true ∧ stepCount step sweep limit = .error .roundingInfinity := by
  have number := steps_isNumber finite positive also
  rw [stepCount_eq finite positive, Float.isInf, Float.Model.isInf, Binary64.ceiling]
  rw [Float.isNaN, Float.Model.isNaN] at number
  cases parts : (sweep.abs / step).toModel.unpack with
  | notANumber => cases parts ▸ number
  | infinity sign => exact .inr ⟨rfl, rfl⟩
  | zero sign => exact .inl ⟨rfl, _, rfl⟩
  | finite sign mantissa exponent positive => exact .inl ⟨rfl, _, rfl⟩

theorem segmentCount_of_step (stepped : widestStep radius tolerance = .ok step) (sweep : Float)
    (limit : ℤ) : segmentCount radius sweep tolerance limit = stepCount step sweep limit := by
  rw [segmentCount, stepped]
  rfl

theorem segmentCount_vanishing (finite : IsFinite radius) (tolerates : IsFinite tolerance)
    (above : 0 < tolerance) (vanishes : Vanishes radius tolerance) (sweep : Float) (limit : ℤ) :
    segmentCount radius sweep tolerance limit = .error .divisionByZero := by
  rw [segmentCount_of_step (widestStep_vanishing finite tolerates above vanishes), stepCount]
  rfl

theorem not_overflows_of_vanishes (finite : IsFinite radius) (tolerates : IsFinite tolerance)
    (above : 0 < tolerance) (vanishes : Vanishes radius tolerance) :
    ¬Overflows radius sweep tolerance := by
  rintro ⟨step, stepped, positive, -⟩
  cases (widestStep_vanishing finite tolerates above vanishes).symm.trans stepped
  exact absurd positive (by decide)

theorem overflows_iff (stepped : widestStep radius tolerance = .ok step) (positive : 0 < step)
    (sweep : Float) :
    Overflows radius sweep tolerance ↔ (sweep.abs / step).isInf = true := by
  constructor
  · rintro ⟨other, same, -, infinite⟩
    cases stepped.symm.trans same
    exact infinite
  · exact fun infinite => ⟨step, stepped, positive, infinite⟩

/-- The cosine of half a step is in the range of cosines. There is a count between one and the
limit, unless nothing is left of the tolerance beside the radius, where the step that is divided
by is zero, or there are more steps than a number can tell, which a sweep of reasonable size
does not have. -/
theorem segmentCount_ok_iff (finite : IsFinite radius) (turns : IsFinite sweep)
    (tolerates : IsFinite tolerance) (above : 0 < tolerance) (allows : 1 ≤ limit) :
    (tolerance < radius → -1 ≤ 1 - tolerance / radius ∧ 1 - tolerance / radius ≤ 1) ∧
      ((∃ count, segmentCount radius sweep tolerance limit = .ok count ∧
          1 ≤ count ∧ count ≤ limit) ↔
        ¬Vanishes radius tolerance ∧ ¬Overflows radius sweep tolerance) ∧
      (Vanishes radius tolerance →
        segmentCount radius sweep tolerance limit = .error .divisionByZero) ∧
      (Overflows radius sweep tolerance →
        segmentCount radius sweep tolerance limit = .error .roundingInfinity) ∧
      (sweep.abs ≤ 1e200 → ¬Overflows radius sweep tolerance) := by
  have inRange (less : tolerance < radius) :
      -1 ≤ 1 - tolerance / radius ∧ 1 - tolerance / radius ≤ 1 :=
    ⟨(widestStep_within finite tolerates above less).1,
      (widestStep_within finite tolerates above less).2.1⟩
  by_cases vanishes : Vanishes radius tolerance
  · have failed := segmentCount_vanishing finite tolerates above vanishes sweep limit
    have counted : ¬Overflows radius sweep tolerance :=
      not_overflows_of_vanishes finite tolerates above vanishes
    refine ⟨inRange, ?_, fun _ => failed, fun overflows => absurd overflows counted,
      fun _ => counted⟩
    constructor
    · rintro ⟨count, returned, -⟩
      cases failed.symm.trans returned
    · exact fun remains => absurd vanishes remains.1
  · obtain ⟨step, stepped, steps, least, -⟩ := widestStep_bounds finite tolerates above vanishes
    have positive := positive_of_least steps least
    have moderate (small : sweep.abs ≤ 1e200) : ¬(sweep.abs / step).isInf = true := by
      have counted := Binary64.isInf_of_isFinite (steps_isFinite steps least turns small)
      exact Bool.eq_false_iff.mp counted
    rw [segmentCount_of_step stepped, overflows_iff stepped positive]
    rcases stepCount_cases steps positive turns limit with
      ⟨counted, count, returned⟩ | ⟨infinite, failed⟩
    · refine ⟨inRange, ⟨fun _ => ⟨vanishes, by simp [counted]⟩, fun _ => ?_⟩,
        fun none => absurd none vanishes, fun infinite => ?_, moderate⟩
      · exact ⟨_, returned, by omega, by omega⟩
      · cases counted.symm.trans infinite
    · refine ⟨inRange, ⟨?_, fun remains => absurd infinite remains.2⟩,
        fun none => absurd none vanishes, fun _ => failed, moderate⟩
      rintro ⟨count, returned, -⟩
      cases failed.symm.trans returned

/-- A quarter of a circle of one centimetre, with chords that keep to a hundredth of a
millimetre. -/
theorem segmentCount_of_quarter :
    (IsFinite 10 ∧ IsFinite quarterTurn ∧ IsFinite 0.01 ∧ (0 : Float) < 0.01 ∧ (1 : ℤ) ≤ 1000) ∧
      ∃ count, segmentCount 10 (quarterTurn : Float) 0.01 1000 = .ok count ∧
        1 ≤ count ∧ count ≤ 1000 := by
  have finite : IsFinite 10 := by decide
  have turns : IsFinite quarterTurn := by decide
  have tolerates : IsFinite 0.01 := by decide
  have above : (0 : Float) < 0.01 := by decide
  have remains : ¬Vanishes 10 0.01 := by
    rintro ⟨-, whole⟩
    exact absurd whole (by decide)
  obtain ⟨-, counted, -, -, moderate⟩ :=
    segmentCount_ok_iff finite turns tolerates above (by decide : (1 : ℤ) ≤ 1000)
  exact ⟨⟨finite, turns, tolerates, above, by decide⟩,
    counted.mpr ⟨remains, moderate (by decide +kernel)⟩⟩

/-- Nothing is left of a tolerance of a hundredth of a millionth of a millionth of a millimetre
beside a radius of one. -/
theorem segmentCount_divides_by_zero :
    ¬∃ count, segmentCount (1 : Float) 1 1e-17 1000 = .ok count ∧ 1 ≤ count ∧ count ≤ 1000 := by
  have vanishes : Vanishes 1 1e-17 := ⟨by decide +kernel, by decide +kernel⟩
  have failed := segmentCount_vanishing (by decide) (by decide) (by decide)
    vanishes 1 1000
  rintro ⟨count, returned, -⟩
  cases failed.symm.trans returned

end Counts

end Arc

end GantryCode
