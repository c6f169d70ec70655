import GantryCode.Proofs.AngleErrors
import GantryCode.Proofs.NearestNumbers
import GantryCode.Proofs.Opposites

namespace GantryCode

/-! The order of angles.

What is left of one after a number from zero to one is a multiple of half a place of one, and
that is the grid on which the cosines of arcs are. Of two cosines on it the greater has the
smaller angle, also behind rounding, and whatever the platform prefers.
-/

open Decimal (IsFinite)

namespace Binary64

variable {x y : Float}

/-- The numbers of the grid. -/
def OnGrid (x : Float) : Prop :=
  ∃ count : ℕ, exactValue x = count * 2 ^ (-53 : ℤ)

theorem eq_of_exactValue (finite : IsFinite x) (also : IsFinite y) (above : 0 < exactValue y)
    (same : exactValue x = exactValue y) : x = y := by
  rcases sameValue_of_exactValue finite also same with equal | ⟨-, sign, parts⟩
  · exact equal
  · exact absurd (exactValue_of_zero parts) above.ne'

/-- The numbers from one half on are on the grid. -/
theorem onGrid_of_half (finite : IsFinite x) (atLeast : 2 ^ (-1 : ℤ) ≤ exactValue x) :
    OnGrid x := by
  obtain ⟨mantissa, exponent, positive, parts, value⟩ :=
    positive_parts finite (lt_of_lt_of_le (by norm_num) atLeast)
  have canonical := isCanonical_of_unpack parts
  have high : -54 < exponent := by
    have bits : (mantissa : ℚ) < 2 ^ (53 : ℤ) := by exact_mod_cast canonical.bits
    have less : (2 : ℚ) ^ (-1 : ℤ) < 2 ^ (53 + exponent) := by
      rw [zpow_add₀ two_ne_zero]
      exact (value ▸ atLeast).trans_lt (mul_lt_mul_of_pos_right bits (by positivity))
    have exponents := (zpow_lt_zpow_iff_right₀ one_lt_two).mp less
    omega
  obtain ⟨count, whole⟩ := Int.le.dest (Int.add_one_le_iff.mpr high)
  refine ⟨mantissa * 2 ^ count, ?_⟩
  rw [value, ← whole]
  push_cast
  rw [mul_assoc, ← zpow_natCast, ← zpow_add₀ two_ne_zero, add_comm (count : ℤ)]

theorem placeOf_low {number : ℚ} (positive : 0 < number) (below : number < 1) :
    placeOf number ≤ -53 := by
  have digits : Int.log 2 number < 0 := by
    rw [← Int.lt_zpow_iff_log_lt Nat.one_lt_two positive]
    simpa using below
  rw [placeOf]
  omega

/-- What is left of one after a number between zero and one is on the grid, and is not lost. -/
theorem onGrid_rest (finite : IsFinite x) (above : 0 < exactValue x) (below : exactValue x < 1) :
    OnGrid (1 - x) ∧ 0 < exactValue (1 - x) := by
  have one : IsFinite 1 := by decide
  have result := isResult_sub one finite above (exactValue_one ▸ below)
  rw [exactValue_one] at result
  have least := Angle.exactValue_below_one finite below
  have positive : 0 < 1 - exactValue x := by linarith
  have rounded := result.isRounded
  have rest := (rounded.below 0 (by decide) (by decide) (by rw [zpow_zero]; linarith)).1
  have some := rounded.above (-53) (by decide) rest (by linarith)
  refine ⟨?_, lt_of_lt_of_le (by positivity) some⟩
  by_cases half : 2 ^ (-1 : ℤ) ≤ 1 - exactValue x
  · exact onGrid_of_half rest (rounded.above (-1) (by decide) rest half)
  · obtain ⟨count, value⟩ := onGrid_of_half finite (by norm_num at half ⊢; linarith)
    have exact : 1 - exactValue x = ((2 ^ 53 - count : ℤ) : ℚ) * 2 ^ (-53 : ℤ) := by
      rw [value]
      push_cast
      norm_num
      ring
    have few : count < 2 ^ 53 := by
      have less : (count : ℚ) * 2 ^ (-53 : ℤ) < 2 ^ 53 * 2 ^ (-53 : ℤ) := by
        rw [← value]
        norm_num at below ⊢
        exact below
      exact_mod_cast lt_of_mul_lt_mul_right less (by positivity)
    have nearest := result.isNearestNumber positive
    rw [exact] at nearest
    have kept := nearest.exact (exact ▸ placeOf_low positive (by linarith)) rest
    obtain ⟨left, whole⟩ := Nat.exists_eq_add_of_le few.le
    have units : (2 ^ 53 - count : ℤ) = left := by omega
    refine ⟨left, ?_⟩
    rw [kept, units, Int.cast_natCast]

end Binary64

namespace Angle

open Binary64 (exactValue)

theorem toFloat_mono {angle wider : ℕ} (ordered : angle ≤ wider) (atLeast : 2 ^ 163 ≤ angle)
    (atMost : wider ≤ 2 ^ 203) : exactValue (toFloat angle) ≤ exactValue (toFloat wider) := by
  have finite := (toFloat_bounds atLeast (ordered.trans atMost)).1
  have also := (toFloat_bounds (atLeast.trans ordered) atMost).1
  have positive : 0 < angle := by omega
  have size : (0 : ℚ) < angle * 2 ^ (-200 : ℤ) := by positivity
  have order : (angle : ℚ) * 2 ^ (-200 : ℤ) ≤ wider * 2 ^ (-200 : ℤ) :=
    mul_le_mul_of_nonneg_right (by exact_mod_cast ordered) (by positivity)
  exact ((Binary64.isResult_round positive (-200)).isNearestNumber size).mono
    ((Binary64.isResult_round (positive.trans_le ordered) (-200)).isNearestNumber
      (size.trans_le order)) size order finite also

/-- An angle that is not next to the middle between two numbers. -/
theorem towards_settled {angle : ℕ} {number : Float} (low : toFloat (angle - tie angle) = number)
    (middle : toFloat angle = number) (high : toFloat (angle + tie angle) = number)
    (other : Float) : towards angle other = number := by
  rw [towards, low, middle, high]
  simp only [ite_self]

end Angle

namespace Binary64

variable {b c : Float}

/-- Cosines of the grid are known to all places of an angle. -/
theorem ofNumber?_onGrid (finite : IsFinite c) (grid : OnGrid c) (less : exactValue c < 1) :
    ∃ count : ℕ, exactValue c = count * 2 ^ (-53 : ℤ) ∧
      Angle.ofNumber? c = some (Angle.ofCosine (count * 2 ^ 147)) ∧
      count * 2 ^ 147 + 2 ^ 147 ≤ Angle.unit := by
  obtain ⟨count, value⟩ := grid
  have atLeast : 0 ≤ exactValue c := by
    rw [value]
    positivity
  obtain ⟨units, found, apart, floor, next⟩ := Angle.ofNumber?_below_one finite atLeast less
  have scaled : exactValue c * 2 ^ 200 = (count * 2 ^ 147 : ℕ) := by
    rw [value]
    push_cast
    norm_num
    ring
  rw [scaled] at floor next
  have same : units = count * 2 ^ 147 := by
    have low : units ≤ count * 2 ^ 147 := by exact_mod_cast floor
    have high : count * 2 ^ 147 < units + 1 := by exact_mod_cast next
    omega
  subst same
  exact ⟨count, value, found, apart⟩

/-- The greater cosine has the smaller angle. -/
theorem arccos_antitone (finite : IsFinite b) (also : IsFinite c) (grid : OnGrid b)
    (gridToo : OnGrid c) (ordered : exactValue b ≤ exactValue c) (above : 0 < exactValue c)
    (less : exactValue c < 1) : exactValue (arccos c) ≤ exactValue (arccos b) := by
  rcases ordered.eq_or_lt with same | smaller
  · rw [eq_of_exactValue finite also above same]
  · obtain ⟨count, value, found, apart⟩ := ofNumber?_onGrid finite grid (ordered.trans_lt less)
    obtain ⟨more, valueToo, foundToo, apartToo⟩ := ofNumber?_onGrid also gridToo less
    have counts : count + 1 ≤ more := by
      rw [value, valueToo] at smaller
      exact_mod_cast lt_of_mul_lt_mul_right smaller (by positivity)
    have distance : count * 2 ^ 147 + 2 ^ 147 ≤ more * 2 ^ 147 := by
      rw [← Nat.succ_mul]
      exact Nat.mul_le_mul_right _ counts
    have order := Angle.ofCosine_apart distance apartToo
    obtain ⟨wide, same, low, high⟩ :=
      Angle.towards_near (Angle.ofCosine (count * 2 ^ 147)) b.acos
    obtain ⟨narrow, sameToo, lowToo, highToo⟩ :=
      Angle.towards_near (Angle.ofCosine (more * 2 ^ 147)) c.acos
    have bounds := Angle.ofCosine_bounds apart
    have boundsToo := Angle.ofCosine_bounds apartToo
    have tie := Angle.tie_le (Angle.ofCosine (count * 2 ^ 147))
    have tieToo := Angle.tie_le (Angle.ofCosine (more * 2 ^ 147))
    rw [arccos_eq found, arccos_eq foundToo, same, sameToo]
    exact Angle.toFloat_mono (by omega) (by omega) (by omega)

/-- The cosine of an eighth of a turn, and the angle that it has. -/
theorem arccos_eighth : arccos 0.7071067811865476 = 0.7853981633974483 := by
  have found : Angle.ofNumber? 0.7071067811865476 =
      some (Angle.ofCosine (6369051672525773 * 2 ^ 147)) := by decide +kernel
  rw [arccos_eq found]
  exact Angle.towards_settled (by decide +kernel) (by decide +kernel) (by decide +kernel) _

/-- The next smaller cosine, which has the next larger angle. -/
theorem arccos_past_eighth : arccos 0.7071067811865475 = 0.7853981633974484 := by
  have found : Angle.ofNumber? 0.7071067811865475 =
      some (Angle.ofCosine (6369051672525772 * 2 ^ 147)) := by decide +kernel
  rw [arccos_eq found]
  exact Angle.towards_settled (by decide +kernel) (by decide +kernel) (by decide +kernel) _

end Binary64

end GantryCode
