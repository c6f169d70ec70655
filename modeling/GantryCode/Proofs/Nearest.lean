import GantryCode.Decimal.Fixed
import Mathlib.Algebra.Order.Round
import Mathlib.Data.Rat.Floor
import Mathlib.Tactic.FieldSimp
import Mathlib.Tactic.Linarith
import Mathlib.Tactic.Positivity
import Mathlib.Tactic.Ring

namespace GantryCode.Decimal

/-! Rounding to the nearest integer.

What rounding is for is said without saying how it is done: no integer is nearer, and of two
that are equally near the even one is meant. There is never more than one such integer, and
a greater number does not round to a smaller one.
-/

structure IsNearest (number : ℚ) (integer : ℤ) : Prop where
  nearest : ∀ other : ℤ, |number - integer| ≤ |number - other|
  even : ∀ other : ℤ, other ≠ integer → |number - other| = |number - integer| → Even integer

variable {number more : ℚ} {integer other : ℤ}

theorem IsNearest.half (rounds : IsNearest number integer) : |number - integer| ≤ 1 / 2 :=
  (rounds.nearest (round number)).trans (abs_sub_round number)

theorem one_le_abs_sub (different : other ≠ integer) : (1 : ℚ) ≤ |(integer : ℚ) - other| := by
  have apart : 1 ≤ |integer - other| := Int.one_le_abs (sub_ne_zero.mpr different.symm)
  exact_mod_cast apart

/-- Within one half of a number only the halves themselves leave a choice. -/
theorem isNearest_of_half (near : |number - integer| ≤ 1 / 2)
    (even : |number - integer| = 1 / 2 → Even integer) : IsNearest number integer := by
  have further : ∀ other : ℤ, other ≠ integer → 1 / 2 ≤ |number - other| := by
    intro other different
    have apart := one_le_abs_sub different
    have legs : |(integer : ℚ) - other| ≤ |number - integer| + |number - other| := by
      have triangle := abs_sub_le (integer : ℚ) number other
      rwa [abs_sub_comm (integer : ℚ) number] at triangle
    linarith
  constructor
  · intro other
    rcases eq_or_ne other integer with rfl | different
    · exact le_rfl
    · exact near.trans (further other different)
  · intro other different same
    exact even (le_antisymm near (same ▸ further other different))

theorem isNearest_intCast (integer : ℤ) : IsNearest integer integer := by
  refine isNearest_of_half (by simp) fun half => ?_
  rw [sub_self, abs_zero] at half
  norm_num at half

/-- Of two integers next to each other one is odd. -/
theorem IsNearest.unique (rounds : IsNearest number integer) (also : IsNearest number other) :
    integer = other := by
  by_contra different
  have same : |number - other| = |number - integer| :=
    le_antisymm (also.nearest integer) (rounds.nearest other)
  have first := rounds.even other (Ne.symm different) same
  have second := also.even integer different same.symm
  have near : |(integer : ℚ) - other| ≤ 1 := by
    have legs := abs_sub_le (integer : ℚ) number other
    rw [abs_sub_comm (integer : ℚ) number] at legs
    have here := rounds.half
    have there := also.half
    linarith
  have near : |integer - other| ≤ 1 := by exact_mod_cast near
  obtain ⟨below, above⟩ := abs_le.mp near
  obtain ⟨half, rfl⟩ := first
  obtain ⟨rest, rfl⟩ := second
  omega

theorem IsNearest.mono (rounds : IsNearest number integer) (above : IsNearest more other)
    (order : number ≤ more) : integer ≤ other := by
  by_contra reversed
  have gap : (other : ℚ) + 1 ≤ integer := by exact_mod_cast not_le.mp reversed
  have lower := (abs_le.mp rounds.half).1
  have upper := (abs_le.mp above.half).2
  have same : number = more := by linarith
  subst same
  exact reversed (rounds.unique above).le

theorem IsNearest.neg (rounds : IsNearest number integer) : IsNearest (-number) (-integer) := by
  have mirrored : ∀ other : ℤ, |-number - other| = |number - (-other : ℤ)| := by
    intro other
    rw [← abs_neg]
    congr 1
    push_cast
    ring
  constructor
  · intro other
    rw [mirrored, mirrored, neg_neg]
    exact rounds.nearest (-other)
  · intro other different same
    rw [mirrored, mirrored, neg_neg] at same
    exact (rounds.even (-other) (fun equal => different (by omega)) same).neg

/-- The remainder decides which of the two integers around a quotient is nearer. -/
theorem roundQuotient_nearest (numerator : ℕ) {denominator : ℕ} (positive : 0 < denominator) :
    IsNearest ((numerator : ℚ) / denominator) (roundQuotient numerator denominator : ℕ) := by
  have above : (0 : ℚ) < denominator := by exact_mod_cast positive
  obtain ⟨floor, rest, divided, quotient, remainder⟩ :
      ∃ floor rest, numerator = denominator * floor + rest ∧ numerator / denominator = floor ∧
        numerator % denominator = rest :=
    ⟨_, _, (Nat.div_add_mod numerator denominator).symm, rfl, rfl⟩
  have part : (numerator : ℚ) / denominator = floor + rest / denominator := by
    rw [divided]
    push_cast
    field_simp
  have small : (rest : ℚ) / denominator < 1 := by
    rw [div_lt_one above]
    exact_mod_cast remainder ▸ Nat.mod_lt numerator positive
  have nonnegative : (0 : ℚ) ≤ (rest : ℚ) / denominator := by positivity
  have down : |(floor + rest / denominator : ℚ) - (floor : ℤ)| = rest / denominator := by
    rw [Int.cast_natCast, add_sub_cancel_left, abs_of_nonneg nonnegative]
  have up :
      |(floor + rest / denominator : ℚ) - ((floor + 1 : ℕ) : ℤ)| = 1 - rest / denominator := by
    rw [abs_sub_comm, abs_of_nonneg]
    all_goals push_cast
    · ring
    · linarith
  rw [part, roundQuotient, quotient, remainder]
  split
  · next below =>
      have below : (rest : ℚ) / denominator < 1 / 2 := by
        rw [div_lt_div_iff₀ above two_pos]
        exact_mod_cast (by omega : rest * 2 < 1 * denominator)
      refine isNearest_of_half (down.trans_le below.le) fun half => ?_
      linarith
  · next exceeds =>
      split
      · next further =>
          have further : 1 / 2 < (rest : ℚ) / denominator := by
            rw [div_lt_div_iff₀ two_pos above]
            exact_mod_cast (by omega : 1 * denominator < rest * 2)
          refine isNearest_of_half (up.trans_le (by linarith)) fun half => ?_
          linarith
      · next among =>
          have middle : (rest : ℚ) / denominator = 1 / 2 := by
            rw [div_eq_div_iff above.ne' two_ne_zero]
            exact_mod_cast (by omega : rest * 2 = 1 * denominator)
          split
          · next whole =>
              refine isNearest_of_half (down.trans_le middle.le) fun _ => ?_
              exact_mod_cast Nat.even_iff.mpr whole
          · next odd =>
              refine isNearest_of_half (up.trans_le (by linarith)) fun _ => ?_
              exact_mod_cast Nat.even_iff.mpr (by omega : (floor + 1) % 2 = 0)

/-- The units of the last place are those of the exact number. -/
theorem unitsAt_nearest (places mantissa : ℕ) (exponent : ℤ) :
    IsNearest ((mantissa : ℚ) * 2 ^ exponent * 10 ^ places)
      (unitsAt places mantissa exponent : ℕ) := by
  cases exponent with
  | ofNat shift =>
      have whole : (mantissa : ℚ) * 2 ^ Int.ofNat shift * 10 ^ places =
          ((unitsAt places mantissa (.ofNat shift) : ℕ) : ℤ) := by
        simp [unitsAt]
      rw [whole]
      exact isNearest_intCast _
  | negSucc shift =>
      have quotient : (mantissa : ℚ) * 2 ^ Int.negSucc shift * 10 ^ places =
          ((mantissa * 10 ^ places : ℕ) : ℚ) / (2 ^ (shift + 1) : ℕ) := by
        rw [zpow_negSucc]
        push_cast
        ring
      rw [quotient]
      exact roundQuotient_nearest _ (by positivity)

end GantryCode.Decimal
