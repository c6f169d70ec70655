import GantryCode.Proofs.Signs

namespace GantryCode.Binary64

/-! Opposite numbers.

Rounding does not look at signs, so arithmetic with opposite numbers has opposite results, and
the square of a number is that of its opposite. Only a sum that comes to nothing is the same
zero either way, so numbers are opposite here up to the sign of a zero.
-/

open Decimal (IsFinite)
open Float.Model (UnpackedFloat)
open Float.Model.UnpackedFloat (Accuracy Sign packComponents roundWithAccuracy)

section Parts

/-- Of the fields of a number only one tells its sign. -/
theorem unpack_packComponents_neg (sign : Sign) (exponent : BitVec 11) (mantissa : BitVec 52) :
    UnpackedFloat.unpack .binary64 (packComponents .binary64 (-sign) exponent mantissa) =
      (UnpackedFloat.unpack .binary64 (packComponents .binary64 sign exponent mantissa)).neg := by
  unfold UnpackedFloat.unpack
  simp only [UnpackedFloat.unpackExponent_packComponents,
    UnpackedFloat.unpackMantissa_packComponents, unpackSign_packComponents, ofBitVec_toBitVec]
  split
  · split <;> rfl
  · split
    · split <;> rfl
    · rfl

/-- What is packed with the opposite sign is unpacked with the opposite sign. -/
theorem unpack_pack_neg (parts : UnpackedFloat) :
    UnpackedFloat.unpack .binary64 (UnpackedFloat.pack .binary64 parts.neg) =
      (UnpackedFloat.unpack .binary64 (UnpackedFloat.pack .binary64 parts)).neg := by
  cases parts with
  | notANumber => rfl
  | infinity sign => cases sign <;> rfl
  | zero sign => cases sign <;> rfl
  | finite sign mantissa exponent positive =>
      rw [UnpackedFloat.neg, UnpackedFloat.pack, UnpackedFloat.pack]
      dsimp only
      split
      · cases sign <;> rfl
      · split <;> exact unpack_packComponents_neg sign _ _

theorem ofModel_neg (parts : UnpackedFloat) :
    Float.ofModel (.pack parts.neg) = -Float.ofModel (.pack parts) := by
  rw [← pack_unpack (Float.ofModel (.pack parts.neg)), ← pack_unpack (-Float.ofModel (.pack parts)),
    unpack_neg]
  exact congrArg (fun parts => Float.ofModel (.pack parts)) (unpack_pack_neg parts)

theorem roundWithAccuracy_neg (sign : Sign) (mantissa : ℕ) (exponent : ℤ) (accuracy : Accuracy) :
    roundWithAccuracy .binary64 (-sign) mantissa exponent accuracy =
      (roundWithAccuracy .binary64 sign mantissa exponent accuracy).neg := by
  unfold roundWithAccuracy
  dsimp only
  split <;> rfl

theorem mul_parts_neg (parts others : UnpackedFloat) :
    UnpackedFloat.mul .binary64 parts.neg others =
      (UnpackedFloat.mul .binary64 parts others).neg := by
  have signs (sign other : Sign) : -sign * other = -(sign * other) := by
    cases sign <;> cases other <;> rfl
  cases parts <;> cases others <;>
    simp only [UnpackedFloat.mul, UnpackedFloat.neg, signs, roundWithAccuracy_neg]

theorem mul_parts_comm (parts others : UnpackedFloat) :
    UnpackedFloat.mul .binary64 parts others = UnpackedFloat.mul .binary64 others parts := by
  have signs (sign other : Sign) : sign * other = other * sign := by
    cases sign <;> cases other <;> rfl
  cases parts <;> cases others <;> simp only [UnpackedFloat.mul, signs, Nat.mul_comm, Int.add_comm]

/-- A sum of nothing is zero, whatever the signs of what is summed up. -/
theorem normalize_neg (units exponent : ℤ) :
    SameParts (UnpackedFloat.normalize .binary64 (-units) exponent .positive)
      (UnpackedFloat.normalize .binary64 units exponent .positive).neg := by
  have round (sign : Sign) (mantissa : ℕ) :
      UnpackedFloat.round .binary64 (-sign) mantissa exponent =
        (UnpackedFloat.round .binary64 sign mantissa exponent).neg :=
    roundWithAccuracy_neg sign _ _ _
  unfold UnpackedFloat.normalize
  rcases lt_trichotomy units 0 with below | rfl | above
  · rw [compare_gt_iff_gt.mpr (by omega), compare_lt_iff_lt.mpr below]
    exact .inl (round .negative _)
  · exact .inr ⟨⟨_, rfl⟩, _, rfl⟩
  · rw [compare_lt_iff_lt.mpr (by omega), compare_gt_iff_gt.mpr above, Int.neg_neg]
    exact .inl (round .positive _)

theorem apply_neg (sign : Sign) (units : ℤ) : (-sign).apply units = -sign.apply units := by
  cases sign
  · exact (Int.neg_neg units).symm
  · rfl

theorem add_parts_neg (parts others : UnpackedFloat) :
    SameParts (UnpackedFloat.add .binary64 parts.neg others.neg)
      (UnpackedFloat.add .binary64 parts others).neg := by
  cases parts with
  | notANumber => exact .inl rfl
  | infinity sign =>
      cases others with
      | infinity other => exact .inl (by cases sign <;> cases other <;> rfl)
      | _ => exact .inl rfl
  | zero sign =>
      cases others with
      | zero other => exact .inr (by cases sign <;> cases other <;> exact ⟨⟨_, rfl⟩, _, rfl⟩)
      | _ => exact .inl rfl
  | finite sign mantissa exponent positive =>
      cases others with
      | finite other units power above =>
          rw [UnpackedFloat.neg, UnpackedFloat.neg, UnpackedFloat.add, UnpackedFloat.add]
          dsimp only
          rw [apply_neg, apply_neg, ← Int.neg_add]
          exact normalize_neg _ _
      | _ => exact .inl rfl

theorem add_parts_comm (parts others : UnpackedFloat) :
    UnpackedFloat.add .binary64 parts others = UnpackedFloat.add .binary64 others parts := by
  cases parts with
  | notANumber => cases others <;> rfl
  | infinity sign =>
      cases others with
      | infinity other => cases sign <;> cases other <;> rfl
      | _ => rfl
  | zero sign =>
      cases others with
      | zero other => cases sign <;> cases other <;> rfl
      | _ => rfl
  | finite sign mantissa exponent positive =>
      cases others with
      | finite other units power above =>
          rw [UnpackedFloat.add, UnpackedFloat.add]
          dsimp only
          rw [Int.min_comm, Int.add_comm]
      | _ => rfl

theorem sub_parts (parts others : UnpackedFloat) :
    UnpackedFloat.sub .binary64 parts others = UnpackedFloat.add .binary64 parts others.neg := by
  cases parts with
  | notANumber => cases others <;> rfl
  | infinity sign => cases others <;> rfl
  | zero sign => cases others <;> rfl
  | finite sign mantissa exponent positive =>
      cases others with
      | finite other units power above =>
          rw [UnpackedFloat.neg, UnpackedFloat.sub, UnpackedFloat.add]
          dsimp only
          rw [apply_neg, Int.sub_eq_add_neg]
      | _ => rfl

theorem compare_parts_neg (parts others : UnpackedFloat) :
    parts.neg.compare others.neg = others.compare parts := by
  cases parts with
  | notANumber => cases others <;> rfl
  | infinity sign =>
      cases others with
      | infinity other => cases sign <;> cases other <;> rfl
      | _ => cases sign <;> rfl
  | zero sign =>
      cases others with
      | infinity other => cases other <;> rfl
      | finite other units power above => cases other <;> rfl
      | _ => rfl
  | finite sign mantissa exponent positive =>
      cases others with
      | infinity other => cases sign <;> cases other <;> rfl
      | finite other units power above =>
          have swapped : (compare power exponent).then (compare units mantissa) =
              ((compare exponent power).then (compare mantissa units)).swap := by
            rw [Ordering.swap_then, ← Std.OrientedCmp.eq_swap, ← Std.OrientedCmp.eq_swap]
          cases sign <;> cases other
          · exact congrArg some (by rw [swapped, Ordering.swap_swap])
          · rfl
          · rfl
          · exact congrArg some swapped.symm
      | zero other => cases sign <;> rfl
      | notANumber => cases sign <;> rfl

/-- Comparison does not see the sign of a zero. -/
theorem compare_zero (sign other : Sign) (parts : UnpackedFloat) :
    (UnpackedFloat.zero sign).compare parts = (UnpackedFloat.zero other).compare parts := by
  cases parts with
  | infinity sign => cases sign <;> rfl
  | finite sign mantissa exponent positive => cases sign <;> rfl
  | _ => rfl

theorem mul_parts_zero (sign other : Sign) (parts : UnpackedFloat) :
    SameParts (UnpackedFloat.mul .binary64 (.zero sign) parts)
      (UnpackedFloat.mul .binary64 (.zero other) parts) := by
  cases parts with
  | notANumber => exact .inl rfl
  | infinity sign => exact .inl rfl
  | zero sign => exact .inr ⟨⟨_, rfl⟩, _, rfl⟩
  | finite sign mantissa exponent positive => exact .inr ⟨⟨_, rfl⟩, _, rfl⟩

end Parts

section Operations

variable {x x' y y' : Float}

theorem neg_negated (x : Float) : - -x = x := by
  have parts (parts : UnpackedFloat) : parts.neg.neg = parts := by
    cases parts with
    | infinity sign => cases sign <;> rfl
    | zero sign => cases sign <;> rfl
    | finite sign mantissa exponent positive => cases sign <;> rfl
    | notANumber => rfl
  rw [← pack_unpack (- -x), unpack_neg, unpack_neg, parts, pack_unpack]

theorem negated_mul (x y : Float) : -x * y = -(x * y) := by
  change Float.ofModel (.pack (.mul .binary64 (-x).toModel.unpack y.toModel.unpack)) = _
  rw [unpack_neg, mul_parts_neg, ofModel_neg]
  rfl

theorem mul_swap (x y : Float) : x * y = y * x :=
  congrArg (fun parts => Float.ofModel (.pack parts)) (mul_parts_comm _ _)

theorem mul_negated (x y : Float) : x * -y = -(x * y) := by
  rw [mul_swap, negated_mul, mul_swap]

theorem negated_mul_negated (x y : Float) : -x * -y = x * y := by
  rw [negated_mul, mul_negated, neg_negated]

theorem add_swap (x y : Float) : x + y = y + x :=
  congrArg (fun parts => Float.ofModel (.pack parts)) (add_parts_comm _ _)

theorem sub_eq_add_negated (x y : Float) : x - y = x + -y := by
  change _ = Float.ofModel (.pack (.add .binary64 x.toModel.unpack (-y).toModel.unpack))
  rw [unpack_neg, ← sub_parts]
  rfl

theorem sameValue_neg_add (x y : Float) : SameValue (-x + -y) (-(x + y)) := by
  change SameValue
    (Float.ofModel (.pack (.add .binary64 (-x).toModel.unpack (-y).toModel.unpack))) _
  rw [unpack_neg, unpack_neg]
  exact (ofModel_neg (.add .binary64 x.toModel.unpack y.toModel.unpack)) ▸
    (add_parts_neg x.toModel.unpack y.toModel.unpack).sameValue

theorem abs_negated (x : Float) : (-x).abs = x.abs := by
  have parts (parts : UnpackedFloat) : parts.neg.abs = parts.abs := by cases parts <;> rfl
  rw [← pack_unpack (-x).abs, ← pack_unpack x.abs, unpack_abs, unpack_abs, unpack_neg, parts]

theorem IsZero.neg (zero : IsZero x) : IsZero (-x) := by
  obtain ⟨sign, parts⟩ := zero
  exact ⟨-sign, by rw [unpack_neg, parts]; rfl⟩

theorem IsZero.abs (zero : IsZero x) : x.abs = 0 := by
  obtain ⟨sign, parts⟩ := zero
  rw [← pack_unpack x.abs, unpack_abs, parts]
  rfl

/-- The zeros are two. -/
theorem IsZero.cases (zero : IsZero x) : x = 0 ∨ x = -0 := by
  obtain ⟨sign, parts⟩ := zero
  rw [← pack_unpack x, parts]
  cases sign
  · exact .inr rfl
  · exact .inl rfl

namespace SameValue

theorem neg (same : SameValue x x') : SameValue (-x) (-x') := by
  rcases same with rfl | ⟨zero, zero'⟩
  · exact .refl _
  · exact .inr ⟨zero.neg, zero'.neg⟩

theorem add (first : SameValue x x') (second : SameValue y y') : SameValue (x + y) (x' + y') := by
  have right (x : Float) : SameValue (x + y) (x + y') := by
    rcases second with rfl | ⟨zero, zero'⟩
    · exact .refl _
    · exact (sameValue_add_zero x zero).trans (sameValue_add_zero x zero').symm
  refine (right x).trans ?_
  rcases first with rfl | ⟨zero, zero'⟩
  · exact .refl _
  · rw [add_swap x, add_swap x']
    exact (sameValue_add_zero y' zero).trans (sameValue_add_zero y' zero').symm

theorem mul (first : SameValue x x') (second : SameValue y y') : SameValue (x * y) (x' * y') := by
  have left {x x' : Float} (same : SameValue x x') (y : Float) : SameValue (x * y) (x' * y) := by
    rcases same with rfl | ⟨⟨sign, zero⟩, other, zero'⟩
    · exact .refl _
    · have parts := (mul_parts_zero sign other y.toModel.unpack).sameValue
      rw [← zero, ← zero'] at parts
      exact parts
  refine (left first y).trans ?_
  rw [mul_swap x', mul_swap x']
  exact left second x'

/-- The square of a zero is the same zero with either sign. -/
theorem mul_self (same : SameValue x x') : x * x = x' * x' := by
  rcases same with rfl | ⟨zero, zero'⟩
  · rfl
  · rcases zero.cases with rfl | rfl <;> rcases zero'.cases with rfl | rfl <;> rfl

theorem abs (same : SameValue x x') : x.abs = x'.abs := by
  rcases same with rfl | ⟨zero, zero'⟩
  · rfl
  · rw [zero.abs, zero'.abs]

theorem compare_eq (first : SameValue x x') (second : SameValue y y') :
    x.toModel.unpack.compare y.toModel.unpack = x'.toModel.unpack.compare y'.toModel.unpack := by
  have left {x x' : Float} (same : SameValue x x') (parts : UnpackedFloat) :
      x.toModel.unpack.compare parts = x'.toModel.unpack.compare parts := by
    rcases same with rfl | ⟨⟨sign, zero⟩, other, zero'⟩
    · rfl
    · rw [zero, zero']
      exact compare_zero sign other parts
  calc x.toModel.unpack.compare y.toModel.unpack
      = x'.toModel.unpack.compare y.toModel.unpack := left first _
    _ = y.toModel.unpack.neg.compare x'.toModel.unpack.neg := (compare_parts_neg _ _).symm
    _ = y'.toModel.unpack.neg.compare x'.toModel.unpack.neg := by
      rw [← unpack_neg y, ← unpack_neg y']
      exact left second.neg _
    _ = x'.toModel.unpack.compare y'.toModel.unpack := compare_parts_neg _ _

end SameValue

end Operations

/-- The one zero less either zero is the same zero, so only the other one can tell them apart. -/
theorem sub_eq_of_sameValue (plain : x ≠ -0) (same : SameValue y y') : x - y = x - y' := by
  have negative : x.toModel.unpack ≠ .zero .negative := by
    intro parts
    rw [← pack_unpack x, parts] at plain
    exact plain rfl
  have parts (sign other : Sign) :
      UnpackedFloat.sub .binary64 x.toModel.unpack (.zero sign) =
        UnpackedFloat.sub .binary64 x.toModel.unpack (.zero other) := by
    cases found : x.toModel.unpack with
    | zero first =>
        cases first
        · exact absurd found negative
        · cases sign <;> cases other <;> rfl
    | _ => rfl
  rcases same with rfl | ⟨⟨sign, zero⟩, other, zero'⟩
  · rfl
  · have same := parts sign other
    rw [← zero, ← zero'] at same
    exact congrArg (fun parts => Float.ofModel (.pack parts)) same

/-- Numbers of which the one is the other with the opposite sign, or two zeros. -/
def Opposite (x y : Float) : Prop :=
  SameValue x (-y)

namespace Opposite

variable {x x' y y' : Float}

theorem neg (x : Float) : Opposite (-x) x :=
  .refl _

theorem symm (opposite : Opposite x y) : Opposite y x := by
  have back := SameValue.neg (SameValue.symm opposite)
  rw [neg_negated] at back
  exact back

theorem zero : Opposite 0 0 :=
  .inr ⟨isZero_zero, isZero_zero.neg⟩

theorem isZero_iff (opposite : Opposite x y) : IsZero x ↔ IsZero y := by
  have zero {x y : Float} (opposite : Opposite x y) (zero : IsZero x) : IsZero y := by
    rcases opposite with rfl | ⟨-, other⟩
    · exact neg_negated y ▸ zero.neg
    · exact neg_negated y ▸ other.neg
  exact ⟨zero opposite, zero opposite.symm⟩

theorem add (first : Opposite x x') (second : Opposite y y') : Opposite (x + y) (x' + y') :=
  (SameValue.add first second).trans (sameValue_neg_add x' y')

theorem sub (first : Opposite x x') (second : Opposite y y') : Opposite (x - y) (x' - y') := by
  rw [sub_eq_add_negated, sub_eq_add_negated]
  exact first.add (SameValue.neg second)

theorem mul_left (first : Opposite x x') (second : SameValue y y') :
    Opposite (x * y) (x' * y') := by
  have same := SameValue.mul first second
  rw [negated_mul] at same
  exact same

theorem mul_right (first : SameValue x x') (second : Opposite y y') :
    Opposite (x * y) (x' * y') := by
  rw [mul_swap x, mul_swap x']
  exact second.mul_left first

theorem mul (first : Opposite x x') (second : Opposite y y') : SameValue (x * y) (x' * y') := by
  have same := SameValue.mul first second
  rw [negated_mul_negated] at same
  exact same

theorem mul_self (opposite : Opposite x y) : x * x = y * y :=
  (SameValue.mul_self opposite).trans (negated_mul_negated y y)

theorem abs (opposite : Opposite x y) : x.abs = y.abs :=
  (SameValue.abs opposite).trans (abs_negated y)

theorem lt_iff (first : Opposite x x') (second : Opposite y y') : x < y ↔ y' < x' := by
  rw [Binary64.lt_iff, Binary64.lt_iff, UnpackedFloat.lt, UnpackedFloat.lt,
    SameValue.compare_eq first second, unpack_neg, unpack_neg, compare_parts_neg]

end Opposite

section Signs

variable {x y : Float}

theorem isNaN_unique (number : x.isNaN = true) (also : y.isNaN = true) : x = y := by
  rw [← pack_unpack x, ← pack_unpack y, isNaN_iff.mp number, isNaN_iff.mp also]

theorem isNaN_neg (none : x.isNaN = true) : (-x).isNaN = true := by
  rw [isNaN_iff, unpack_neg, isNaN_iff.mp none]
  rfl

theorem isNumber_of_lt (ordered : x < y) : x.isNaN = false ∧ y.isNaN = false := by
  rw [lt_iff, UnpackedFloat.lt, beq_iff_eq] at ordered
  constructor <;> rw [← Bool.not_eq_true, isNaN_iff] <;> intro none <;> rw [none] at ordered
  · cases ordered
  · cases parts : x.toModel.unpack <;> rw [parts] at ordered <;> cases ordered

theorem sign_cases (x : Float) : x.isNaN = true ∨ x < 0 ∨ IsZero x ∨ 0 < x := by
  rw [isNaN_iff, lt_iff, lt_iff]
  cases parts : x.toModel.unpack with
  | notANumber => exact .inl rfl
  | zero sign => exact .inr (.inr (.inl ⟨sign, parts⟩))
  | infinity sign =>
      cases sign
      · exact .inr (.inl rfl)
      · exact .inr (.inr (.inr rfl))
  | finite sign mantissa exponent positive =>
      cases sign
      · exact .inr (.inl rfl)
      · exact .inr (.inr (.inr rfl))

end Signs

section Lengths

variable {x x' y y' : Float}

/-- A length does not depend on signs. -/
theorem hypot_abs (x y : Float) : hypot x.abs y.abs = hypot x y := by
  have infinite (x : Float) : x.abs.isInf = x.isInf := by
    rw [Float.isInf, Float.isInf, Float.Model.isInf, Float.Model.isInf, unpack_abs]
    cases x.toModel.unpack <;> rfl
  have undefined (x : Float) : x.abs.isNaN = x.isNaN := by
    rw [Float.isNaN, Float.isNaN, Float.Model.isNaN, Float.Model.isNaN, unpack_abs]
    cases x.toModel.unpack <;> rfl
  have magnitude (x : Float) :
      magnitudeParts x.abs.toModel.unpack = magnitudeParts x.toModel.unpack := by
    rw [unpack_abs]
    cases x.toModel.unpack <;> rfl
  rw [hypot, hypot, infinite, infinite, undefined, undefined, magnitude, magnitude]

theorem hypot_congr (first : x.abs = x'.abs) (second : y.abs = y'.abs) :
    hypot x y = hypot x' y' := by
  rw [← hypot_abs, first, second, hypot_abs]

theorem isZero_hypot (first : IsZero x) (second : IsZero y) : IsZero (hypot x y) := by
  have none : hypot 0 0 = 0 := by decide
  rw [← hypot_abs, first.abs, second.abs, none]
  exact isZero_zero

end Lengths

section Sums

variable {x y : Float}

theorem isRounded_self (finite : IsFinite x) (atLeast : 0 ≤ exactValue x) :
    IsRounded (exactValue x) x :=
  ⟨isNaN_of_isFinite finite, fun _ _ _ below => ⟨finite, atLeast, below.le⟩,
    fun _ _ _ above => above⟩

theorem isRounded_sameValue {number : ℚ} (rounded : IsRounded number x)
    (same : SameValue x y) : IsRounded number y := by
  refine ⟨?_, fun place least most below => ?_, fun place least finite above => ?_⟩
  · rcases same with rfl | ⟨-, sign, parts⟩
    · exact rounded.isNumber
    · rw [Float.isNaN, Float.Model.isNaN, parts]
      rfl
  · obtain ⟨finite, atLeast, atMost⟩ := rounded.below place least most below
    rw [← same.exactValue_eq]
    exact ⟨same.isFinite finite, atLeast, atMost⟩
  · rw [← same.exactValue_eq]
    exact rounded.above place least (same.symm.isFinite finite) above

theorem exactValue_of_zero {sign : Sign} (parts : x.toModel.unpack = .zero sign) :
    exactValue x = 0 := by
  rw [exactValue, parts]
  rfl

theorem exactValue_ne_zero {sign : Sign} {mantissa : ℕ} {exponent : ℤ} {positive : 0 < mantissa}
    (parts : x.toModel.unpack = .finite sign mantissa exponent positive) : exactValue x ≠ 0 := by
  have size : (0 : ℚ) < mantissa * 2 ^ exponent := by positivity
  rw [exactValue, parts]
  cases sign with
  | positive => exact size.ne'
  | negative => exact (neg_lt_zero.mpr size).ne

theorem isResult_add (finite : IsFinite x) (also : IsFinite y) (nonzero : exactValue x ≠ 0)
    (nonzeroToo : exactValue y ≠ 0) (above : 0 < exactValue x + exactValue y) :
    IsResult (exactValue x + exactValue y) (x + y) := by
  rcases finite_cases finite with ⟨sign, parts⟩ | ⟨sign, mantissa, exponent, positive, parts⟩
  · exact absurd (exactValue_of_zero parts) nonzero
  · rcases finite_cases also with ⟨other, partsToo⟩ | ⟨other, units, power, some, partsToo⟩
    · exact absurd (exactValue_of_zero partsToo) nonzeroToo
    · let place := min exponent power
      let total := sign.apply ((mantissa <<< (exponent - place).toNat : ℕ) : ℤ) +
        other.apply ((units <<< (power - place).toNat : ℕ) : ℤ)
      have sum : x + y =
          .ofModel (.pack (UnpackedFloat.normalize .binary64 total place .positive)) := by
        change Float.ofModel (.pack (UnpackedFloat.add .binary64 x.toModel.unpack
          y.toModel.unpack)) = _
        rw [parts, partsToo]
        rfl
      have exact : exactValue x + exactValue y = (total : ℚ) * 2 ^ place := by
        rw [Int.cast_add, add_mul, aligned_signed (min_le_left _ _),
          aligned_signed (min_le_right _ _), exactValue, exactValue, parts, partsToo]
        rfl
      rw [exact] at above ⊢
      rw [sum]
      have positive : (0 : ℚ) < total := pos_of_mul_pos_left above (by positivity)
      exact isResult_normalize (by exact_mod_cast positive) place .positive

/-- A sum above zero is rounded as other results are. -/
theorem isRounded_add (finite : IsFinite x) (also : IsFinite y)
    (above : 0 < exactValue x + exactValue y) :
    IsRounded (exactValue x + exactValue y) (x + y) := by
  rcases finite_cases finite with ⟨sign, parts⟩ | ⟨sign, mantissa, exponent, positive, parts⟩
  · rw [exactValue_of_zero parts, zero_add] at above ⊢
    rw [add_swap]
    exact isRounded_sameValue (isRounded_self also above.le)
      (sameValue_add_zero y ⟨sign, parts⟩).symm
  · rcases finite_cases also with ⟨other, partsToo⟩ | ⟨other, units, power, nonzero, partsToo⟩
    · rw [exactValue_of_zero partsToo, add_zero] at above ⊢
      exact isRounded_sameValue (isRounded_self finite above.le)
        (sameValue_add_zero x ⟨other, partsToo⟩).symm
    · exact (isResult_add finite also (exactValue_ne_zero parts) (exactValue_ne_zero partsToo)
        above).isRounded

theorem isFinite_neg (finite : IsFinite x) : IsFinite (-x) := by
  rw [IsFinite, Float.isFinite, Float.Model.isFinite, unpack_neg]
  rcases finite_cases finite with ⟨sign, parts⟩ | ⟨sign, mantissa, exponent, positive, parts⟩ <;>
    rw [parts] <;> rfl

theorem exactValue_neg (x : Float) : exactValue (-x) = -exactValue x := by
  rw [exactValue, exactValue, unpack_neg]
  cases x.toModel.unpack with
  | finite sign mantissa exponent positive =>
      cases sign with
      | positive => rfl
      | negative => exact (neg_neg _).symm
  | _ => exact neg_zero.symm

theorem isResult_sub (finite : IsFinite x) (also : IsFinite y) (above : 0 < exactValue y)
    (less : exactValue y < exactValue x) : IsResult (exactValue x - exactValue y) (x - y) := by
  have opposite := exactValue_neg y
  have result := isResult_add finite (isFinite_neg also) (above.trans less).ne'
    (by rw [opposite]; exact (neg_lt_zero.mpr above).ne)
    (by rw [opposite, ← sub_eq_add_neg]; exact sub_pos.mpr less)
  rw [opposite, ← sub_eq_add_neg, ← sub_eq_add_negated] at result
  exact result

theorem isRounded_sub (finite : IsFinite x) (also : IsFinite y)
    (less : exactValue y < exactValue x) :
    IsRounded (exactValue x - exactValue y) (x - y) := by
  have rounded := isRounded_add finite (isFinite_neg also)
    (by rw [exactValue_neg, ← sub_eq_add_neg]; exact sub_pos.mpr less)
  rw [exactValue_neg, ← sub_eq_add_neg, ← sub_eq_add_negated] at rounded
  exact rounded

end Sums

end GantryCode.Binary64
