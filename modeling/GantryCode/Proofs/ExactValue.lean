import GantryCode.Proofs.Nearest
import GantryCode.Proofs.NumeralValue
import GantryCode.Proofs.PositiveWhole
import GantryCode.Writer.Named

namespace GantryCode

/-! Finite floating-point numbers as the fractions that they are.

Comparison of floating-point numbers, which is one of exponents first, is the comparison of
those fractions. A number is written as the nearest multiple of the last decimal place.
-/

open Float.Model (Format UnpackedFloat)

namespace Binary64

open Decimal (IsFinite signedValue)

def exactParts : UnpackedFloat → ℚ
  | .finite sign mantissa exponent _ => signedValue sign (mantissa * 2 ^ exponent)
  | _ => 0

def exactValue (value : Float) : ℚ :=
  exactParts value.toModel.unpack

theorem le_iff (x y : Float) : x ≤ y ↔ x.toModel.unpack.le y.toModel.unpack = true := by
  change Float.le x y = true ↔ _
  rw [Float.le, decide_eq_true_iff]
  exact Iff.rfl

variable {x y : Float} {sign : UnpackedFloat.Sign} {mantissa other : ℕ} {exponent power : ℤ}
  {positive : 0 < mantissa}

theorem finite_cases (finite : IsFinite x) : (∃ sign, x.toModel.unpack = .zero sign) ∨
    ∃ sign mantissa exponent positive,
      x.toModel.unpack = .finite sign mantissa exponent positive := by
  rw [IsFinite, Float.isFinite, Float.Model.isFinite] at finite
  cases parts : x.toModel.unpack with
  | notANumber => cases parts ▸ finite
  | infinity sign => cases parts ▸ finite
  | zero sign => exact .inl ⟨sign, rfl⟩
  | finite sign mantissa exponent positive => exact .inr ⟨sign, mantissa, exponent, positive, rfl⟩

theorem unpack_exponent (same : x.toModel.unpack = .finite sign mantissa exponent positive) :
    -1074 ≤ exponent := by
  rw [Float.Model.unpack, UnpackedFloat.unpack] at same
  dsimp only at same
  split at same
  · split at same <;> cases same
  · split at same
    · next small =>
        split at same
        · cases same
        · rw [small] at same
          cases same
          decide
    · next normal =>
        cases same
        have above : 0 < (@UnpackedFloat.unpackExponent Format.binary64
            x.toModel.toBits.toBitVec).toNat :=
          Nat.pos_of_ne_zero fun zero => normal (BitVec.eq_of_toNat_eq zero)
        change -1074 ≤ (_ : ℤ) - ((1023 : ℤ) + 52)
        omega

/-- The bits of a mantissa make up for less than one step of the exponent. -/
theorem scaled_lt (bits : mantissa < 2 ^ 53) (canonical : 2 ^ 52 ≤ other)
    (less : exponent < power) : (mantissa : ℚ) * 2 ^ exponent < other * 2 ^ power := by
  have bits : (mantissa : ℚ) < 2 ^ 53 := by exact_mod_cast bits
  have canonical : (2 : ℚ) ^ 52 ≤ other := by exact_mod_cast canonical
  have step : (2 : ℚ) ^ (exponent + 1) ≤ 2 ^ power :=
    zpow_le_zpow_right₀ one_le_two (Int.add_one_le_iff.mpr less)
  calc (mantissa : ℚ) * 2 ^ exponent < 2 ^ 53 * 2 ^ exponent :=
        mul_lt_mul_of_pos_right bits (by positivity)
    _ = 2 ^ 52 * 2 ^ (exponent + 1) := by rw [zpow_add_one₀ two_ne_zero]; ring
    _ ≤ other * 2 ^ power := mul_le_mul canonical step (by positivity) (by positivity)

/-- Of two unpacked numbers with one sign the one with the lower exponent is closer to zero,
or with the same exponent the one with the lower mantissa. -/
theorem scaled_le (bits : mantissa < 2 ^ 53) (least : -1074 ≤ exponent)
    (canonical : -1074 < power → 2 ^ 52 ≤ other)
    (ordered : ((compare exponent power).then (compare mantissa other)).isLE = true) :
    (mantissa : ℚ) * 2 ^ exponent ≤ other * 2 ^ power := by
  rcases Int.lt_trichotomy exponent power with less | rfl | greater
  · exact (scaled_lt bits (canonical (by omega)) less).le
  · rw [Int.compare_eq_eq.mpr rfl, Ordering.eq_then, Nat.isLE_compare] at ordered
    have ordered : (mantissa : ℚ) ≤ other := by exact_mod_cast ordered
    exact mul_le_mul_of_nonneg_right ordered (by positivity)
  · rw [Int.compare_eq_gt.mpr greater] at ordered
    cases ordered

theorem exactValue_mono (finite : IsFinite x) (also : IsFinite y) (ordered : x ≤ y) :
    exactValue x ≤ exactValue y := by
  have above (mantissa : ℕ) (exponent : ℤ) : (0 : ℚ) ≤ mantissa * 2 ^ exponent := by positivity
  rw [le_iff] at ordered
  rw [exactValue, exactValue]
  rcases finite_cases finite with ⟨sign, here⟩ | ⟨sign, mantissa, exponent, positive, here⟩
  · rcases finite_cases also with ⟨other, there⟩ | ⟨other, digits, power, nonzero, there⟩
    · rw [here, there]
      exact le_rfl
    · rw [here, there] at ordered ⊢
      cases other with
      | positive => exact above digits power
      | negative => simp [UnpackedFloat.le, UnpackedFloat.compare] at ordered
  · rcases finite_cases also with ⟨other, there⟩ | ⟨other, digits, power, nonzero, there⟩
    · rw [here, there] at ordered ⊢
      cases sign with
      | positive => simp [UnpackedFloat.le, UnpackedFloat.compare] at ordered
      | negative => exact neg_nonpos.mpr (above mantissa exponent)
    · obtain ⟨bits, canonical⟩ := unpack_canonical here
      obtain ⟨short, normal⟩ := unpack_canonical there
      rw [here, there] at ordered ⊢
      cases sign with
      | positive =>
          cases other with
          | positive => exact scaled_le bits (unpack_exponent here) normal ordered
          | negative => simp [UnpackedFloat.le, UnpackedFloat.compare] at ordered
      | negative =>
          cases other with
          | positive =>
              exact (neg_nonpos.mpr (above mantissa exponent)).trans (above digits power)
          | negative =>
              refine neg_le_neg (scaled_le short (unpack_exponent there) canonical ?_)
              change ((compare exponent power).then (compare mantissa digits)).swap.isLE = true
                at ordered
              rwa [Ordering.swap_then, Int.compare_swap, Nat.compare_swap] at ordered

end Binary64

namespace Decimal

open Binary64 (exactParts exactValue finite_cases)

variable {value : Float} {number : ℚ} {units : ℤ}

/-- Every power of two divides the same power of ten. -/
theorem unitsAt_exact (mantissa : ℕ) (exponent : ℤ) :
    (unitsAt (-exponent).toNat mantissa exponent : ℚ) =
      mantissa * 2 ^ exponent * 10 ^ (-exponent).toNat := by
  have rounds := unitsAt_nearest (-exponent).toNat mantissa exponent
  obtain ⟨whole, exact⟩ :
      ∃ whole : ℤ, (mantissa : ℚ) * 2 ^ exponent * 10 ^ (-exponent).toNat = whole := by
    cases exponent with
    | ofNat shift =>
        refine ⟨mantissa * 2 ^ shift * 10 ^ (-Int.ofNat shift).toNat, ?_⟩
        push_cast
        rfl
    | negSucc shift =>
        refine ⟨mantissa * 5 ^ (shift + 1), ?_⟩
        rw [zpow_negSucc, Int.neg_negSucc, Int.toNat_natCast, (by norm_num : (10 : ℚ) = 2 * 5),
          mul_pow]
        push_cast
        field_simp
  rw [exact] at rounds ⊢
  exact_mod_cast rounds.unique (isNearest_intCast whole)

/-- Places beyond those that hold a number exactly make no other number of it. -/
theorem unitsAt_enough (places mantissa : ℕ) (exponent : ℤ) :
    let held := min places (-exponent).toNat
    ∃ units : ℕ, IsNearest ((mantissa : ℚ) * 2 ^ exponent * 10 ^ places) (units : ℤ) ∧
      (unitsAt held mantissa exponent : ℚ) / 10 ^ held = units / 10 ^ places := by
  rcases Nat.le_total places (-exponent).toNat with few | enough
  · rw [Nat.min_eq_left few]
    exact ⟨_, unitsAt_nearest places mantissa exponent, rfl⟩
  · rw [Nat.min_eq_right enough]
    obtain ⟨more, rfl⟩ := Nat.exists_eq_add_of_le enough
    have held := unitsAt_exact mantissa exponent
    refine ⟨unitsAt (-exponent).toNat mantissa exponent * 10 ^ more, ?_, ?_⟩
    · rw [pow_add, ← mul_assoc, ← held]
      exact_mod_cast isNearest_intCast _
    · rw [pow_add]
      push_cast
      field_simp

theorem IsNearest.withSign (rounds : IsNearest number units) (sign : UnpackedFloat.Sign) :
    IsNearest (signedValue sign number) (sign.apply units) := by
  cases sign with
  | positive => exact rounds
  | negative => exact rounds.neg

theorem signedValue_mul (sign : UnpackedFloat.Sign) (number scale : ℚ) :
    signedValue sign (number * scale) = signedValue sign number * scale := by
  cases sign with
  | positive => rfl
  | negative => exact (neg_mul number scale).symm

theorem signedValue_cast (sign : UnpackedFloat.Sign) (units : ℤ) :
    signedValue sign units = (sign.apply units : ℤ) := by
  cases sign with
  | positive => rfl
  | negative => exact (Int.cast_neg units).symm

/-- A finite number is written as the nearest multiple of the last place. -/
theorem rounded_nearest (places : ℕ) (finite : IsFinite value) :
    ∃ units : ℤ, IsNearest (exactValue value * 10 ^ places) units ∧
      denoted (rounded places value).toList = units / 10 ^ places := by
  rw [rounded, String.toList_ofList, fixedChars, exactPlaces, exactValue]
  rcases finite_cases finite with ⟨sign, parts⟩ | ⟨sign, mantissa, exponent, positive, parts⟩
  · rw [parts]
    refine ⟨0, ?_, ?_⟩
    · rw [exactParts, zero_mul]
      · exact isNearest_intCast 0
      · rintro _ _ _ _ ⟨⟩
    · refine (denoted_shortened sign _ 0).trans ?_
      cases sign <;> simp [signedValue]
  · rw [parts]
    obtain ⟨units, rounds, same⟩ := unitsAt_enough places mantissa exponent
    refine ⟨sign.apply units, ?_, ?_⟩
    · rw [exactParts, ← signedValue_mul]
      exact rounds.withSign sign
    · rw [← signedValue_cast, div_eq_mul_inv, ← signedValue_mul, ← div_eq_mul_inv]
      refine (denoted_shortened sign _ _).trans ?_
      rw [same]
      rfl

theorem IsNearest.error {places : ℕ} (rounds : IsNearest (number * 10 ^ places) units) :
    |number - units / 10 ^ places| ≤ 1 / 2 / 10 ^ places := by
  have scale : (0 : ℚ) < 10 ^ places := by positivity
  have apart : number - units / 10 ^ places = (number * 10 ^ places - units) / 10 ^ places := by
    field_simp
  rw [apart, abs_div, abs_of_pos scale]
  gcongr
  exact rounds.half

/-- Finite numbers are written alike if and only if they round to the same multiple. -/
theorem rounded_eq_iff (places : ℕ) {other : Float} (finite : IsFinite value)
    (also : IsFinite other) : rounded places value = rounded places other ↔
      ∃ units, IsNearest (exactValue value * 10 ^ places) units ∧
        IsNearest (exactValue other * 10 ^ places) units := by
  obtain ⟨units, rounds, same⟩ := rounded_nearest places finite
  obtain ⟨more, near, alike⟩ := rounded_nearest places also
  constructor
  · intro equal
    rw [equal, alike] at same
    have scale : (10 : ℚ) ^ places ≠ 0 := by positivity
    have agree : more = units := by exact_mod_cast (div_left_inj' scale).mp same
    exact ⟨units, rounds, agree ▸ near⟩
  · rintro ⟨common, first, second⟩
    cases rounds.unique first
    cases near.unique second
    have numbers := same.trans alike.symm
    exact String.toList_inj.mp ((rounded_isNumeral places finite).unique
      (rounded_isNumeral places also) numbers)

/-- A greater number is not written as a smaller one. -/
theorem rounded_mono (places : ℕ) {other : Float} (finite : IsFinite value)
    (also : IsFinite other) (ordered : value ≤ other) :
    denoted (rounded places value).toList ≤ denoted (rounded places other).toList := by
  obtain ⟨units, rounds, same⟩ := rounded_nearest places finite
  obtain ⟨more, near, alike⟩ := rounded_nearest places also
  have exact := Binary64.exactValue_mono finite also ordered
  have order : units ≤ more :=
    rounds.mono near (mul_le_mul_of_nonneg_right exact (by positivity))
  rw [same, alike]
  gcongr

end Decimal

namespace Writer

open Binary64 (exactValue)
open Decimal (IsFinite IsNearest IsNumeral denoted rounded)

/-- Feed rates are whole numbers. -/
def placesOf (writer : Writer) (letter : Letter) : ℕ :=
  if letter = .f then 0 else writer.precision.toNat

variable {writer : Writer} {letter : Letter}

theorem isWholeName_name (letter : Letter) : isWholeName letter.name = decide (letter = .f) := by
  cases letter <;> decide

/-- There are decimal places enough to count. -/
theorem namedText_rounded (counted : 0 ≤ writer.precision)
    (held : (writer.placesOf letter : ℤ) ≤ precisionLimit) (value : Float) :
    writer.namedText letter.name value = .ok (rounded (writer.placesOf letter) value) := by
  have longer : precisionLimit < precisionTextLimit := by decide
  rw [namedText, isWholeName_name, valueText]
  by_cases whole : letter = .f
  · rw [placesOf, if_pos whole, decide_eq_true whole]
    rfl
  · rw [placesOf, if_neg whole] at held ⊢
    rw [decide_eq_false whole]
    rw [if_neg Bool.false_ne_true]
    rw [if_neg (by omega), if_neg (by omega), if_neg (by omega)]

/-- A finite value is written with nothing that could be left out, as the multiple of the last
place that is nearest to it. Two values are written alike if and only if the same multiple is
nearest to both, and a greater value is never written as a smaller number. The bound leaves
room for the digits that the greatest number has in front of its point. -/
theorem rendered_nearest (letter : Letter) (counted : 0 ≤ writer.precision)
    (held : writer.placesOf letter + 309 ≤ 2147483647) :
    let places := writer.placesOf letter
    (∀ value, IsFinite value → ∃ text units, writer.namedText letter.name value = .ok text ∧
      IsNumeral places text.toList ∧ IsNearest (exactValue value * 10 ^ places) units ∧
      denoted text.toList = units / 10 ^ places ∧
      |exactValue value - denoted text.toList| ≤ 1 / 2 / 10 ^ places) ∧
    (∀ value other, IsFinite value → IsFinite other →
      (writer.namedText letter.name value = writer.namedText letter.name other ↔
        ∃ units, IsNearest (exactValue value * 10 ^ places) units ∧
          IsNearest (exactValue other * 10 ^ places) units)) ∧
    ∀ value other text more, IsFinite value → IsFinite other → value ≤ other →
      writer.namedText letter.name value = .ok text →
      writer.namedText letter.name other = .ok more →
      denoted text.toList ≤ denoted more.toList := by
  intro places
  have counts : (writer.placesOf letter : ℤ) ≤ precisionLimit := by
    have limit : precisionLimit = 2147483647 := rfl
    omega
  have shown := @namedText_rounded writer letter counted counts
  refine ⟨?_, ?_, ?_⟩
  · intro value finite
    obtain ⟨units, rounds, same⟩ := Decimal.rounded_nearest places finite
    refine ⟨_, units, shown value, Decimal.rounded_isNumeral places finite, rounds, same, ?_⟩
    exact same ▸ rounds.error
  · intro value other finite also
    rw [shown, shown, Except.ok.injEq]
    exact Decimal.rounded_eq_iff places finite also
  · intro value other text more finite also ordered here there
    cases (shown value).symm.trans here
    cases (shown other).symm.trans there
    exact Decimal.rounded_mono places finite also ordered

/-- One eighth is in the middle between two hundredths, of which the even one is written. -/
theorem rendered_eighth :
    let writer : Writer := { target := .marlin, stamp := "", precision := 2 }
    0 ≤ writer.precision ∧ writer.placesOf .x + 309 ≤ 2147483647 ∧ IsFinite 0.125 ∧
      writer.namedText Letter.x.name 0.125 = .ok "0.12" ∧
      ∃ units, IsNearest (exactValue 0.125 * 10 ^ writer.placesOf .x) units ∧
        denoted "0.12".toList = units / 10 ^ writer.placesOf .x := by
  intro writer
  have finite : IsFinite 0.125 := by decide +kernel
  have written : writer.namedText Letter.x.name 0.125 = .ok "0.12" := by decide +kernel
  obtain ⟨text, units, shown, -, rounds, same, -⟩ :=
    (@rendered_nearest writer .x (by decide) (by decide)).1 0.125 finite
  cases written.symm.trans shown
  exact ⟨by decide, by decide, finite, written, units, rounds, same⟩

/-- More places than can be counted are refused, whatever the value. -/
theorem uncounted_places_refused :
    let writer : Writer := { target := .marlin, stamp := "", precision := 2147483648 }
    0 ≤ writer.precision ∧ IsFinite 1 ∧
      ∀ text, writer.namedText Letter.x.name 1 ≠ .ok text := by
  intro writer
  have refused : writer.namedText Letter.x.name 1 = .error .precisionTooLarge := by decide +kernel
  exact ⟨by decide, by decide +kernel, fun text shown => nomatch refused.symm.trans shown⟩

end Writer

end GantryCode
