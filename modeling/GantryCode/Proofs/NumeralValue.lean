import GantryCode.Proofs.DecimalText
import Mathlib.Data.Rat.Floor
import Mathlib.Tactic.FieldSimp
import Mathlib.Tactic.Positivity

namespace GantryCode.Decimal

/-! The numbers that decimal texts denote.

A text is read without regard to how it was written. Leaving out the zeros behind a fraction
changes nothing in its number, and where there is nothing left to leave out, a number has no
other text.
-/

open Float.Model (UnpackedFloat)

def wholeValue (digits : List Char) : ℕ :=
  Nat.ofDigitChars 10 digits 0

/-- The number of a text of digits, with a point among them or without. -/
def magnitude (text : List Char) : ℚ :=
  let behind := (text.dropWhile (· != '.')).tail
  wholeValue (text.takeWhile (· != '.') ++ behind) / 10 ^ behind.length

def denoted : List Char → ℚ
  | '-' :: text => -magnitude text
  | text => magnitude text

def signedValue : UnpackedFloat.Sign → ℚ → ℚ
  | .negative, value => -value
  | .positive, value => value

section Digits

variable {digits behind others after : List Char}

theorem wholeValue_append (digits behind : List Char) :
    wholeValue (digits ++ behind) = 10 ^ behind.length * wholeValue digits + wholeValue behind := by
  rw [wholeValue, Nat.ofDigitChars_append, Nat.ofDigitChars_eq_ofDigitChars_zero]
  rfl

@[simp] theorem wholeValue_zeros (count : ℕ) : wholeValue (List.replicate count '0') = 0 := by
  rw [wholeValue, Nat.ofDigitChars_replicate_zero, Nat.mul_zero]

@[simp] theorem wholeValue_decimalDigits (number : ℕ) :
    wholeValue (Text.decimalDigits number) = number :=
  Nat.ofDigitChars_ten_toDigits

theorem wholeValue_padded (count : ℕ) (digits : List Char) :
    wholeValue (List.replicate count '0' ++ digits) = wholeValue digits := by
  rw [wholeValue_append, wholeValue_zeros, Nat.mul_zero, Nat.zero_add]

theorem wholeValue_filled (digits : List Char) (count : ℕ) :
    wholeValue (digits ++ List.replicate count '0') = 10 ^ count * wholeValue digits := by
  rw [wholeValue_append, wholeValue_zeros, List.length_replicate, Nat.add_zero]

theorem wholeValue_concat (digits : List Char) (c : Char) :
    wholeValue (digits ++ [c]) = 10 * wholeValue digits + (c.toNat - 48) := by
  rw [wholeValue, Nat.ofDigitChars_append, Nat.ofDigitChars_cons, Nat.ofDigitChars_nil]
  rfl

theorem digit_range {c : Char} (digit : c.isDigit = true) : 48 ≤ c.toNat ∧ c.toNat ≤ 57 :=
  Char.isDigit_iff_toNat.mp digit

theorem zeros_isDigit (count : ℕ) : ∀ c ∈ List.replicate count '0', c.isDigit = true := by
  intro c member
  rw [List.eq_of_mem_replicate member]
  rfl

/-- As many digits that write the same number are the same digits. -/
theorem eq_of_wholeValue (numeric : ∀ c ∈ digits, c.isDigit = true)
    (also : ∀ c ∈ others, c.isDigit = true) (long : digits.length = others.length)
    (same : wholeValue digits = wholeValue others) : digits = others := by
  induction digits using List.reverseRecOn generalizing others with
  | nil => exact (List.length_eq_zero_iff.mp long.symm).symm
  | append_singleton front last ih =>
      have nonempty : others ≠ [] := by
        rintro rfl
        simp at long
      obtain ⟨first, final, rfl⟩ := (List.eq_nil_or_concat' others).resolve_left nonempty
      rw [wholeValue_concat, wholeValue_concat] at same
      have here := digit_range (numeric last (by simp))
      have there := digit_range (also final (by simp))
      have alike : last = final := Char.toNat_inj.mp (by omega)
      have rest := ih (fun c member => numeric c (List.mem_append_left _ member))
        (fun c member => also c (List.mem_append_left _ member)) (by simpa using long) (by omega)
      rw [rest, alike]

theorem dropTrailing_zeros (count : ℕ) (text : List Char) :
    dropTrailing '0' (text ++ List.replicate count '0') = dropTrailing '0' text := by
  induction count with
  | zero => rw [List.replicate_zero, List.append_nil]
  | succ count ih => rw [List.replicate_succ', ← List.append_assoc, dropTrailing_concat, ih]

theorem dropTrailing_of_needed (needed : behind.getLast? ≠ some '0') :
    dropTrailing '0' behind = behind := by
  rcases List.eq_nil_or_concat' behind with rfl | ⟨front, last, rfl⟩
  · rfl
  · exact dropTrailing_eq_self front fun zero => needed (by rw [zero]; simp)

/-- Only zeros are left out. -/
theorem dropTrailing_fill (text : List Char) :
    ∃ count, text = dropTrailing '0' text ++ List.replicate count '0' := by
  induction text using List.reverseRecOn with
  | nil => exact ⟨0, rfl⟩
  | append_singleton front last ih =>
      by_cases zero : last = '0'
      · subst zero
        obtain ⟨count, filled⟩ := ih
        refine ⟨count + 1, ?_⟩
        rw [dropTrailing_concat, List.replicate_succ', ← List.append_assoc, ← filled]
      · exact ⟨0, by rw [dropTrailing_eq_self front zero, List.replicate_zero, List.append_nil]⟩

/-- There is no zero to take from the front of a whole number. -/
theorem IsWhole.unpadded {count : ℕ} (written : IsWhole (List.replicate count '0' ++ digits))
    (nonempty : digits ≠ []) : count = 0 := by
  cases count with
  | zero => rfl
  | succ count =>
      have alone := congrArg List.length (written.2 (by simp [List.replicate_succ]))
      have long := List.length_pos_iff.mpr nonempty
      simp at alone
      omega

theorem IsWhole.eq_of_padded {count more : ℕ} (written : IsWhole digits) (also : IsWhole others)
    (same : List.replicate count '0' ++ digits = List.replicate more '0' ++ others) :
    digits = others := by
  induction count generalizing more with
  | zero =>
      rw [List.replicate_zero, List.nil_append] at same
      rw [same] at written
      rw [same, written.unpadded also.1.1, List.replicate_zero, List.nil_append]
  | succ count ih =>
      cases more with
      | zero =>
          rw [List.replicate_zero, List.nil_append] at same
          rw [← same] at also
          cases also.unpadded written.1.1
      | succ more =>
          rw [List.replicate_succ, List.replicate_succ] at same
          exact ih (List.cons_inj_right _ |>.mp same)

/-- Digits in front of the point and behind it are known by their number, as long as there is
no zero to leave out. -/
theorem eq_of_scaled (written : IsWhole digits) (numeric : ∀ c ∈ behind, c.isDigit = true)
    (needed : behind.getLast? ≠ some '0') (also : IsWhole others)
    (digital : ∀ c ∈ after, c.isDigit = true) (wanted : after.getLast? ≠ some '0')
    (same : 10 ^ after.length * wholeValue (digits ++ behind) =
      10 ^ behind.length * wholeValue (others ++ after)) : digits = others ∧ behind = after := by
  -- Both are filled up with as many zeros as the other has digits, in front and behind.
  let ends := behind ++ List.replicate after.length '0'
  let tails := after ++ List.replicate behind.length '0'
  have long : ends.length = tails.length := by
    simp only [ends, tails, List.length_append, List.length_replicate]
    omega
  have equal : List.replicate others.length '0' ++ digits ++ ends =
      List.replicate digits.length '0' ++ others ++ tails := by
    refine eq_of_wholeValue ?_ ?_ ?_ ?_
    · simp only [ends, List.forall_mem_append]
      exact ⟨⟨zeros_isDigit _, written.1.2⟩, numeric, zeros_isDigit _⟩
    · simp only [tails, List.forall_mem_append]
      exact ⟨⟨zeros_isDigit _, also.1.2⟩, digital, zeros_isDigit _⟩
    · simp only [List.length_append, long, List.length_replicate]
      omega
    · rw [List.append_assoc, List.append_assoc, wholeValue_padded, wholeValue_padded,
        ← List.append_assoc, ← List.append_assoc, wholeValue_filled, wholeValue_filled, same]
  obtain ⟨fronts, backs⟩ := List.append_inj' equal long
  refine ⟨written.eq_of_padded also fronts, ?_⟩
  have dropped := congrArg (dropTrailing '0') backs
  simp only [ends, tails, dropTrailing_zeros] at dropped
  rwa [dropTrailing_of_needed needed, dropTrailing_of_needed wanted] at dropped

end Digits

section Values

variable {places more : ℕ} {digits behind text other : List Char}

theorem unpointed (numeric : ∀ c ∈ digits, c.isDigit = true) :
    ∀ c ∈ digits, (c != '.') = true := by
  intro c member
  refine bne_iff_ne.mpr fun point => ?_
  cases point ▸ numeric c member

theorem magnitude_digits (numeric : ∀ c ∈ digits, c.isDigit = true) :
    magnitude digits = wholeValue digits := by
  have inside := unpointed numeric
  have none : digits.dropWhile (· != '.') = [] := List.dropWhile_eq_nil_iff.mpr inside
  have all : digits.takeWhile (· != '.') = digits := List.takeWhile_eq_self_iff.mpr inside
  simp [magnitude, none, all]

theorem magnitude_point (numeric : ∀ c ∈ digits, c.isDigit = true) :
    magnitude (digits ++ '.' :: behind) = wholeValue (digits ++ behind) / 10 ^ behind.length := by
  have inside := unpointed numeric
  simp [magnitude, List.takeWhile_append_of_pos inside, List.dropWhile_append_of_pos inside]

theorem magnitude_pointed (written : IsDigits digits) :
    magnitude (pointed digits behind) = wholeValue (digits ++ behind) / 10 ^ behind.length := by
  rw [pointed]
  split
  · next none =>
      rw [none, magnitude_digits written.2]
      simp
  · exact magnitude_point written.2

/-- The number of a text of digits is not changed by the zeros behind its point. -/
theorem magnitude_trimmed (written : IsDigits digits) (behind : List Char) :
    magnitude (pointed digits (dropTrailing '0' behind)) = magnitude (digits ++ '.' :: behind) := by
  obtain ⟨count, filled⟩ := dropTrailing_fill behind
  rw [magnitude_pointed written, magnitude_point written.2]
  generalize dropTrailing '0' behind = kept at filled
  rw [filled, ← List.append_assoc, wholeValue_filled, List.length_append, List.length_replicate,
    pow_add]
  push_cast
  field_simp

theorem magnitude_withPoint (places units : ℕ) :
    magnitude (withPoint places units) = (units : ℚ) / 10 ^ places := by
  let digits := Text.decimalDigits units
  let padded := List.replicate (places + 1 - digits.length) '0' ++ digits
  have numeric : ∀ c ∈ padded, c.isDigit = true :=
    List.forall_mem_append.mpr ⟨zeros_isDigit _, (decimalDigits_isDigits units).2⟩
  have long : padded.length = max (places + 1) digits.length := by
    simp only [padded, List.length_append, List.length_replicate]
    omega
  have value : wholeValue padded = units := by
    rw [wholeValue_padded, wholeValue_decimalDigits]
  by_cases none : places = 0
  · rw [withPoint, if_pos none]
    change magnitude padded = _
    rw [magnitude_digits numeric, value, none, pow_zero, div_one]
  · rw [withPoint, if_neg none]
    change magnitude (padded.take (padded.length - places) ++
      '.' :: padded.drop (padded.length - places)) = _
    rw [magnitude_point fun c member => numeric c (List.mem_of_mem_take member),
      List.take_append_drop, value, List.length_drop,
      Nat.sub_sub_self (show places ≤ padded.length by omega)]

theorem magnitude_nonneg (text : List Char) : 0 ≤ magnitude text := by
  rw [magnitude]
  positivity

theorem IsPlain.pieces (plain : IsPlain places text) :
    ∃ digits behind, IsWhole digits ∧ (∀ c ∈ behind, c.isDigit = true) ∧
      behind.getLast? ≠ some '0' ∧ text = pointed digits behind := by
  cases plain with
  | whole written => exact ⟨text, [], written, by simp, by simp, (if_pos rfl).symm⟩
  | fraction written numeric short needed =>
      exact ⟨_, _, written, numeric.2, needed, (if_neg numeric.1).symm⟩

/-- A number in which there is nothing to leave out has one text. -/
theorem IsPlain.unique (plain : IsPlain places text) (also : IsPlain more other)
    (same : magnitude text = magnitude other) : text = other := by
  obtain ⟨digits, behind, written, numeric, needed, rfl⟩ := plain.pieces
  obtain ⟨others, after, whole, digital, wanted, rfl⟩ := also.pieces
  rw [magnitude_pointed written.1, magnitude_pointed whole.1,
    div_eq_div_iff (by positivity) (by positivity)] at same
  have scaled : 10 ^ after.length * wholeValue (digits ++ behind) =
      10 ^ behind.length * wholeValue (others ++ after) := by
    rw [mul_comm, mul_comm (10 ^ behind.length)]
    exact_mod_cast same
  obtain ⟨rfl, rfl⟩ := eq_of_scaled written numeric needed whole digital wanted scaled
  rfl

theorem IsPlain.unsigned (plain : IsPlain places text) : ∀ rest, text ≠ '-' :: rest := by
  rintro rest rfl
  rcases plain.isUnsigned.chars '-' (by simp) with point | digit
  · cases point
  · cases digit

theorem IsPlain.denoted_eq (plain : IsPlain places text) : denoted text = magnitude text := by
  cases text with
  | nil => rfl
  | cons c rest =>
      rw [denoted]
      rintro text ⟨⟩
      exact plain.unsigned _ rfl

/-- Two shortest texts of one number are the same text. -/
theorem IsNumeral.unique (numeral : IsNumeral places text) (also : IsNumeral more other)
    (same : denoted text = denoted other) : text = other := by
  have zero : magnitude ['0'] = 0 := by
    rw [magnitude_digits isWhole_zero.1.2]
    rfl
  have positive {places more : ℕ} {text other : List Char} (plain : IsPlain places text)
      (below : IsPlain more other) (nonzero : other ≠ ['0']) :
      magnitude text ≠ -magnitude other := by
    intro same
    have first := magnitude_nonneg text
    have second := magnitude_nonneg other
    exact nonzero (below.unique (.whole isWhole_zero : IsPlain 0 _) (by linarith))
  cases numeral with
  | positive plain =>
      rw [plain.denoted_eq] at same
      cases also with
      | positive other => exact plain.unique other (same.trans other.denoted_eq)
      | negative other nonzero => cases positive plain other nonzero same
  | negative plain nonzero =>
      cases also with
      | positive other =>
          rw [other.denoted_eq] at same
          cases positive other plain nonzero same.symm
      | negative other _ => rw [plain.unique other (neg_injective same)]

theorem denoted_withSign (sign : UnpackedFloat.Sign) (plain : IsPlain places text) :
    denoted (withSign sign text) = signedValue sign (magnitude text) := by
  cases sign with
  | positive =>
      have kept : ¬text = ['-', '0'] := fun same => plain.unsigned _ same
      rw [withSign, signChars, List.nil_append, if_neg kept, plain.denoted_eq]
      rfl
  | negative =>
      rw [withSign]
      split
      · next zero =>
          cases zero
          decide +kernel
      · rfl

/-- What is left of a number in its shortest form is the number. -/
theorem denoted_shortened (sign : UnpackedFloat.Sign) (places units : ℕ) :
    denoted (shortened (signChars sign ++ withPoint places units)) =
      signedValue sign ((units : ℚ) / 10 ^ places) := by
  rw [← magnitude_withPoint]
  rcases withPoint_cases places units with
    ⟨-, alone⟩ | ⟨digits, behind, written, numeric, long, split⟩
  · rw [shortened_of_unpointed (not_point_signed sign alone.1)]
    exact denoted_withSign sign (.whole alone : IsPlain 0 _)
  · rw [split, shortened_pointed sign written.1 numeric, ← magnitude_trimmed written.1]
    exact denoted_withSign sign (pointed_isPlain written
      (fun c member => numeric c (mem_of_mem_dropTrailing member))
      (length_dropTrailing_le behind) (getLast?_dropTrailing behind))

end Values

end GantryCode.Decimal
