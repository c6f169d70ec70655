import GantryCode.Proofs.NumberText
import Mathlib.Data.List.DropRight

namespace GantryCode.Decimal

/-! Decimal numbers as texts.

A finite number is written as a decimal number, to however many places it is rounded. What
is not finite is written as a word.
-/

abbrev IsFinite (value : Float) : Prop :=
  value.isFinite = true

def IsDigits (text : List Char) : Prop :=
  text ≠ [] ∧ ∀ c ∈ text, c.isDigit = true

/-- Digits, and maybe a fraction behind them. -/
inductive IsUnsigned : List Char → Prop where
  | whole {digits : List Char} (written : IsDigits digits) : IsUnsigned digits
  | fraction {digits places : List Char} (written : IsDigits digits) (behind : IsDigits places) :
      IsUnsigned (digits ++ '.' :: places)

inductive IsDecimal : List Char → Prop where
  | positive {text : List Char} (unsigned : IsUnsigned text) : IsDecimal text
  | negative {text : List Char} (unsigned : IsUnsigned text) : IsDecimal ('-' :: text)

/-- The digits of a whole number, with no zero in front of others. -/
def IsWhole (digits : List Char) : Prop :=
  IsDigits digits ∧ (digits.head? = some '0' → digits = ['0'])

/-- A number of at most so many decimal places, none of which could be left out. -/
inductive IsPlain (places : Nat) : List Char → Prop where
  | whole {digits : List Char} (written : IsWhole digits) : IsPlain places digits
  | fraction {digits behind : List Char} (written : IsWhole digits) (numeric : IsDigits behind)
      (short : behind.length ≤ places) (needed : behind.getLast? ≠ some '0') :
      IsPlain places (digits ++ '.' :: behind)

/-- Such a number with its sign, which zero does not have. -/
inductive IsNumeral (places : Nat) : List Char → Prop where
  | positive {text : List Char} (plain : IsPlain places text) : IsNumeral places text
  | negative {text : List Char} (plain : IsPlain places text) (nonzero : text ≠ ['0']) :
      IsNumeral places ('-' :: text)

open Float.Model (UnpackedFloat)

theorem isDecimal_digit {c : Char} (digit : c.isDigit = true) : IsDecimal [c] :=
  .positive (.whole ⟨by simp, by simpa using digit⟩)

theorem IsUnsigned.chars {text : List Char} (unsigned : IsUnsigned text) :
    ∀ c ∈ text, c = '.' ∨ c.isDigit = true := by
  intro c member
  cases unsigned with
  | whole written => exact .inr (written.2 c member)
  | fraction written behind =>
      rcases List.mem_append.mp member with whole | later
      · exact .inr (written.2 c whole)
      · rcases List.mem_cons.mp later with point | places
        · exact .inl point
        · exact .inr (behind.2 c places)

theorem IsDecimal.chars {text : List Char} (decimal : IsDecimal text) :
    ∀ c ∈ text, c = '-' ∨ c = '.' ∨ c.isDigit = true := by
  intro c member
  cases decimal with
  | positive unsigned => exact .inr (unsigned.chars c member)
  | negative unsigned =>
      rcases List.mem_cons.mp member with sign | later
      · exact .inl sign
      · exact .inr (unsigned.chars c later)

section Trailing

variable {unwanted : Char} {text : List Char}

theorem dropTrailing_eq_self {last : Char} (front : List Char) (kept : last ≠ unwanted) :
    dropTrailing unwanted (front ++ [last]) = front ++ [last] := by
  simp [dropTrailing, kept]

theorem dropTrailing_concat (text : List Char) :
    dropTrailing unwanted (text ++ [unwanted]) = dropTrailing unwanted text := by
  simp [dropTrailing]

theorem dropTrailing_point (text : List Char) :
    dropTrailing '0' ('.' :: text) = '.' :: dropTrailing '0' text := by
  have point : ('.' == '0') = false := by decide
  simp only [dropTrailing, List.reverse_cons, List.dropWhile_append]
  split
  · next empty =>
      rw [List.isEmpty_iff.mp empty]
      simp [point]
  · simp

theorem dropTrailing_append (visible : dropTrailing unwanted text ≠ []) (front : List Char) :
    dropTrailing unwanted (front ++ text) = front ++ dropTrailing unwanted text := by
  have left : (text.reverse.dropWhile (· == unwanted)).isEmpty = false := by
    simpa [dropTrailing] using visible
  simp only [dropTrailing, List.reverse_append, List.dropWhile_append, left, Bool.false_eq_true,
    if_false, List.reverse_reverse]

theorem length_dropTrailing_le (text : List Char) :
    (dropTrailing unwanted text).length ≤ text.length := by
  rw [dropTrailing, List.length_reverse]
  exact (List.dropWhile_sublist _).length_le.trans_eq List.length_reverse

theorem getLast?_dropTrailing (text : List Char) :
    (dropTrailing unwanted text).getLast? ≠ some unwanted := by
  intro last
  rw [dropTrailing, List.getLast?_reverse] at last
  have kept := List.head?_dropWhile_not (· == unwanted) text.reverse
  rw [last] at kept
  simp at kept

theorem dropTrailing_digits {digits : List Char} (written : IsDigits digits) (front : List Char) :
    dropTrailing '.' (front ++ digits) = front ++ digits := by
  obtain ⟨nonempty, numeric⟩ := written
  obtain ⟨others, last, rfl⟩ := (List.eq_nil_or_concat' digits).resolve_left nonempty
  rw [← List.append_assoc]
  refine dropTrailing_eq_self _ ?_
  rintro rfl
  cases numeric '.' (by simp)

end Trailing

theorem decimalDigits_isDigits (number : Nat) : IsDigits (Text.decimalDigits number) :=
  ⟨Nat.toDigits_ne_nil, fun _ => Nat.isDigit_of_mem_toDigits (by decide) (by decide)⟩

/-- Only zero begins with a zero. -/
theorem decimalDigits_head {number : Nat}
    (zero : (Text.decimalDigits number).head? = some '0') : number = 0 := by
  induction number using Nat.strongRecOn with
  | ind number ih =>
      rw [Text.decimalDigits, Nat.toDigits_eq_if (by decide)] at zero
      split at zero
      · next small =>
          have digit : ∀ value < 10, Nat.digitChar value = '0' → value = 0 := by decide
          exact digit number small (by simpa using zero)
      · next large =>
          rw [List.head?_append_of_ne_nil _ Nat.toDigits_ne_nil] at zero
          have rest := ih (number / 10) (by omega) zero
          omega

theorem isWhole_zero : IsWhole ['0'] := by
  refine ⟨⟨by simp, fun c member => ?_⟩, fun _ => rfl⟩
  rw [List.mem_singleton.mp member]
  rfl

/-- Only as many zeros are put in front of a number as its places need. -/
theorem withPoint_cases (places units : Nat) :
    places = 0 ∧ IsWhole (withPoint places units) ∨ ∃ digits behind, IsWhole digits ∧
      (∀ c ∈ behind, c.isDigit = true) ∧ behind.length = places ∧
      withPoint places units = digits ++ '.' :: behind := by
  let digits := Text.decimalDigits units
  let padded := List.replicate (places + 1 - digits.length) '0' ++ digits
  have numeric : ∀ c ∈ padded, c.isDigit = true := by
    intro c written
    rcases List.mem_append.mp written with zero | written
    · rw [(List.mem_replicate.mp zero).2]
      decide
    · exact (decimalDigits_isDigits units).2 c written
  have long : padded.length = max (places + 1) digits.length := by
    simp only [padded, List.length_append, List.length_replicate]
    omega
  have whole : IsWhole (padded.take (padded.length - places)) := by
    by_cases short : digits.length ≤ places
    · have single : padded.length - places = 1 := by omega
      have first : padded.take 1 = ['0'] := by
        obtain ⟨count, positive⟩ : ∃ count, places + 1 - digits.length = count + 1 :=
          ⟨places - digits.length, by omega⟩
        simp [padded, positive, List.replicate_succ]
      rw [single, first]
      exact isWhole_zero
    · have unpadded : padded = digits := by
        have none : places + 1 - digits.length = 0 := by omega
        simp [padded, none]
      obtain ⟨count, positive⟩ : ∃ count, digits.length - places = count + 1 :=
        ⟨digits.length - places - 1, by omega⟩
      rw [unpadded, positive]
      refine ⟨⟨?_, fun c member => numeric c (unpadded ▸ List.mem_of_mem_take member)⟩,
        fun zero => ?_⟩
      · simpa using (decimalDigits_isDigits units).1
      · have alone : digits = ['0'] := by
          rw [List.head?_take] at zero
          have none : units = 0 := decimalDigits_head (by simpa using zero)
          simp only [digits, none]
          rfl
        simp [alone]
  by_cases none : places = 0
  · refine .inl ⟨none, ?_⟩
    rw [none, Nat.sub_zero, List.take_length] at whole
    rw [withPoint, if_pos none]
    exact whole
  · refine .inr ⟨_, padded.drop (padded.length - places), whole,
      fun c member => numeric c (List.mem_of_mem_drop member), ?_, if_neg none⟩
    rw [List.length_drop]
    omega

theorem shortened_of_unpointed {text : List Char} (unpointed : '.' ∉ text) :
    shortened text = if text = ['-', '0'] then ['0'] else text := by
  simp [shortened, unpointed]

theorem not_point_signed (sign : UnpackedFloat.Sign) {digits : List Char}
    (written : IsDigits digits) : '.' ∉ signChars sign ++ digits := by
  intro member
  rcases List.mem_append.mp member with front | behind
  · cases sign with
    | negative => cases List.mem_singleton.mp front
    | positive => cases front
  · cases written.2 '.' behind

/-- A number with its sign, which is not written for a zero. -/
def withSign (sign : UnpackedFloat.Sign) (text : List Char) : List Char :=
  if signChars sign ++ text = ['-', '0'] then ['0'] else signChars sign ++ text

theorem withSign_isNumeral {places : Nat} (sign : UnpackedFloat.Sign) {text : List Char}
    (plain : IsPlain places text) : IsNumeral places (withSign sign text) := by
  rw [withSign]
  split
  · exact .positive (.whole isWhole_zero)
  · next signed =>
      cases sign with
      | positive => exact .positive plain
      | negative => exact .negative plain fun zero => signed (congrArg ('-' :: ·) zero)

/-- Digits with those behind the point, which is not written in front of none. -/
def pointed (digits behind : List Char) : List Char :=
  if behind = [] then digits else digits ++ '.' :: behind

theorem pointed_isPlain {places : Nat} {digits behind : List Char} (written : IsWhole digits)
    (numeric : ∀ c ∈ behind, c.isDigit = true) (short : behind.length ≤ places)
    (needed : behind.getLast? ≠ some '0') : IsPlain places (pointed digits behind) := by
  rw [pointed]
  split
  · exact .whole written
  · next nonempty => exact .fraction written ⟨nonempty, numeric⟩ short needed

/-- The zeros behind the point are left out, and the point in front of nothing else. -/
theorem shortened_pointed (sign : UnpackedFloat.Sign) {digits behind : List Char}
    (written : IsDigits digits) (numeric : ∀ c ∈ behind, c.isDigit = true) :
    shortened (signChars sign ++ (digits ++ '.' :: behind)) =
      withSign sign (pointed digits (dropTrailing '0' behind)) := by
  have points : '.' ∈ signChars sign ++ (digits ++ '.' :: behind) := by simp
  have zeros : dropTrailing '0' (signChars sign ++ (digits ++ '.' :: behind)) =
      signChars sign ++ (digits ++ '.' :: dropTrailing '0' behind) := by
    rw [← dropTrailing_point, ← List.append_assoc, ← List.append_assoc]
    exact dropTrailing_append (by simp [dropTrailing_point]) _
  simp only [shortened, List.contains_iff_mem, if_pos points, zeros]
  cases left : dropTrailing '0' behind with
  | nil =>
      have whole : dropTrailing '.' (signChars sign ++ (digits ++ ['.'])) =
          signChars sign ++ digits := by
        rw [← List.append_assoc, dropTrailing_concat, dropTrailing_digits written]
      rw [whole, pointed, if_pos rfl, withSign]
  | cons c rest =>
      have fraction : IsDigits (c :: rest) := by
        refine ⟨by simp, fun d member => numeric d ?_⟩
        rw [← left] at member
        exact mem_of_mem_dropTrailing member
      have kept : dropTrailing '.' (signChars sign ++ (digits ++ '.' :: c :: rest)) =
          signChars sign ++ (digits ++ '.' :: c :: rest) := by
        have front : signChars sign ++ (digits ++ '.' :: c :: rest) =
            (signChars sign ++ digits ++ ['.']) ++ c :: rest := by simp
        rw [front]
        exact dropTrailing_digits fraction _
      rw [kept, pointed, if_neg (List.cons_ne_nil c rest), withSign]

/-- What is left of a number without the zeros behind it has nothing more to leave out. -/
theorem shortened_isNumeral (sign : UnpackedFloat.Sign) (places units : Nat) :
    IsNumeral places (shortened (signChars sign ++ withPoint places units)) := by
  rcases withPoint_cases places units with
    ⟨-, alone⟩ | ⟨digits, behind, written, numeric, long, split⟩
  · rw [shortened_of_unpointed (not_point_signed sign alone.1)]
    exact withSign_isNumeral sign (.whole alone)
  · rw [split, shortened_pointed sign written.1 numeric]
    refine withSign_isNumeral sign (pointed_isPlain written ?_ ?_ (getLast?_dropTrailing behind))
    · exact fun c member => numeric c (mem_of_mem_dropTrailing member)
    · exact long ▸ length_dropTrailing_le behind

theorem IsPlain.isUnsigned {places : Nat} {text : List Char} (plain : IsPlain places text) :
    IsUnsigned text := by
  cases plain with
  | whole written => exact .whole written.1
  | fraction written behind => exact .fraction written.1 behind

theorem IsNumeral.isDecimal {places : Nat} {text : List Char} (numeral : IsNumeral places text) :
    IsDecimal text := by
  cases numeral with
  | positive plain => exact .positive plain.isUnsigned
  | negative plain => exact .negative plain.isUnsigned

theorem IsDecimal.isNumberText {text : String} (decimal : IsDecimal text.toList) :
    IsNumberText text := by
  intro c member
  rcases decimal.chars c member with rfl | rfl | digit
  · decide
  · decide
  · simp [isNumberChar, digit]

theorem IsPlain.weaken {places more : Nat} {text : List Char} (plain : IsPlain places text)
    (wider : places ≤ more) : IsPlain more text := by
  cases plain with
  | whole written => exact .whole written
  | fraction written behind short needed =>
      exact .fraction written behind (short.trans wider) needed

theorem IsNumeral.weaken {places more : Nat} {text : List Char} (numeral : IsNumeral places text)
    (wider : places ≤ more) : IsNumeral more text := by
  cases numeral with
  | positive plain => exact .positive (plain.weaken wider)
  | negative plain nonzero => exact .negative (plain.weaken wider) nonzero

theorem not_isDecimal_of_letter {text : List Char} {c : Char} (member : c ∈ text)
    (letter : c ≠ '-' ∧ c ≠ '.' ∧ c.isDigit = false) : ¬IsDecimal text := by
  intro decimal
  rcases decimal.chars c member with sign | point | digit
  · exact letter.1 sign
  · exact letter.2.1 point
  · cases letter.2.2.symm.trans digit

/-- A finite number is written with nothing in it that could be left out. -/
theorem rounded_isNumeral (places : Nat) {value : Float} (finite : IsFinite value) :
    IsNumeral places (rounded places value).toList := by
  refine IsNumeral.weaken ?_ (Nat.min_le_left places (exactPlaces value))
  rw [rounded, String.toList_ofList, fixedChars]
  rw [IsFinite, Float.isFinite, Float.Model.isFinite] at finite
  revert finite
  cases value.toModel.unpack with
  | notANumber => rintro ⟨⟩
  | infinity sign => rintro ⟨⟩
  | zero sign => exact fun _ => shortened_isNumeral sign _ 0
  | finite sign mantissa exponent proper => exact fun _ => shortened_isNumeral sign _ _

/-- Numbers are written as decimal numbers as long as they are finite. -/
theorem rounded_isDecimal_iff (places : Nat) (value : Float) :
    IsDecimal (rounded places value).toList ↔ IsFinite value := by
  refine ⟨fun decimal => ?_, fun finite => (rounded_isNumeral places finite).isDecimal⟩
  revert decimal
  rw [rounded, String.toList_ofList, IsFinite, Float.isFinite, Float.Model.isFinite, fixedChars]
  cases value.toModel.unpack with
  | notANumber =>
      have letter : 'n' ∈ shortened ['n', 'a', 'n'] := by decide
      exact fun decimal => absurd decimal (not_isDecimal_of_letter letter (by decide))
  | infinity sign =>
      have letter : 'n' ∈ shortened (signChars sign ++ ['i', 'n', 'f']) := by
        cases sign <;> decide
      exact fun decimal => absurd decimal (not_isDecimal_of_letter letter (by decide))
  | zero sign => exact fun _ => rfl
  | finite sign mantissa exponent proper => exact fun _ => rfl

end GantryCode.Decimal
