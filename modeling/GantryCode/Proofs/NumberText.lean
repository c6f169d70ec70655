import GantryCode.Decimal.Fixed
import GantryCode.Text.Blank
import GantryCode.Text.Lines

namespace GantryCode.Decimal

/-! The characters that numbers are written with. None of them is a blank, ends a line
or begins a comment.
-/

def isNumberChar (c : Char) : Bool :=
  c.isDigit || ['-', '.', 'n', 'a', 'i', 'f'].contains c

def IsNumberText (text : String) : Prop :=
  ∀ c ∈ text.toList, isNumberChar c = true

open Float.Model (UnpackedFloat)

theorem withPoint_chars {places units : Nat} {c : Char} (member : c ∈ withPoint places units) :
    isNumberChar c = true := by
  have digit : ∀ d ∈ Text.decimalDigits units, d.isDigit = true := fun d written =>
    Nat.isDigit_of_mem_toDigits (by decide) (by decide) written
  have padded : ∀ d ∈ List.replicate (places + 1 - (Text.decimalDigits units).length) '0' ++
      Text.decimalDigits units, isNumberChar d = true := by
    intro d written
    rcases List.mem_append.mp written with zero | written
    · rw [(List.mem_replicate.mp zero).2]
      decide
    · simp [isNumberChar, digit d written]
  unfold withPoint at member
  dsimp only at member
  split at member
  · exact padded c member
  · rcases List.mem_append.mp member with whole | fraction
    · exact padded c (List.mem_of_mem_take whole)
    · rcases List.mem_cons.mp fraction with rfl | fraction
      · decide
      · exact padded c (List.mem_of_mem_drop fraction)

theorem signChars_chars {sign : UnpackedFloat.Sign} {c : Char} (member : c ∈ signChars sign) :
    isNumberChar c = true := by
  cases sign with
  | negative => rw [List.mem_singleton.mp member]; decide
  | positive => cases member

theorem fixedChars_chars {places : Nat} {value : Float} {c : Char}
    (member : c ∈ fixedChars places value) : isNumberChar c = true := by
  unfold fixedChars at member
  split at member
  · have letters := List.all_eq_true.mp (by decide : ['n', 'a', 'n'].all isNumberChar = true)
    exact letters c member
  · rcases List.mem_append.mp member with sign | word
    · exact signChars_chars sign
    · have letters := List.all_eq_true.mp (by decide : ['i', 'n', 'f'].all isNumberChar = true)
      exact letters c word
  · rcases List.mem_append.mp member with sign | digits
    · exact signChars_chars sign
    · exact withPoint_chars digits
  · rcases List.mem_append.mp member with sign | digits
    · exact signChars_chars sign
    · exact withPoint_chars digits

theorem mem_of_mem_dropTrailing {unwanted c : Char} {text : List Char}
    (member : c ∈ dropTrailing unwanted text) : c ∈ text := by
  have kept := List.mem_reverse.mp member
  exact List.mem_reverse.mp (List.dropWhile_sublist _ |>.subset kept)

theorem shortened_chars {text : List Char} {c : Char}
    (written : ∀ d ∈ text, isNumberChar d = true) (member : c ∈ shortened text) :
    isNumberChar c = true := by
  have trimmed : ∀ d ∈ (if text.contains '.' then dropTrailing '.' (dropTrailing '0' text)
      else text), isNumberChar d = true := by
    intro d kept
    split at kept
    · exact written d (mem_of_mem_dropTrailing (mem_of_mem_dropTrailing kept))
    · exact written d kept
  unfold shortened at member
  dsimp only at member
  generalize (if text.contains '.' then dropTrailing '.' (dropTrailing '0' text) else text) =
    shorter at member trimmed
  split at member
  · rw [List.mem_singleton.mp member]
    decide
  · exact trimmed c member

theorem rounded_isNumberText (places : Nat) (value : Float) :
    IsNumberText (rounded places value) := by
  intro c member
  rw [rounded, String.toList_ofList] at member
  exact shortened_chars (fun _ => fixedChars_chars) member

theorem isNumberChar_range {c : Char} (number : isNumberChar c = true) :
    45 ≤ c.toNat ∧ c.toNat ≤ 57 ∨ 97 ≤ c.toNat ∧ c.toNat ≤ 110 := by
  rcases Bool.or_eq_true _ _ ▸ number with digit | other
  · have bounds : 48 ≤ c.toNat ∧ c.toNat ≤ 57 := Char.isDigit_iff_toNat.mp digit
    omega
  · have cases : c = '-' ∨ c = '.' ∨ c = 'n' ∨ c = 'a' ∨ c = 'i' ∨ c = 'f' := by
      simpa using other
    rcases cases with rfl | rfl | rfl | rfl | rfl | rfl <;> decide

theorem isNumberChar_isBlank {c : Char} (number : isNumberChar c = true) :
    Text.isBlank c = false := by
  have range := isNumberChar_range number
  simp only [Text.isBlank, Bool.or_eq_false_iff, Bool.and_eq_false_iff, decide_eq_false_iff_not,
    beq_eq_false_iff_ne]
  omega

theorem isNumberChar_isLineBreak {c : Char} (number : isNumberChar c = true) :
    Text.isLineBreak c = false := by
  have range := isNumberChar_range number
  simp only [Text.isLineBreak, Bool.or_eq_false_iff, Bool.and_eq_false_iff,
    decide_eq_false_iff_not, beq_eq_false_iff_ne]
  omega

theorem isNumberChar_ne_semicolon {c : Char} (number : isNumberChar c = true) : c ≠ ';' := by
  rintro rfl
  revert number
  decide

end GantryCode.Decimal
