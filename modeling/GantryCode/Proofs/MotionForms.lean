import GantryCode.Proofs.DecimalText
import GantryCode.Proofs.Scripts
import Mathlib.Data.List.Forall2

namespace GantryCode

/-! The forms of the lines that move the tool.

A form lays down which codes stand in front and which letters have words behind them. Some
of the words may be left out, but the order of the letters is always the same. The numbers
in the words have nothing in them that could be left out.
-/

/-- The word of a letter with a number of at most so many decimal places, and of none where
the letter has whole values. -/
def IsWordOf (places : Nat) (letter : Letter) (word : String) : Prop :=
  ∃ text : String, word = letter.name ++ text ∧
    Decimal.IsNumeral (if letter.isWhole then 0 else places) text.toList

namespace IsWordOf

variable {places : Nat} {letter : Letter} {letters : List Letter} {word : String}

theorem isWord (spelled : IsWordOf places letter word) : IsWord word := by
  obtain ⟨text, rfl, numeral⟩ := spelled
  exact ⟨letter, text, rfl, numeral.isDecimal.isNumberText⟩

theorem of_rounded (fraction : letter.isWhole = false) {value : Float}
    (finite : Decimal.IsFinite value) :
    IsWordOf places letter (letter.name ++ Decimal.rounded places value) := by
  refine ⟨_, rfl, ?_⟩
  rw [fraction]
  exact Decimal.rounded_isNumeral places finite

theorem feedWord {rate : Float} (finite : Decimal.IsFinite rate) :
    IsWordOf places .f (Emitter.feedWord rate) :=
  ⟨_, rfl, Decimal.rounded_isNumeral 0 finite⟩

theorem isToken_of_mem {words : List String}
    (spelled : List.Forall₂ (IsWordOf places) letters words)
    (member : word ∈ words) : Reading.IsToken word.toList := by
  induction spelled with
  | nil => cases member
  | cons first _ ih =>
      rcases List.mem_cons.mp member with rfl | later
      · exact first.isWord.isToken
      · exact ih later

/-- The words that are there have some of the letters, in the same order. -/
theorem of_present (letters : List Letter) (given : List (Option String))
    (spelled : List.Forall₂ (fun letter word => ∀ token ∈ word, IsWordOf places letter token)
      letters given) :
    ∃ kept, kept.Sublist letters ∧ List.Forall₂ (IsWordOf places) kept (given.filterMap id) := by
  induction spelled with
  | nil => exact ⟨[], .slnil, .nil⟩
  | @cons letter word letters given first _ ih =>
      obtain ⟨kept, among, written⟩ := ih
      cases word with
      | none => exact ⟨kept, among.cons letter, written⟩
      | some token =>
          exact ⟨letter :: kept, among.cons_cons letter, .cons (first token rfl) written⟩

end IsWordOf

/-- What a line that moves the tool can look like: a rapid move in the plane of the table, a
rapid move of the height, the feed rate of rapid moves alone, a straight cut, an arc, the
selection of the usual plane, or homing. -/
inductive Form where
  | level
  | height
  | rate
  | cut
  | arc (plane : Plane)
  | plane
  | home (axis : Axis)

namespace Form

/-- The codes of a form, and the letters that have a word behind them. -/
inductive Allows : Form → List String → List Letter → Prop where
  | level {letters : List Letter} (moves : letters ≠ []) (among : letters.Sublist [.x, .y]) :
      Allows .level ["G0"] (letters ++ [.f])
  | height : Allows .height ["G0"] [.z, .f]
  | rate : Allows .rate ["G0"] [.f]
  | cut {letters : List Letter} (among : letters.Sublist [.x, .y, .z]) :
      Allows .cut ["G1"] (letters ++ [.f])
  | arc {plane : Plane} {codes : List String} {letters : List Letter}
      (selects : codes.Sublist [plane.code]) (clockwise : Bool)
      (among : letters.Sublist [.x, .y, .z]) :
      Allows (.arc plane) (codes ++ [if clockwise then "G2" else "G3"])
        (letters ++ plane.offsetLetters ++ [.f])
  | plane : Allows .plane ["G17"] []
  | home (axis : Axis) :
      Allows (.home axis) ["G28", axis.name] (if axis = .z then [.f] else [])

variable {form : Form} {codes : List String} {letters : List Letter} {places : Nat}
  {given : List (Option String)}

/-- No letter has two words, and their order is that of the letters. -/
theorem Allows.ordered (allowed : form.Allows codes letters) : letters.Sublist Letter.all := by
  have behind {front : List Letter} (among : front.Sublist [Letter.x, .y, .z]) :
      (front ++ [Letter.f]).Sublist Letter.all :=
    (among.append_right _).trans (by decide)
  cases allowed with
  | level moves among => exact behind (among.trans (by decide))
  | height => decide
  | rate => decide
  | cut among => exact behind among
  | @arc plane codes letters selects clockwise among =>
      have centers : (plane.offsetLetters ++ [Letter.f]).Sublist [Letter.i, .j, .k, .f] := by
        cases plane <;> decide
      rw [List.append_assoc]
      exact among.append centers
  | plane => decide
  | home axis => cases axis <;> decide

theorem Allows.isToken (allowed : form.Allows codes letters) :
    ∀ code ∈ codes, Reading.IsToken code.toList := by
  intro code member
  cases allowed with
  | level | height | rate | cut | plane =>
      cases List.mem_singleton.mp member
      decide
  | @arc plane codes letters selects clockwise among =>
      rcases List.mem_append.mp member with selected | turn
      · cases List.mem_singleton.mp (selects.subset selected)
        cases plane <;> decide
      · cases List.mem_singleton.mp turn
        cases clockwise <;> decide
  | home axis =>
      rcases List.mem_cons.mp member with rfl | later
      · decide
      · cases List.mem_singleton.mp later
        cases axis <;> decide

/-- Tokens that come to a command of the form. -/
def Makes (form : Form) (places : Nat) (given : List (Option String)) : Prop :=
  ∃ codes letters words, form.Allows codes letters ∧
    List.Forall₂ (IsWordOf places) letters words ∧ given.filterMap id = codes ++ words

/-- A line of the form: behind its number, if it has one, and in front of its remark there are
the codes and the words. -/
inductive Shows (form : Form) (places : Nat) : Line → Prop where
  | command {codes words : List String} {letters : List Letter} {number : Option Nat}
      {note : Option String} (allowed : form.Allows codes letters)
      (ordered : letters.Sublist Letter.all)
      (spelled : List.Forall₂ (IsWordOf places) letters words)
      (chars : (Line.command number (" ".intercalate (codes ++ words)) note).chars =
        (number.elim [] fun number => Line.numberChars number ++ [' ']) ++
          (" ".intercalate (codes ++ words)).toList ++
          (note.elim [] fun text => ' ' :: Line.remarkChars text)) :
      Shows form places (.command number (" ".intercalate (codes ++ words)) note)

end Form

namespace Reading

variable {given : List (Option String)}

theorem presentTokens_alone (alone : ∀ token, some token ∈ given → IsToken token.toList) :
    presentTokens given = given.filterMap id := by
  induction given with
  | nil => rfl
  | cons first rest ih =>
      have others := ih fun token member => alone token (by simp [member])
      cases first with
      | none => exact others
      | some token => rw [presentTokens_cons (alone token (by simp)), others]; rfl

/-- Tokens without blanks are joined as they are. -/
theorem commandBody_alone (alone : ∀ token, some token ∈ given → IsToken token.toList) :
    commandBody given = " ".intercalate (given.filterMap id) := by
  rw [commandBody, presentTokens_alone alone, ← String.toList_inj, String.toList_ofList,
    String.toList_intercalate]
  rfl

end Reading

namespace Form

open Reading

variable {form : Form} {places : Nat} {given : List (Option String)}

theorem Makes.isToken (makes : form.Makes places given) :
    ∀ token, some token ∈ given → IsToken token.toList := by
  obtain ⟨codes, letters, words, allowed, spelled, present⟩ := makes
  intro token member
  have among : token ∈ codes ++ words := by
    rw [← present]
    simpa using member
  rcases List.mem_append.mp among with code | word
  · exact allowed.isToken token code
  · exact IsWordOf.isToken_of_mem spelled word

/-- Such tokens are written as a line of the form. -/
theorem Makes.shows (makes : form.Makes places given) (writer : Writer) (note : Option String) :
    ∀ line ∈ writer.commandLine? given note, form.Shows places line := by
  intro line written
  obtain ⟨spoken, made⟩ := Option.ite_none_right_eq_some.mp written
  have alone := makes.isToken
  have tight : Text.IsTight (commandBody given).toList :=
    commandBody_tight (fun token member _ => (alone token member).isClean.1
      fun empty => (alone token member).1 (by rw [empty]; rfl))
      (by simpa [Writer.writesLine] using spoken)
  have noted : ∀ text ∈ (if writer.showComments then note.bind Line.remarkOf? else none),
      Text.IsTight text.toList := by
    intro text member
    split at member
    · obtain ⟨given, -, found⟩ := Option.bind_eq_some_iff.mp member
      exact Line.remarkOf?_tight found
    · cases member
  have chars := Line.chars_command (if writer.showLineNumbers then some writer.nextNumber else none)
    tight noted
  obtain ⟨codes, letters, words, allowed, spelled, present⟩ := makes
  rw [commandBody_alone alone, present] at made chars
  cases made
  exact .command allowed allowed.ordered spelled chars

end Form

end GantryCode
