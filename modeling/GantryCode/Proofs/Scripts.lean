import GantryCode.Proofs.Phrases
import GantryCode.Proofs.RunHead

namespace GantryCode

/-! What an emitter says, and how its writer shows it.

What is said is a script: commands, with what is remarked beside them, and remarks between
them. A writer may hide the remarks, and it may number the commands. Every script is shown
by the same rule, line by line, and scripts that follow one another are shown one after the
other.
-/

namespace Line

theorem remarkOf?_tight {text cleaned : String} (found : remarkOf? text = some cleaned) :
    Text.IsTight cleaned.toList := by
  obtain ⟨rfl, left⟩ := remarkOf?_eq found
  have nonempty : Remark.cleanChars text.toList ≠ [] := by
    simpa [← String.toList_inj] using left
  rw [Remark.toList_clean]
  exact Text.isTight_trim nonempty

theorem remarkChars_tight {text : String} (tight : Text.IsTight text.toList) :
    Text.IsTight (remarkChars text) :=
  tight.append [';', ' ']

theorem intercalate_pieces (number : Option Nat) (body : String) (note : Option String) :
    [' '].intercalate (command number body note).pieces =
      (number.elim [] fun number => numberChars number ++ [' ']) ++ body.toList ++
        (note.elim [] fun text => ' ' :: remarkChars text) := by
  cases number <;> cases note <;> simp [pieces, List.intercalate_cons_cons]

/-- Nothing is taken from the end of a line where its last part has no blanks there. -/
theorem chars_command {body : String} {note : Option String} (number : Option Nat)
    (tight : Text.IsTight body.toList) (noted : ∀ text ∈ note, Text.IsTight text.toList) :
    (command number body note).chars =
      (number.elim [] fun number => numberChars number ++ [' ']) ++ body.toList ++
        (note.elim [] fun text => ' ' :: remarkChars text) := by
  rw [chars, intercalate_pieces]
  cases note with
  | none =>
      rw [Option.elim_none, List.append_nil]
      exact (tight.append _).2
  | some text =>
      exact ((remarkChars_tight (noted text rfl)).append [' ']).append _ |>.2

theorem chars_remark {text : String} (tight : Text.IsTight text.toList) :
    (remark text).chars = remarkChars text := by
  rw [chars, pieces, List.intercalate_singleton]
  exact (remarkChars_tight tight).2

end Line

inductive Phrase where
  | command (tokens : List (Option String)) (note : Option String)
  | remark (text : String)

namespace Phrase

/-- The body of the command, if it comes to a line. -/
def body? : Phrase → Option String
  | .command tokens _ => if Writer.writesLine tokens then some (commandBody tokens) else none
  | .remark _ => none

/-- The line with which a phrase is shown, if there is one. -/
def line? (comments numbers : Bool) (number : Nat) : Phrase → Option Line
  | .command tokens note =>
      if Writer.writesLine tokens then
        some (.command (if numbers then some number else none) (commandBody tokens)
          (if comments then note.bind Line.remarkOf? else none))
      else none
  | .remark text => if comments then some (.ofComment (some text)) else none

/-- The number of the next command behind a phrase. -/
def nextNumber (numbers : Bool) (number : Nat) (phrase : Phrase) : Nat :=
  if numbers && phrase.body?.isSome then number + 1 else number

variable {phrase : Phrase} {body : String}

theorem body?_command {tokens : List (Option String)} {note : Option String}
    (spoken : (command tokens note).body? = some body) :
    Writer.writesLine tokens = true ∧ body = commandBody tokens := by
  obtain ⟨written, made⟩ := Option.ite_none_right_eq_some.mp spoken
  exact ⟨written, (Option.some.inj made).symm⟩

/-- A phrase with a body is shown as the line of a command, with its remark if remarks are
shown. -/
theorem line?_of_body (comments numbers : Bool) (number : Nat) (spoken : phrase.body? = some body) :
    ∃ note, (∀ text ∈ note, comments = true ∧ ∃ given, Line.remarkOf? given = some text) ∧
      phrase.line? comments numbers number =
        some (.command (if numbers then some number else none) body note) := by
  cases phrase with
  | remark text => cases spoken
  | command tokens note =>
      obtain ⟨written, rfl⟩ := body?_command spoken
      refine ⟨_, fun text member => ?_, if_pos written⟩
      cases comments with
      | false => cases member
      | true =>
          obtain ⟨given, -, found⟩ := Option.bind_eq_some_iff.mp member
          exact ⟨rfl, given, found⟩

/-- A phrase without a body is shown as a comment, if at all. -/
theorem line?_of_no_body (comments numbers : Bool) (number : Nat) (unspoken : phrase.body? = none) :
    phrase.line? comments numbers number = none ∨
      comments = true ∧ ∃ text, phrase.line? comments numbers number = some (.ofComment text) := by
  cases phrase with
  | command tokens note =>
      refine .inl (if_neg fun written => ?_)
      rw [body?, if_pos written] at unspoken
      cases unspoken
  | remark text =>
      cases comments with
      | false => exact .inl rfl
      | true => exact .inr ⟨rfl, some text, rfl⟩

/-- A phrase of an emitter with these options: a command of one of the known forms, or a
remark. -/
def IsSaid (options : Options) (allows : Float → Prop) : Phrase → Prop
  | .command tokens _ => IsPhrase options allows tokens
  | .remark _ => True

variable {options : Options} {allows : Float → Prop}

theorem IsSaid.tight (said : phrase.IsSaid options allows) :
    ∀ body ∈ phrase.body?, Text.IsTight body.toList := by
  intro body spoken
  cases phrase with
  | remark text => cases spoken
  | command tokens note =>
      obtain ⟨written, rfl⟩ := body?_command spoken
      exact IsPhrase.body_tight said (by simpa [Writer.writesLine] using written)

theorem IsSaid.flat (said : phrase.IsSaid options allows)
    (cutters : ∀ command ∈ options.cutterCommands, Text.IsFlat command.toList) :
    ∀ body ∈ phrase.body?, Text.IsFlat body.toList := by
  intro body spoken
  cases phrase with
  | remark text => cases spoken
  | command tokens note =>
      obtain ⟨-, rfl⟩ := body?_command spoken
      exact IsPhrase.body_flat said cutters

end Phrase

namespace Script

open Phrase

/-- The bodies of the commands in a script. -/
def bodies (script : List Phrase) : List String :=
  script.filterMap body?

/-- The lines with which a script is shown from a number on. -/
def lines (comments numbers : Bool) : Nat → List Phrase → List Line
  | _, [] => []
  | number, phrase :: rest =>
      (phrase.line? comments numbers number).toList ++
        lines comments numbers (phrase.nextNumber numbers number) rest

theorem bodies_cons (phrase : Phrase) (rest : List Phrase) :
    bodies (phrase :: rest) = phrase.body?.toList ++ bodies rest := by
  cases found : phrase.body? <;> simp [bodies, found]

def nextNumber (numbers : Bool) (number : Nat) (script : List Phrase) : Nat :=
  script.foldl (Phrase.nextNumber numbers) number

variable {comments numbers : Bool} {number : Nat} {script : List Phrase}

/-- A line shows a body of the script, with its remark if there is one, or it is a comment. -/
theorem mem_lines {line : Line} (shown : line ∈ lines comments numbers number script) :
    (∃ phrase ∈ script, ∃ body ∈ phrase.body?, ∃ place note,
      (∀ text ∈ note, ∃ given, Line.remarkOf? given = some text) ∧
        line = .command place body note) ∨
      ∃ text, line = .ofComment text := by
  induction script generalizing number with
  | nil => cases shown
  | cons phrase rest ih =>
      rcases List.mem_append.mp shown with first | later
      · have shows := Option.mem_toList.mp first
        cases found : phrase.body? with
        | some body =>
            obtain ⟨note, noted, made⟩ := Phrase.line?_of_body comments numbers number found
            cases made.symm.trans shows
            exact .inl ⟨phrase, List.mem_cons_self .., body, found, _, note,
              fun text present => (noted text present).2, rfl⟩
        | none =>
            rcases Phrase.line?_of_no_body comments numbers number found with made | ⟨-, text, made⟩
            · cases made.symm.trans shows
            · cases made.symm.trans shows
              exact .inr ⟨text, rfl⟩
      · rcases ih later with ⟨other, among, spoken⟩ | comment
        · exact .inl ⟨other, List.mem_cons_of_mem _ among, spoken⟩
        · exact .inr comment

theorem lines_append (script more : List Phrase) :
    lines comments numbers number (script ++ more) =
      lines comments numbers number script ++
        lines comments numbers (nextNumber numbers number script) more := by
  induction script generalizing number with
  | nil => rfl
  | cons phrase rest ih =>
      rw [List.cons_append, lines, lines, ih, List.append_assoc]
      rfl

theorem nextNumber_append (script more : List Phrase) :
    nextNumber numbers number (script ++ more) =
      nextNumber numbers (nextNumber numbers number script) more :=
  List.foldl_append

/-- Every body takes one number, and nothing else does. -/
theorem nextNumber_eq (numbers : Bool) (number : Nat) (script : List Phrase) :
    nextNumber numbers number script =
      if numbers then number + (bodies script).length else number := by
  induction script generalizing number with
  | nil => simp [nextNumber, bodies]
  | cons phrase rest ih =>
      have next : nextNumber numbers number (phrase :: rest) =
          nextNumber numbers (phrase.nextNumber numbers number) rest := rfl
      rw [next, ih, Phrase.nextNumber, bodies_cons, List.length_append]
      cases numbers <;> cases phrase.body? <;> simp
      omega

theorem lines_remarks (texts : List String) :
    lines comments numbers number (texts.map .remark) =
      if comments then texts.map fun text => .ofComment (some text) else [] := by
  induction texts with
  | nil => simp [lines]
  | cons text rest ih =>
      have still : (Phrase.remark text).nextNumber numbers number = number := by
        cases numbers <;> rfl
      rw [List.map_cons, lines, still, ih]
      cases comments <;> rfl

end Script

namespace Writer

/-- Between the two, the script was said, and nothing else that can be seen. -/
structure Shows (before after : Writer) (script : List Phrase) : Prop where
  comments : after.showComments = before.showComments
  numbers : after.showLineNumbers = before.showLineNumbers
  written : after.written.toList = before.written.toList ++
    Script.lines before.showComments before.showLineNumbers before.nextNumber script
  next : after.nextNumber = Script.nextNumber before.showLineNumbers before.nextNumber script

variable {before middle after : Writer} {script more : List Phrase}

theorem Shows.trans (first : before.Shows middle script) (later : middle.Shows after more) :
    before.Shows after (script ++ more) where
  comments := later.comments.trans first.comments
  numbers := later.numbers.trans first.numbers
  written := by
    rw [later.written, first.written, first.comments, first.numbers, first.next,
      Script.lines_append, List.append_assoc]
  next := by rw [later.next, first.numbers, first.next, Script.nextNumber_append]

theorem shows_nothing (writer : Writer) : writer.Shows writer [] where
  comments := rfl
  numbers := rfl
  written := by simp [Script.lines]
  next := rfl

theorem shows_command (writer : Writer) (tokens : List (Option String)) (note : Option String) :
    writer.Shows (writer.command tokens note) [.command tokens note] := by
  have line : Script.lines writer.showComments writer.showLineNumbers writer.nextNumber
      [.command tokens note] = (writer.commandLine? tokens note).toList := List.append_nil _
  refine ⟨?_, ?_, by rw [line, written_command], ?_⟩
  · unfold command
    split <;> rfl
  · unfold command
    split <;> rfl
  · unfold command
    cases written : writesLine tokens <;> cases numbered : writer.showLineNumbers <;>
      simp [Script.nextNumber, Phrase.nextNumber, Phrase.body?, written]

theorem shows_remarks {texts : List String} (comments : after.showComments = before.showComments)
    (numbers : after.showLineNumbers = before.showLineNumbers)
    (next : after.nextNumber = before.nextNumber)
    (written : after.written = before.written ++ before.remarkLines texts) :
    before.Shows after (texts.map .remark) where
  comments := comments
  numbers := numbers
  written := by
    rw [written, Script.lines_remarks, remarkLines]
    simp
  next := by
    have unnumbered : Script.bodies (texts.map .remark) = [] := by
      simp [Script.bodies, List.filterMap_eq_nil_iff, Phrase.body?]
    rw [next, Script.nextNumber_eq, unnumbered]
    simp

theorem shows_remark (writer : Writer) (text : String) :
    writer.Shows (writer.remark text) [.remark text] := by
  have single : [Phrase.remark text] = [text].map .remark := rfl
  rw [remark_eq, single]
  exact shows_remarks rfl rfl rfl rfl

end Writer

end GantryCode
