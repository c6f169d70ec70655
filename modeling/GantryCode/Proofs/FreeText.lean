import GantryCode.Proofs.Renditions

namespace GantryCode

/-! Free text stays text.

The texts of run and section comments are whatever the caller has. They get into remarks
and onto the display of the machine, on one line and without parentheses, and nowhere else.
Two runs that differ in nothing but such texts write the same commands line by line.
-/

/-- There are no parentheses in the text. -/
def Text.IsPlain (text : List Char) : Prop :=
  ∀ c ∈ text, Remark.isParenthesis c = false

namespace Text

theorem mem_of_mem_splitLines {text piece : List Char} {c : Char}
    (split : piece ∈ splitLines text) (inside : c ∈ piece) : c ∈ text := by
  induction text using splitLines.induct generalizing piece with
  | case1 => simp [splitLines] at split
  | case2 rest ih =>
      rw [splitLines] at split
      rcases List.mem_cons.mp split with rfl | later
      · cases inside
      · simp [ih later inside]
  | case3 first rest notPair ends ih =>
      rw [splitLines, if_pos ends] at split
      · rcases List.mem_cons.mp split with rfl | later
        · cases inside
        · simp [ih later inside]
      · exact notPair
  | case4 first rest notPair within ih =>
      rw [splitLines, if_neg within] at split
      · cases lines : splitLines rest with
        | nil =>
            rw [lines, prepend, List.mem_singleton] at split
            subst split
            simp_all
        | cons line others =>
            rw [lines] at split ih
            rcases List.mem_cons.mp split with rfl | later
            · rcases List.mem_cons.mp inside with rfl | inside
              · simp
              · simp [ih (by simp) inside]
            · simp [ih (List.mem_cons_of_mem _ later) inside]
      · exact notPair

end Text

theorem Remark.clean_plain (text : String) : Text.IsPlain (clean text).toList := by
  intro c member
  rw [toList_clean] at member
  rcases Text.mem_of_mem_intercalate (Text.mem_of_mem_trim member) with rfl | ⟨piece, split, inside⟩
  · decide
  · simpa using (List.mem_filter.mp (Text.mem_of_mem_splitLines split inside)).2

namespace Line

/-- A line without a command: it is blank, or a remark without parentheses. -/
def IsAside (line : List Char) : Prop :=
  line = [] ∨ ∃ text, line = ';' :: ' ' :: text ∧ Text.IsPlain text

/-- The line that shows a text on the display. -/
def displayChars (number : Option Nat) (text : List Char) : List Char :=
  (number.elim [] fun number => numberChars number ++ [' ']) ++ "M117".toList ++
    if text = [] then [] else ' ' :: text

/-- The lines differ in nothing but free text, and there are no parentheses in that. -/
inductive AlikeButText : List Char → List Char → Prop where
  | same (line : List Char) : AlikeButText line line
  | display (number : Option Nat) {text other : List Char} (plain : Text.IsPlain text)
      (plainToo : Text.IsPlain other) :
      AlikeButText (displayChars number text) (displayChars number other)
  | aside {line other : List Char} (remark : IsAside line) (remarkToo : IsAside other) :
      AlikeButText line other

theorem isAside_ofComment (text : Option String) : IsAside (ofComment text).chars := by
  unfold ofComment
  split
  · next cleaned found =>
      obtain ⟨given, -, cleaning⟩ := Option.bind_eq_some_iff.mp found
      rw [chars_remark (remarkOf?_tight cleaning)]
      refine .inr ⟨cleaned.toList, rfl, ?_⟩
      rw [(remarkOf?_eq cleaning).1]
      exact Remark.clean_plain given
  · exact .inl rfl

end Line

open Line (AlikeButText)

namespace Reading

/-- What is shown on the display is the message code and the text behind it. -/
theorem commandBody_display {target : Target} {message : String}
    (shown : target.code? .statusMessage = some message) (text : String) :
    (commandBody [some message, some (Remark.clean text)]).toList =
      "M117".toList ++
        if (Remark.clean text).toList = [] then [] else ' ' :: (Remark.clean text).toList := by
  cases IsPhrase.message_code shown
  by_cases empty : Remark.clean text = ""
  · rw [empty]
    decide
  · have filled : (Remark.clean text).toList ≠ [] := by simpa [← String.toList_inj] using empty
    have code : Text.stripped "M117" = "M117" := by decide
    rw [if_neg filled]
    simp [commandBody, presentTokens, empty, stripped_clean, code, List.intercalate_cons_cons]

end Reading

namespace Script

variable {options : Options} {allows : Float → Prop} {comments numbers : Bool} {number : Nat}
  {script : List Phrase}

/-- No line of a script has a line break in it. -/
theorem isFlat_lines (cutters : ∀ command ∈ options.cutterCommands, Text.IsFlat command.toList)
    (said : ∀ phrase ∈ script, phrase.IsSaid options allows) :
    ∀ line ∈ lines comments numbers number script, line.IsFlat := by
  intro line member
  rcases mem_lines member with ⟨phrase, among, body, spoken, _, note, noted, rfl⟩ | ⟨text, rfl⟩
  · refine Line.isFlat_command ((said phrase among).flat cutters body spoken) fun text present => ?_
    exact (noted text present).elim fun _ => Line.remarkOf?_flat
  · exact Line.isFlat_ofComment text

end Script

namespace Rendition

variable {rendition : Rendition} {script others : List Phrase} {phrase other : Phrase}

theorem body?_display {target : Target} {message : String}
    (shown : target.code? .statusMessage = some message) (text : String) :
    (Phrase.command [some message, some (Remark.clean text)] none).body? =
      some (commandBody [some message, some (Remark.clean text)]) := by
  refine if_pos (bne_iff_ne.mpr fun empty => ?_)
  have body := Reading.commandBody_display shown text
  simp [empty] at body

theorem Alike.display_chars {target : Target} {message : String}
    (shown : target.code? .statusMessage = some message) (text : String) (number : Option Nat) :
    (Line.command number (commandBody [some message, some (Remark.clean text)]) none).chars =
      Line.displayChars number (Remark.clean text).toList := by
  have written := (Phrase.body?_command (body?_display shown text)).1
  have phrase : IsPhrase {} (fun _ => True) [some message, some (Remark.clean text)] :=
    .display shown text
  have tight : Text.IsTight (commandBody [some message, some (Remark.clean text)]).toList :=
    phrase.body_tight (by simpa [Writer.writesLine] using written)
  rw [Line.chars_command number tight (by simp), Reading.commandBody_display shown,
    Option.elim_none, List.append_nil, Line.displayChars, List.append_assoc]

/-- Phrases that are alike are shown alike, and take a number both or neither. -/
theorem Alike.shown (alike : rendition.Alike phrase other) (comments numbers : Bool)
    (number : Nat) :
    other.nextNumber numbers number = phrase.nextNumber numbers number ∧
      List.Forall₂ AlikeButText ((phrase.line? comments numbers number).toList.map Line.chars)
        ((other.line? comments numbers number).toList.map Line.chars) := by
  cases alike with
  | command => exact ⟨rfl, List.forall₂_same.mpr fun line _ => .same line⟩
  | @display target message shown text other free =>
      have spoken := body?_display shown
      have written := fun text => (Phrase.body?_command (spoken text)).1
      refine ⟨by simp only [Phrase.nextNumber, spoken, Option.isSome_some], ?_⟩
      rw [Phrase.line?, Phrase.line?, if_pos (written text), if_pos (written other)]
      have unnoted : (if comments then (none : Option String).bind Line.remarkOf? else none) =
          none := by cases comments <;> rfl
      rw [unnoted]
      refine .cons ?_ .nil
      rw [Alike.display_chars shown, Alike.display_chars shown]
      exact .display _ (Remark.clean_plain text) (Remark.clean_plain other)
  | remark text other =>
      refine ⟨rfl, ?_⟩
      cases comments with
      | false => exact .nil
      | true => exact .cons (.aside (Line.isAside_ofComment _) (Line.isAside_ofComment _)) .nil

/-- Scripts that are alike are shown alike, line by line. -/
theorem lines_alike (alike : List.Forall₂ rendition.Alike script others) (comments numbers : Bool)
    (number : Nat) :
    Script.nextNumber numbers number others = Script.nextNumber numbers number script ∧
      List.Forall₂ AlikeButText ((Script.lines comments numbers number script).map Line.chars)
        ((Script.lines comments numbers number others).map Line.chars) := by
  induction alike generalizing number with
  | nil => exact ⟨rfl, .nil⟩
  | @cons phrase other rest more first _ ih =>
      obtain ⟨next, shown⟩ := first.shown comments numbers number
      obtain ⟨last, later⟩ := ih (phrase.nextNumber numbers number)
      refine ⟨?_, ?_⟩
      · rw [Script.nextNumber, List.foldl_cons, next]
        exact last
      · rw [Script.lines, Script.lines, List.map_append, List.map_append, next]
        exact List.rel_append shown later

end Rendition

namespace Emitter

open Emission

/-- Free text does not become commands. Two runs of emitters with the same options, whose
calls differ in nothing but the texts of run and section comments, write texts with the same
lines, but for what is shown on the display and for remarks; the free text there holds no
parentheses. Both come to hold the same slots, the same place, mode and number, and a next
call that differs in nothing but its comment fails for both alike or for none. -/
theorem freeText_after_run {options : Options} {stamp otherStamp : String} {start other : Emitter}
    (created : create options stamp = .ok start)
    (createdToo : create options otherStamp = .ok other)
    (cutters : ∀ command ∈ options.cutterCommands, Text.IsFlat command.toList)
    {calls others : List Call} (reworded : List.Forall₂ Call.Reworded calls others) :
    let first := start.after calls
    let second := other.after others
    List.Forall₂ AlikeButText (Text.splitLines first.writer.text.toList)
      (Text.splitLines second.writer.text.toList) ∧
    second.writer.slots = first.writer.slots ∧ second.position = first.position ∧
    second.mode = first.mode ∧ second.writer.nextNumber = first.writer.nextNumber ∧
    ∀ call next, Call.Reworded call next →
      fault? (obey next) second = fault? (obey call) first := by
  let rendition : Rendition := ⟨options, fun _ => True, fun _ _ => True⟩
  intro first second
  obtain ⟨far, made, same⟩ := Rendition.create_match rendition created
    options.showComments options.showLineNumbers otherStamp
  have asBefore : options.showing options.showComments options.showLineNumbers = options := rfl
  rw [asBefore, createdToo] at made
  cases made
  have step {near far : Emitter} {call next : Call} (same : rendition.Match near far)
      (reworded : Call.Reworded call next) :
      Ends Eq (rendition.Abreast near far) (obey call near) (obey next far) :=
    Rendition.ends_reworded (fun _ _ => trivial) (fun _ => trivial) same reworded
  have abreast : rendition.Abreast start other first second :=
    Rendition.abreast_after step reworded same
  obtain ⟨script, scriptToo, shown, shownToo, alike⟩ := abreast.said
  obtain ⟨said, saidToo⟩ := Rendition.said_alike alike
  obtain ⟨written, next⟩ := shown.of_created created
  obtain ⟨writtenToo, nextToo⟩ := shownToo.of_created createdToo
  obtain ⟨numbered, lines⟩ :=
    Rendition.lines_alike alike options.showComments options.showLineNumbers 1
  refine ⟨?_, abreast.slots, abreast.position, abreast.mode, ?_,
    fun call next reworded => (step abreast.toMatch reworded).leaves.1⟩
  · rw [Writer.text, Writer.text, written, writtenToo,
      Line.splitLines_joined (Script.isFlat_lines cutters said),
      Line.splitLines_joined (Script.isFlat_lines cutters saidToo)]
    exact lines
  · rw [next, nextToo, ← Script.nextNumber_eq, ← Script.nextNumber_eq, numbered]

theorem freeText_of_section :
    let facts : Section := { isFirst := true, comment := some "part 1" }
    let broken : Section := { facts with comment := some "part 1)\nM3 S1000" }
    let calls := [Call.event (.startRun (some "job")), .event (.startSection facts)]
    let others := [Call.event (.startRun (some "job\nG0 X9")), .event (.startSection broken)]
    create {} "" = .ok (fresh {}) ∧
      (∀ command ∈ Options.cutterCommands {}, Text.IsFlat command.toList) ∧
      List.Forall₂ Call.Reworded calls others ∧
      List.Forall₂ AlikeButText (Text.splitLines ((fresh {}).after calls).writer.text.toList)
        (Text.splitLines ((fresh {}).after others).writer.text.toList) := by
  intro facts broken calls others
  have created : create {} "" = .ok (fresh {}) := create_fresh (by decide +kernel) rfl
  have cutters : ∀ command ∈ Options.cutterCommands {}, Text.IsFlat command.toList := by decide
  have filled {text other : String} (given : text ≠ "") (givenToo : other ≠ "") :
      Call.SameKind (some text) (some other) := .text given givenToo
  have reworded : List.Forall₂ Call.Reworded calls others :=
    .cons (.startRun (filled (by decide) (by decide)))
      (.cons (.startSection facts (filled (by decide) (by decide))) .nil)
  exact ⟨created, cutters, reworded, (freeText_after_run created created cutters reworded).1⟩

end Emitter

end GantryCode
