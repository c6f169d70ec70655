import GantryCode.Proofs.Wording

namespace GantryCode

/-! Commands read back.

The line of a command is read as the tokens that the command was given, so a reader
knows behind it what the tokens say.
-/

/-- A letter followed by a number. -/
def IsWord (token : String) : Prop :=
  ∃ (letter : Letter) (text : String),
    token = letter.name ++ text ∧ Decimal.IsNumberText text

namespace IsWord

variable {token : String}

theorem isToken (word : IsWord token) : Reading.IsToken token.toList := by
  obtain ⟨letter, text, rfl, number⟩ := word
  have name : Reading.IsToken letter.name.toList := by cases letter <;> decide
  refine ⟨by simp [name.1], fun c member => ?_⟩
  rw [String.toList_append] at member
  rcases List.mem_append.mp member with front | behind
  · exact name.2 c front
  · exact ⟨Decimal.isNumberChar_isBlank (number c behind),
      Decimal.isNumberChar_ne_semicolon (number c behind)⟩

theorem isPlaneCode (word : IsWord token) : Reading.isPlaneCode token.toList = false := by
  obtain ⟨letter, text, rfl, number⟩ := word
  cases letter <;> simp [Reading.isPlaneCode, Plane.all, Plane.code, Letter.name]

end IsWord

namespace Text

theorem isLineBreak_isBlank {c : Char} (breaks : isLineBreak c = true) : isBlank c = true := by
  simp only [isLineBreak, isBlank, Bool.or_eq_true, Bool.and_eq_true, decide_eq_true_eq,
    beq_iff_eq] at breaks ⊢
  omega

end Text

namespace Reading

variable {given : List (Option String)}

theorem IsToken.flat {token : List Char} (alone : IsToken token) :
    Text.IsFlat token := by
  intro c member
  have visible := (alone.2 c member).1
  cases breaks : Text.isLineBreak c with
  | false => rfl
  | true => rw [Text.isLineBreak_isBlank breaks] at visible; cases visible

theorem commandBody_flat
    (flat : ∀ token, some token ∈ given → Text.IsFlat token.toList) :
    Text.IsFlat (commandBody given).toList := by
  intro c member
  rw [commandBody, String.toList_ofList] at member
  rcases Text.mem_of_mem_intercalate member with rfl | ⟨piece, among, inside⟩
  · decide
  · obtain ⟨text, present, rfl⟩ := List.mem_map.mp among
    obtain ⟨token, kept, rfl⟩ := List.mem_map.mp present
    have written : some token ∈ given := by simpa using (List.mem_filter.mp kept).1
    rw [Text.toList_stripped] at inside
    exact flat token written c (Text.mem_of_mem_trim inside)

theorem commandBody_single_flat {text : String} (flat : Text.IsFlat text.toList) :
    Text.IsFlat (commandBody [some text]).toList := by
  refine commandBody_flat fun token member => ?_
  cases List.mem_singleton.mp member
  exact flat

end Reading

namespace Writer

open Reading

variable (writer : Writer) (given : List (Option String)) (note : Option String)

/-- The line that tokens make, if they make one. -/
def commandLine? : Option Line :=
  if writesLine given then
    some (.command (if writer.showLineNumbers then some writer.nextNumber else none)
      (commandBody given) (if writer.showComments then note.bind Line.remarkOf? else none))
  else none

theorem written_command :
    (writer.command given note).written.toList =
      writer.written.toList ++ (writer.commandLine? given note).toList := by
  unfold command commandLine?
  split <;> simp

@[simp] theorem slots_command : (writer.command given note).slots = writer.slots := by
  unfold command
  split <;> rfl

@[simp] theorem precision_command : (writer.command given note).precision = writer.precision := by
  unfold command
  split <;> rfl

@[simp] theorem target_command : (writer.command given note).target = writer.target := by
  unfold command
  split <;> rfl

theorem tokens_of_unwritten (unwritten : writer.commandLine? given note = none) :
    tokens (commandBody given).toList = [] := by
  have empty : commandBody given = "" := by
    simpa [commandLine?, writesLine] using unwritten
  simp [empty]

variable {given}

theorem exists_commandLine (spoken : tokens (commandBody given).toList ≠ []) :
    ∃ line, writer.commandLine? given note = some line :=
  Option.ne_none_iff_exists'.mp fun unwritten =>
    spoken (tokens_of_unwritten writer given note unwritten)

theorem commandLine_words (unnumbered : withoutNumber (tokens (commandBody given).toList) =
      tokens (commandBody given).toList)
    {line : Line} (written : writer.commandLine? given note = some line) :
    words line.chars = tokens (commandBody given).toList := by
  unfold commandLine? at written
  split at written
  · cases written
    exact words_command _ _ unnumbered
  · cases written

theorem commandLine_flat (flat : Text.IsFlat (commandBody given).toList)
    {line : Line} (written : line ∈ (writer.commandLine? given note).toList) : line.IsFlat := by
  have found := Option.mem_toList.mp written
  unfold commandLine? at found
  split at found
  · cases found
    refine Line.isFlat_command flat fun text shown => ?_
    split at shown
    · obtain ⟨free, -, cleaned⟩ := Option.bind_eq_some_iff.mp shown
      exact Line.remarkOf?_flat cleaned
    · cases shown
  · cases found

theorem readLines_command (registers : Registers)
    (unnumbered : withoutNumber (tokens (commandBody given).toList) =
      tokens (commandBody given).toList) :
    registers.readLines (writer.commandLine? given note).toList =
      registers.readWords (tokens (commandBody given).toList) := by
  cases written : writer.commandLine? given note with
  | none =>
      rw [tokens_of_unwritten writer given note written]
      rfl
  | some line =>
      change registers.read line.chars = _
      rw [Registers.read, commandLine_words writer note unnumbered written]

theorem planeAfter_command (held : Option String)
    (unnumbered : withoutNumber (tokens (commandBody given).toList) =
      tokens (commandBody given).toList) :
    planeAfter held (writer.commandLine? given note).toList =
      ((planeCodes (tokens (commandBody given).toList)).getLast?.map String.ofList <|> held) := by
  cases written : writer.commandLine? given note with
  | none =>
      rw [tokens_of_unwritten writer given note written]
      rfl
  | some line =>
      change readPlane held line.chars = _
      rw [readPlane, commandLine_words writer note unnumbered written]

end Writer

end GantryCode
