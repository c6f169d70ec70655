import GantryCode.Proofs.Scripts

namespace GantryCode

/-! Tokens joined to a command.

A command is made of the tokens that are there, without the blanks at their ends and with one space
between two of them. A token that is empty is not there. One that has nothing but blanks is, and
leaves an empty piece, so there is a space too many beside it, and two of them are a line by
themselves. Without such tokens a command is one line, made of what the tokens say, or nothing.
-/

namespace Text

theorem trim_eq_nil_iff {text : List Char} : trim text = [] ↔ ∀ c ∈ text, isBlank c = true := by
  have left : trimLeft text = [] ↔ ∀ c ∈ text, isBlank c = true := List.dropWhile_eq_nil_iff
  have right : trim text = [] ↔ ∀ c ∈ trimLeft text, isBlank c = true := List.rdropWhile_eq_nil_iff
  rw [right]
  constructor
  · intro blank
    by_cases filled : trimLeft text = []
    · exact left.mp filled
    · have first := List.head_dropWhile_not isBlank filled
      have white : isBlank ((trimLeft text).head filled) = true :=
        blank _ (List.head_mem filled)
      exact absurd (white.symm.trans first) (by decide)
  · exact fun blank c member => blank c ((List.dropWhile_sublist isBlank).subset member)

theorem stripped_eq_empty_iff {text : String} :
    stripped text = "" ↔ ∀ c ∈ text.toList, isBlank c = true := by
  rw [← String.toList_inj, toList_stripped, String.toList_empty, trim_eq_nil_iff]

end Text

/-- A token that is there, but has nothing but blanks. -/
def IsBlankToken (token : String) : Prop :=
  token ≠ "" ∧ ∀ c ∈ token.toList, Text.isBlank c = true

/-- What the tokens say: what is left of them without the blanks at their ends, where something is
left. -/
def spokenTokens (tokens : List (Option String)) : List String :=
  ((tokens.filterMap id).map Text.stripped).filter (· != "")

def joinedTokens (pieces : List String) : List Char :=
  [' '].intercalate (pieces.map String.toList)

section Pieces

variable {tokens : List (Option String)} {pieces : List String}

theorem toList_commandBody (tokens : List (Option String)) :
    (commandBody tokens).toList = joinedTokens (presentTokens tokens) := by
  rw [commandBody, String.toList_ofList, joinedTokens]

/-- The pieces that are not empty are what the tokens say. -/
theorem filter_presentTokens (tokens : List (Option String)) :
    (presentTokens tokens).filter (· != "") = spokenTokens tokens := by
  have empty : Text.stripped "" = "" := by decide
  have there : (fun token => ((· != "") ∘ Text.stripped) token && token != "") =
      (· != "") ∘ Text.stripped := by
    funext token
    by_cases absent : token = ""
    · simp [absent, empty]
    · simp [absent]
  rw [presentTokens, spokenTokens, List.filter_map, List.filter_map, List.filter_filter, there]

/-- Blank tokens leave empty pieces, and no others do. -/
theorem empty_mem_presentTokens :
    "" ∈ presentTokens tokens ↔ ∃ token, some token ∈ tokens ∧ IsBlankToken token := by
  simp only [presentTokens, List.mem_map, List.mem_filter, List.mem_filterMap, id_eq,
    exists_eq_right, bne_iff_ne, Text.stripped_eq_empty_iff, IsBlankToken, and_assoc]

theorem length_joinedTokens (filled : pieces ≠ []) :
    (joinedTokens pieces).length + 1 = (pieces.flatMap String.toList).length + pieces.length := by
  induction pieces with
  | nil => exact absurd rfl filled
  | cons piece rest ih =>
      cases rest with
      | nil => simp [joinedTokens]
      | cons next others =>
          have later := ih (by simp)
          simp only [joinedTokens, List.map_cons, List.intercalate_cons_cons, List.flatMap_cons,
            List.length_append, List.length_cons, List.length_nil] at later ⊢
          omega

theorem joinedTokens_eq_nil_iff : joinedTokens pieces = [] ↔ pieces = [] ∨ pieces = [""] := by
  constructor
  · intro none
    cases pieces with
    | nil => exact .inl rfl
    | cons piece rest =>
        have length := length_joinedTokens (List.cons_ne_nil piece rest)
        rw [none] at length
        simp only [List.length_nil, List.flatMap_cons, List.length_append, List.length_cons,
          String.length_toList] at length
        have alone : rest = [] := List.eq_nil_of_length_eq_zero (by omega)
        have empty : piece = "" := String.length_eq_zero_iff.mp (by omega)
        subst alone
        exact .inr (by rw [empty])
  · rintro (rfl | rfl) <;> rfl

theorem flatMap_filter_toList (pieces : List String) :
    (pieces.filter (· != "")).flatMap String.toList = pieces.flatMap String.toList := by
  induction pieces with
  | nil => rfl
  | cons piece rest ih =>
      by_cases empty : piece = ""
      · simp [empty, ih]
      · simp [empty, ih]

/-- Empty pieces show, unless there is a single one and no other piece. -/
theorem joinedTokens_filter_iff :
    joinedTokens pieces = joinedTokens (pieces.filter (· != "")) ↔ "" ∉ pieces ∨ pieces = [""] := by
  constructor
  · intro same
    by_cases among : "" ∈ pieces
    · right
      have filled := List.ne_nil_of_mem among
      by_cases none : pieces.filter (· != "") = []
      · rw [none] at same
        exact (joinedTokens_eq_nil_iff.mp same).resolve_left filled
      · have fewer : (pieces.filter (· != "")).length < pieces.length :=
          List.length_filter_lt_length_iff_exists.mpr ⟨"", among, by decide⟩
        have length := length_joinedTokens filled
        have lengthToo := length_joinedTokens none
        rw [flatMap_filter_toList, ← same] at lengthToo
        omega
    · exact .inl among
  · rintro (absent | rfl)
    · have kept : pieces.filter (· != "") = pieces :=
        List.filter_eq_self.mpr fun piece member => by
          simpa using fun empty : piece = "" => absent (empty ▸ member)
      rw [kept]
    · rfl

end Pieces

namespace Writer

/-- The number of a command, if the writer shows it. -/
def numberFront (writer : Writer) : List Char :=
  if writer.showLineNumbers then 'N' :: Text.decimalDigits writer.nextNumber ++ [' '] else []

/-- The remark behind a command, if the writer shows it and something is left of it. -/
def remarkBehind (writer : Writer) (note : Option String) : List Char :=
  let cleaned := Remark.clean (note.getD "")
  if writer.showComments && cleaned != "" then [' ', ';', ' '] ++ cleaned.toList else []

def lineChars (writer : Writer) (body : List Char) (note : Option String) : List Char :=
  writer.numberFront ++ body ++ writer.remarkBehind note

/-- What is asked of a command. If the tokens say nothing, nothing happens. Otherwise there is one
more line, which says what they say and has no blanks at its end, its number is used up if it has
one, and nothing else has changed. -/
structure Answers (writer : Writer) (tokens : List (Option String))
    (note : Option String) : Prop where
  returned : writesLine tokens = !(spokenTokens tokens).isEmpty
  silent : spokenTokens tokens = [] → writer.command tokens note = writer
  line : spokenTokens tokens ≠ [] → (writer.command tokens note).text.toList =
    writer.text.toList ++ writer.lineChars (joinedTokens (spokenTokens tokens)) note ++ ['\n']
  tight : spokenTokens tokens ≠ [] →
    Text.IsTight (writer.lineChars (joinedTokens (spokenTokens tokens)) note)
  flat : spokenTokens tokens ≠ [] →
    Text.IsFlat (writer.lineChars (joinedTokens (spokenTokens tokens)) note)
  counted : spokenTokens tokens ≠ [] → (writer.command tokens note).nextNumber =
    writer.nextNumber + if writer.showLineNumbers then 1 else 0
  kept : { writer.command tokens note with
    written := writer.written, nextNumber := writer.nextNumber } = writer

variable (writer : Writer) {tokens : List (Option String)} (note : Option String)

theorem writesLine_eq_false_iff :
    writesLine tokens = false ↔ presentTokens tokens = [] ∨ presentTokens tokens = [""] := by
  rw [← joinedTokens_eq_nil_iff, ← toList_commandBody, writesLine, bne_eq_false_iff_eq,
    ← String.toList_inj, String.toList_empty]

theorem command_of_unwritten (unwritten : writesLine tokens = false) :
    writer.command tokens note = writer := by
  rw [command, unwritten]
  rfl

/-- The remark of a command as its line holds it. -/
def shownRemark (writer : Writer) (note : Option String) : Option String :=
  if writer.showComments then note.bind Line.remarkOf? else none

theorem shownRemark_eq {text : String} (shown : writer.shownRemark note = some text) :
    ∃ given, Line.remarkOf? given = some text := by
  rw [shownRemark] at shown
  split at shown
  · obtain ⟨given, -, found⟩ := Option.bind_eq_some_iff.mp shown
    exact ⟨given, found⟩
  · cases shown

theorem remarkBehind_eq : writer.remarkBehind note =
    (writer.shownRemark note).elim [] fun text => ' ' :: Line.remarkChars text := by
  rw [remarkBehind, shownRemark]
  cases writer.showComments with
  | false => rfl
  | true =>
      cases note with
      | none => decide
      | some text =>
          by_cases empty : Remark.clean text = "" <;>
            simp [Line.remarkOf?, empty, Line.remarkChars]

theorem lineChars_eq (body : String) : writer.lineChars body.toList note =
    [' '].intercalate (Line.command
      (if writer.showLineNumbers then some writer.nextNumber else none) body
      (writer.shownRemark note)).pieces := by
  rw [Line.intercalate_pieces, lineChars, remarkBehind_eq, numberFront]
  cases writer.showLineNumbers <;> rfl

/-- What is written for tokens that make a line. -/
theorem text_command (written : writesLine tokens = true) :
    (writer.command tokens note).text.toList = writer.text.toList ++
      Text.trimRight (writer.lineChars (joinedTokens (presentTokens tokens)) note) ++ ['\n'] := by
  rw [text, text, written_command, commandLine?, if_pos written, ← toList_commandBody,
    lineChars_eq, Line.toList_joined, Line.toList_joined, List.flatMap_append, List.append_assoc]
  congr 1
  rw [Option.toList_some, List.flatMap_cons, List.flatMap_nil, List.append_nil]
  rfl

theorem nextNumber_command (written : writesLine tokens = true) :
    (writer.command tokens note).nextNumber =
      writer.nextNumber + if writer.showLineNumbers then 1 else 0 := by
  rw [command, if_pos written]
  cases writer.showLineNumbers <;> rfl

theorem command_kept (tokens : List (Option String)) : { writer.command tokens note with
    written := writer.written, nextNumber := writer.nextNumber } = writer := by
  rw [command]
  split <;> rfl

/-- The line of a body without blanks at its end has none there either. -/
theorem lineChars_of_tight {body : String} (tight : Text.IsTight body.toList) :
    writer.lineChars body.toList note =
      (Line.command (if writer.showLineNumbers then some writer.nextNumber else none) body
        (writer.shownRemark note)).chars := by
  rw [lineChars_eq, Line.intercalate_pieces, Line.chars_command _ tight]
  intro text shown
  obtain ⟨given, found⟩ := writer.shownRemark_eq note shown
  exact Line.remarkOf?_tight found

theorem lineChars_isTight {body : String} (tight : Text.IsTight body.toList) :
    Text.IsTight (writer.lineChars body.toList note) := by
  refine ⟨by simp [lineChars, tight.1], ?_⟩
  rw [lineChars_of_tight writer note tight, Line.chars, Text.trimRight_trimRight]

theorem lineChars_flat {body : String} (tight : Text.IsTight body.toList)
    (flat : Text.IsFlat body.toList) : Text.IsFlat (writer.lineChars body.toList note) := by
  rw [lineChars_of_tight writer note tight]
  refine Line.isFlat_command flat fun text shown => ?_
  obtain ⟨given, found⟩ := writer.shownRemark_eq note shown
  exact Line.remarkOf?_flat found

theorem empty_notMem_spokenTokens : "" ∉ spokenTokens tokens := by
  simp [spokenTokens]

/-- Where the joined pieces are what the tokens say, a command does what is asked of it. -/
theorem answers_of_joined (flat : ∀ token, some token ∈ tokens → Text.IsFlat token.toList)
    (same : joinedTokens (presentTokens tokens) = joinedTokens (spokenTokens tokens)) :
    Answers writer tokens note := by
  have silence : writesLine tokens = false ↔ spokenTokens tokens = [] := by
    rw [writesLine_eq_false_iff, ← joinedTokens_eq_nil_iff, same, joinedTokens_eq_nil_iff]
    refine or_iff_left fun alone => ?_
    have absent : "" ∉ spokenTokens tokens := empty_notMem_spokenTokens
    rw [alone] at absent
    exact absent (List.mem_singleton_self "")
  have spoken (heard : spokenTokens tokens ≠ []) : writesLine tokens = true := by
    rw [← Bool.not_eq_false, silence]
    exact heard
  have tight (heard : spokenTokens tokens ≠ []) : Text.IsTight (commandBody tokens).toList := by
    rw [← filter_presentTokens, joinedTokens_filter_iff] at same
    have made : commandBody tokens ≠ "" := by simpa [writesLine] using spoken heard
    refine Reading.commandBody_tight (fun token among filled blank => ?_) made
    rcases same with absent | alone
    · exact absent
        (empty_mem_presentTokens.mpr ⟨token, among, filled, Text.trim_eq_nil_iff.mp blank⟩)
    · rw [← filter_presentTokens, alone] at heard
      exact heard rfl
  have body : (commandBody tokens).toList = joinedTokens (spokenTokens tokens) :=
    (toList_commandBody tokens).trans same
  have spokenLine (heard : spokenTokens tokens ≠ []) : (writer.command tokens note).text.toList =
      writer.text.toList ++ writer.lineChars (joinedTokens (spokenTokens tokens)) note ++
        ['\n'] := by
    rw [text_command writer note (spoken heard), same, ← body,
      (lineChars_isTight writer note (tight heard)).2]
  have returned : writesLine tokens = !(spokenTokens tokens).isEmpty := by
    cases written : writesLine tokens with
    | false => rw [silence.mp written]; rfl
    | true =>
        have heard : spokenTokens tokens ≠ [] := fun silent => by
          rw [silence.mpr silent] at written
          cases written
        simpa using heard
  exact {
    returned
    silent := fun silent => command_of_unwritten writer note (silence.mpr silent)
    line := spokenLine
    tight := fun heard => body ▸ lineChars_isTight writer note (tight heard)
    flat := fun heard =>
      body ▸ lineChars_flat writer note (tight heard) (Reading.commandBody_flat flat)
    counted := fun heard => nextNumber_command writer note (spoken heard)
    kept := command_kept writer note tokens }

/-- Where a remark is shown behind the command, the blanks in front of it are shown, too. -/
theorem joined_of_answers {text : String} (shown : writer.showComments = true)
    (left : Remark.clean text ≠ "") (answers : Answers writer tokens (some text)) :
    joinedTokens (presentTokens tokens) = joinedTokens (spokenTokens tokens) := by
  by_cases silent : spokenTokens tokens = []
  · have unwritten : writesLine tokens = false := by rw [answers.returned, silent]; rfl
    rw [silent]
    exact joinedTokens_eq_nil_iff.mpr (writesLine_eq_false_iff.mp unwritten)
  · have written : writesLine tokens = true := by simpa [answers.returned] using silent
    have behind :
        writer.remarkBehind (some text) = [' ', ';', ' '] ++ (Remark.clean text).toList := by
      simp [remarkBehind, shown, left]
    have tight : Text.IsTight (writer.remarkBehind (some text)) := by
      have found : Line.remarkOf? text = some (Remark.clean text) := by simp [Line.remarkOf?, left]
      rw [behind]
      exact (Line.remarkOf?_tight found).append _
    have line := answers.line silent
    rw [text_command writer (some text) written, List.append_cancel_right_eq,
      List.append_cancel_left_eq, lineChars, lineChars, (tight.append _).2] at line
    exact List.append_cancel_left (List.append_cancel_right line)

/-- Every writer does with these tokens what is asked of a command, iff none of them is blank or
one that is blank is the only one there. Whatever they are, there is no line iff nothing is left
of them or only an empty piece, and the line is that of their pieces without the blanks at its
end. -/
theorem command_answers_iff (flat : ∀ token, some token ∈ tokens → Text.IsFlat token.toList) :
    ((∀ (writer : Writer) (note : Option String), Answers writer tokens note) ↔
        (∀ token, some token ∈ tokens → ¬IsBlankToken token) ∨ presentTokens tokens = [""]) ∧
      (writesLine tokens = false ↔ presentTokens tokens = [] ∨ presentTokens tokens = [""]) ∧
      ∀ (writer : Writer) (note : Option String),
        (writesLine tokens = false → writer.command tokens note = writer) ∧
        (writesLine tokens = true →
          (writer.command tokens note).text.toList = writer.text.toList ++
            Text.trimRight (writer.lineChars (joinedTokens (presentTokens tokens)) note) ++ ['\n'] ∧
          (writer.command tokens note).nextNumber =
            writer.nextNumber + if writer.showLineNumbers then 1 else 0) := by
  have spoken :
      (∀ token, some token ∈ tokens → ¬IsBlankToken token) ↔ "" ∉ presentTokens tokens := by
    rw [empty_mem_presentTokens]
    simp only [not_exists, not_and]
  refine ⟨⟨fun answers => ?_, fun condition writer note => ?_⟩, writesLine_eq_false_iff,
    fun writer note => ⟨command_of_unwritten writer note, fun written =>
      ⟨text_command writer note written, nextNumber_command writer note written⟩⟩⟩
  · have told := answers { target := .marlin, stamp := "" } (some "rapid")
    rw [spoken, ← joinedTokens_filter_iff, filter_presentTokens]
    exact joined_of_answers _ rfl (by decide) told
  · refine answers_of_joined writer note flat ?_
    rw [← filter_presentTokens, joinedTokens_filter_iff, ← spoken]
    exact condition

/-- A move with an empty token, one that is not there and one with blanks at its ends, and with a
remark of two lines. -/
theorem command_answers_move :
    (∀ token, some token ∈ [some "G0", some "", some " X1\t", none] → Text.IsFlat token.toList) ∧
      (∀ (writer : Writer) (note : Option String),
        Answers writer [some "G0", some "", some " X1\t", none] note) ∧
      ({ target := .marlin, stamp := "", showLineNumbers := true } : Writer).lineChars
        (joinedTokens (spokenTokens [some "G0", some "", some " X1\t", none]))
        (some "rapid\n(fast)") = "N1 G0 X1 ; rapid fast".toList := by
  have flat : ∀ token, some token ∈ [some "G0", some "", some " X1\t", none] →
      Text.IsFlat token.toList := by
    intro token among
    simp only [List.mem_cons, Option.some_inj, List.not_mem_nil, reduceCtorEq, or_false] at among
    rcases among with rfl | rfl | rfl <;> decide
  refine ⟨flat, (command_answers_iff flat).1.mpr (.inl ?_), by decide⟩
  intro token among
  simp only [List.mem_cons, Option.some_inj, List.not_mem_nil, reduceCtorEq, or_false] at among
  rcases among with rfl | rfl | rfl <;> simp [IsBlankToken, Text.isBlank]

/-- Two blank tokens say nothing, but a line with nothing but its number is written for them. -/
theorem blank_tokens_numbered :
    (∀ token ∈ [some " ", some " "], ∀ text ∈ token, ∀ c ∈ text.toList, Text.isBlank c = true) ∧
      writesLine [some " ", some " "] = true ∧
      (({ target := .marlin, stamp := "", showLineNumbers := true } : Writer).command
        [some " ", some " "] none).text = "N1\n" ∧
      (({ target := .marlin, stamp := "", showLineNumbers := true } : Writer).command
        [some " ", some " "] none).nextNumber = 2 := by
  refine ⟨fun token among text held c within => ?_, by decide, by decide, by decide⟩
  have single : text = " " := by
    rcases List.mem_cons.mp among with rfl | among
    · exact (Option.some.inj held).symm
    · cases List.mem_singleton.mp among
      exact (Option.some.inj held).symm
  subst single
  have blank : c = ' ' := List.mem_singleton.mp within
  subst blank
  decide

end Writer

end GantryCode
