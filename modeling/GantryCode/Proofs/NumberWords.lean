import GantryCode.Proofs.DecimalText
import GantryCode.Proofs.ModalReading
import GantryCode.Proofs.Scripts

namespace GantryCode

open Decimal (IsFinite)

/-! The words that are to hold numbers.

These are what stands behind the code of a move, of homing or of a dwell. An axis that is
sent home is named without a number. In the commands that an emitter gives, all such words
hold decimal numbers if the numbers that went into them are finite.
-/

namespace Reading

/-- What stands behind the code of a dwell. -/
def dwellWords : List (List Char) → List (List Char)
  | [] => []
  | code :: rest => if code = Feature.dwell.usual.toList then rest else []

def isAxisName (word : List Char) : Bool :=
  Axis.all.any (·.name.toList == word)

/-- The words of a line that are to hold a number behind their letter. -/
def numberWords (words : List (List Char)) : List (List Char) :=
  moveWords words ++ (homingWords words).filter (!isAxisName ·) ++ dwellWords words

/-- The letters of moves and of dwells. -/
def numberLetters : List Char :=
  ['X', 'Y', 'Z', 'I', 'J', 'K', 'F', 'S', 'P']

/-- A letter with a decimal number behind it. -/
def IsNumberWord (word : List Char) : Prop :=
  ∃ letter ∈ numberLetters, ∃ number, Decimal.IsDecimal number ∧ word = letter :: number

theorem IsNumberWord.isToken {word : List Char} (written : IsNumberWord word) : IsToken word := by
  obtain ⟨letter, among, number, decimal, rfl⟩ := written
  have plain : ∀ c ∈ numberLetters, Text.isBlank c = false ∧ c ≠ ';' := by
    simp only [numberLetters, List.forall_mem_cons, List.not_mem_nil, false_implies, implies_true]
    decide
  refine ⟨by simp, fun c member => ?_⟩
  rcases List.mem_cons.mp member with rfl | behind
  · exact plain c among
  · have numeric : Decimal.isNumberChar c = true := by
      rcases decimal.chars c behind with rfl | rfl | digit
      · decide
      · decide
      · simp [Decimal.isNumberChar, digit]
    exact ⟨Decimal.isNumberChar_isBlank numeric, Decimal.isNumberChar_ne_semicolon numeric⟩

section Codes

variable {code : List Char} (rest : List (List Char))

theorem numberWords_of_uncoded (uncoded : startsCode 'G' code = false) :
    numberWords (code :: rest) = [] := by
  obtain ⟨still, away⟩ := unheard_of_uncoded uncoded rest
  have brief : code ≠ Feature.dwell.usual.toList := by
    rintro rfl
    cases uncoded
  rw [numberWords, still, away, dwellWords, if_neg brief]
  rfl

theorem numberWords_move (moves : isMove code = true) : numberWords (code :: rest) = rest := by
  have others : homingWords (code :: rest) = [] ∧ dwellWords (code :: rest) = [] := by
    rcases isMove_cases moves with rfl | rfl | rfl | rfl <;> exact ⟨rfl, rfl⟩
  rw [numberWords, moveWords_move moves, others.1, others.2]
  simp

theorem numberWords_plane (plane : Plane) (moves : isMove code = true) :
    numberWords (plane.code.toList :: code :: rest) = rest := by
  have others : homingWords (plane.code.toList :: code :: rest) = [] ∧
      dwellWords (plane.code.toList :: code :: rest) = [] := by
    cases plane <;> exact ⟨rfl, rfl⟩
  rw [numberWords, moveWords_plane plane moves, others.1, others.2]
  simp

end Codes

/-- The tokens of a command have no line number in front, and their numbers are decimal. -/
def Numeric (tokens : List (List Char)) : Prop :=
  withoutNumber tokens = tokens ∧ ∀ word ∈ numberWords tokens, IsNumberWord word

theorem Numeric.of_wordless {tokens : List (List Char)} (unnumbered : withoutNumber tokens = tokens)
    (wordless : numberWords tokens = []) : Numeric tokens :=
  ⟨unnumbered, by simp [wordless]⟩

theorem numeric_quiet {text : List Char} (codeless : startsCode 'G' (Text.trim text) = false)
    (unnumbered : startsCode 'N' (Text.trim text) = false) : Numeric (tokens text) := by
  refine .of_wordless (withoutNumber_quiet unnumbered) ?_
  cases found : tokens text with
  | nil => rfl
  | cons token rest => exact numberWords_of_uncoded rest (startsCode_token codeless found)

section Bodies

variable {code : String} {words : List (Option String)}

/-- The words behind a code, none of which is missing its number. -/
def AreNumberWords (words : List (Option String)) : Prop :=
  ∀ token, some token ∈ words → IsNumberWord token.toList

theorem AreNumberWords.append {more : List (Option String)} (numbers : AreNumberWords words)
    (others : AreNumberWords more) : AreNumberWords (words ++ more) := by
  intro token member
  rcases List.mem_append.mp member with early | late
  · exact numbers token early
  · exact others token late

theorem AreNumberWords.tokens (numbers : AreNumberWords words) :
    tokens (commandBody words).toList = (words.filterMap id).map String.toList :=
  tokens_commandBody fun token member => (numbers token member).isToken

theorem AreNumberWords.each (numbers : AreNumberWords words) :
    ∀ word ∈ (words.filterMap id).map String.toList, IsNumberWord word := by
  intro word member
  obtain ⟨token, present, rfl⟩ := List.mem_map.mp member
  exact numbers token (by simpa using present)

theorem numeric_move (moves : isMove code.toList = true) (numbers : AreNumberWords words) :
    Numeric (tokens (commandBody (some code :: words)).toList) := by
  rw [tokens_commandBody_cons (isMove_isToken moves), numbers.tokens]
  refine ⟨withoutNumber_move moves, ?_⟩
  rw [numberWords_move _ moves]
  exact numbers.each

theorem numeric_plane (plane : Plane) (moves : isMove code.toList = true)
    (numbers : AreNumberWords words) :
    Numeric (tokens (commandBody (some plane.code :: some code :: words)).toList) := by
  have selects : IsToken plane.code.toList := by cases plane <;> decide
  rw [tokens_commandBody_cons selects, tokens_commandBody_cons (isMove_isToken moves),
    numbers.tokens]
  refine ⟨withoutNumber_plane plane, ?_⟩
  rw [numberWords_plane _ plane moves]
  exact numbers.each

theorem numeric_home (axis : Axis) (numbers : AreNumberWords words) :
    Numeric (tokens (commandBody (some "G28" :: some axis.name :: words)).toList) := by
  have named : IsToken axis.name.toList := by cases axis <;> decide
  rw [tokens_commandBody_cons (by decide), tokens_commandBody_cons named, numbers.tokens]
  refine ⟨rfl, fun word member => ?_⟩
  have behind : numberWords ("G28".toList :: axis.name.toList ::
      (words.filterMap id).map String.toList) =
        (axis.name.toList :: (words.filterMap id).map String.toList).filter (!isAxisName ·) :=
    List.append_nil _
  rw [behind, List.filter_cons_of_neg (by cases axis <;> decide)] at member
  exact numbers.each word (List.mem_filter.mp member).1

theorem numeric_dwell (numbers : AreNumberWords words) :
    Numeric (tokens (commandBody (some "G4" :: words)).toList) := by
  rw [tokens_commandBody_cons (by decide), numbers.tokens]
  exact ⟨rfl, numbers.each⟩

end Bodies

end Reading

namespace Registers

open Reading

variable {registers : Registers} {letter : Letter} {text : String}

/-- What is known of a letter was known before or is from one of the words. -/
theorem foldl_source {α : Type} (step : Registers → α → Registers) {source : α → Prop}
    (single : ∀ registers entry, step registers entry letter = some text →
      registers letter = some text ∨ source entry)
    {entries : List α} (known : entries.foldl step registers letter = some text) :
    registers letter = some text ∨ ∃ entry ∈ entries, source entry := by
  induction entries generalizing registers with
  | nil => exact .inl known
  | cons entry rest ih =>
      rcases ih known with early | ⟨other, among, found⟩
      · rcases single registers entry early with before | here
        · exact .inl before
        · exact .inr ⟨entry, List.mem_cons_self .., here⟩
      · exact .inr ⟨other, List.mem_cons_of_mem _ among, found⟩

/-- The word that gives a letter its text. -/
def wordOf (letter : Letter) (text : String) : List Char :=
  (letter.name ++ text).toList

theorem note_source {word : List Char} (known : registers.note word letter = some text) :
    registers letter = some text ∨ word = wordOf letter text := by
  cases word with
  | nil => exact .inl known
  | cons c behind =>
      cases found : letterOf? c with
      | none =>
          simp only [note, found] at known
          exact .inl known
      | some other =>
          simp only [note, found] at known
          by_cases same : letter = other
          · subst same
            rw [Function.update_self] at known
            have name : letter.name.toList = [c] := by
              simpa using List.find?_some found
            right
            rw [wordOf, ← Option.some.inj known, String.toList_append, name, String.toList_ofList]
            rfl
          · rw [Function.update_of_ne same] at known
            exact .inl known

theorem noteHoming_source {word : List Char}
    (known : registers.noteHoming word letter = some text) :
    registers letter = some text ∨ word = wordOf letter text ∧ isAxisName word = false := by
  cases found : Axis.all.find? (·.name.toList == word) with
  | some axis =>
      simp only [noteHoming, found] at known
      by_cases same : letter = axis.letter
      · subst same
        rw [Function.update_self] at known
        cases known
      · rw [Function.update_of_ne same] at known
        exact .inl known
  | none =>
      simp only [noteHoming, found] at known
      rcases note_source known with before | here
      · exact .inl before
      · refine .inr ⟨here, ?_⟩
        rw [isAxisName, List.any_eq_false]
        exact List.find?_eq_none.mp found

theorem read_source {line : List Char} (known : registers.read line letter = some text) :
    registers letter = some text ∨ wordOf letter text ∈ numberWords (words line) := by
  rcases foldl_source noteHoming (fun _ _ => noteHoming_source) known with
    moved | ⟨word, among, rfl, unnamed⟩
  · rcases foldl_source note (fun _ _ => note_source) moved with before | ⟨word, among, rfl⟩
    · exact .inl before
    · exact .inr (by simp [numberWords, among])
  · exact .inr (by simp [numberWords, among, unnamed])

theorem readLines_source {lines : List Line}
    (known : registers.readLines lines letter = some text) :
    registers letter = some text ∨
      ∃ line ∈ lines, wordOf letter text ∈ numberWords (words line.chars) :=
  foldl_source (fun registers (line : Line) => registers.read line.chars)
    (fun _ _ => read_source) known

end Registers

namespace IsPhrase

open Reading

open Emitter (feedWord)

variable {options : Options} {given : List (Option String)}

theorem rounded_isNumberWord {letter : Char} (among : letter ∈ numberLetters) (places : Nat)
    {value : Float} (finite : IsFinite value) :
    IsNumberWord (letter :: (Decimal.rounded places value).toList) :=
  ⟨letter, among, _, (Decimal.rounded_isDecimal_iff places value).mpr finite, rfl⟩

theorem letter_isNumberWord (letter : Letter) (places : Nat) {value : Float}
    (finite : IsFinite value) :
    IsNumberWord (letter.name ++ Decimal.rounded places value).toList := by
  rw [String.toList_append]
  cases letter <;> exact rounded_isNumberWord (by decide) places finite

theorem words_areNumberWords {letters : List Letter} {words : List (Option String)}
    (spelled : List.Forall₂ (Spells IsFinite) letters words) : AreNumberWords words := by
  intro token member
  obtain ⟨letter, spelled⟩ := Spells.of_mem spelled member
  obtain ⟨value, places, finite, rfl⟩ := spelled token rfl
  exact letter_isNumberWord letter places finite

theorem feed_areNumberWords (feed : Option Float) (fed : ∀ rate ∈ feed, IsFinite rate) :
    AreNumberWords [feed.map feedWord] := by
  intro token member
  obtain ⟨rate, given, rfl⟩ := Option.map_eq_some_iff.mp (List.mem_singleton.mp member).symm
  exact letter_isNumberWord .f 0 (fed rate given)

/-- The numbers of a command are decimal, if those that went into it are finite. -/
theorem numeric (quiet : options.CuttersAreQuiet)
    (rates : ∀ quantity ∈ options.rapidFeeds, ∀ rate, quantity.toFloat .text = .ok rate →
      IsFinite rate)
    (phrase : IsPhrase options IsFinite given) : Numeric (tokens (commandBody given).toList) := by
  cases phrase with
  | laser among =>
      rw [tokens_commandBody_single]
      exact numeric_quiet (quiet.codeless _ among) (quiet.unnumbered _ among)
  | @feature target feature among =>
      have zero : IsNumberWord ['P', '0'] :=
        ⟨'P', by decide, ['0'], Decimal.isDecimal_digit (by decide), rfl⟩
      -- the one number among them is in what GRBL has for finishing its moves
      have only : withoutNumber (tokens (commandBody [target.code? feature]).toList) =
          tokens (commandBody [target.code? feature]).toList ∧
          ∀ word ∈ numberWords (tokens (commandBody [target.code? feature]).toList),
            word = ['P', '0'] := by
        simp only [Feature.commands, List.mem_cons, List.not_mem_nil, or_false] at among
        rcases among with rfl | rfl | rfl | rfl | rfl <;> cases target <;> decide
      exact ⟨only.1, fun word member => only.2 word member ▸ zero⟩
  | display shown text =>
      rw [message_code shown, tokens_commandBody_cons (by decide)]
      exact .of_wordless rfl (numberWords_of_uncoded _ rfl)
  | @plane plane code selects =>
      cases code with
      | none => exact .of_wordless (by decide) (by decide)
      | some text =>
          rw [selects text rfl]
          refine .of_wordless ?_ ?_ <;> cases plane <;> decide
  | @home target axis feed rated =>
      have code : target.code? .home = some "G28" := by cases target <;> rfl
      rw [code]
      exact numeric_home axis
        (feed_areNumberWords feed fun rate given =>
          rates _ (by simp [Options.rapidFeeds]) rate (rated rate given))
  | @rapid letters words feed rate among spelled moves rapid rated =>
      refine numeric_move (by decide) ((words_areNumberWords spelled).append ?_)
      refine feed_areNumberWords (some rate) fun other same => ?_
      cases same
      exact rates feed rapid rate rated
  | @cut words feed spelled moves fed =>
      exact numeric_move (by decide)
        ((words_areNumberWords spelled).append (feed_areNumberWords feed fed))
  | @feed rate fed =>
      exact numeric_move (by decide) (feed_areNumberWords (some rate) fun _ same => by
        cases same
        exact fed)
  | @arc plane planeCode words centers feed selects clockwise spelled centered given fed =>
      have turn : isMove (if clockwise then "G2" else "G3").toList = true := by
        cases clockwise <;> decide
      have numbers := ((words_areNumberWords spelled).append (words_areNumberWords centered)).append
        (feed_areNumberWords feed fed)
      cases planeCode with
      | none => exact numeric_move turn numbers
      | some code =>
          rw [selects code rfl]
          exact numeric_plane plane turn numbers
  | @dwell target other places seconds lasts =>
      have code : target.code? .dwell = some "G4" := by cases target <;> rfl
      rw [code]
      refine numeric_dwell fun token member => ?_
      cases List.mem_singleton.mp member
      rw [String.toList_append]
      cases other <;> exact rounded_isNumberWord (by decide) places lasts

end IsPhrase

namespace Script

open Reading

variable {options : Options} {script : List Phrase}

/-- Whatever is shown beside them, the number words of the lines are those of the commands. -/
theorem numberWords_lines (quiet : options.CuttersAreQuiet)
    (rates : ∀ quantity ∈ options.rapidFeeds, ∀ rate, quantity.toFloat .text = .ok rate →
      IsFinite rate)
    (said : ∀ phrase ∈ script, phrase.IsSaid options IsFinite) (comments numbers : Bool)
    (number : Nat) :
    ∀ line ∈ lines comments numbers number script, ∀ word ∈ numberWords (words line.chars),
      IsNumberWord word := by
  intro line member
  rcases mem_lines member with ⟨phrase, among, body, spoken, _, note, -, rfl⟩ | ⟨text, rfl⟩
  · cases phrase with
    | remark text => cases spoken
    | command tokens note =>
        obtain ⟨-, rfl⟩ := Phrase.body?_command spoken
        obtain ⟨unnumbered, numeric⟩ := IsPhrase.numeric quiet rates (said _ among)
        rw [words_command _ _ unnumbered]
        exact numeric
  · rw [Emitter.words_ofComment]
    simp [numberWords, moveWords, homingWords, dwellWords]

end Script

end GantryCode
