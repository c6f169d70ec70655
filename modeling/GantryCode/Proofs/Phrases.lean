import GantryCode.Proofs.Phases

namespace GantryCode

/-! The commands that an emitter gives.

There are few forms of them. Their words are made of numbers that can be told beforehand,
from the options and from what is asked for; only the commands that switch the laser and
what is shown on the display are texts of somebody else.
-/

/-- The word of a letter for one of the values that are allowed, if it is not left out. -/
def Spells (allows : Float → Prop) (letter : Letter) (token : Option String) : Prop :=
  ∀ text ∈ token, ∃ value places, allows value ∧
    text = letter.name ++ Decimal.rounded places value

/-- What a dialect has a command of its own for. -/
def Feature.commands : List Feature :=
  [.setUnitsMm, .absolutePositioning, .finishMoves, .disableMotors, .beep]

def Options.rapidFeeds (options : Options) : List Quantity :=
  [options.rapidFeedXY, options.rapidFeedZ]

/-- The letters in front of the feed rate of a rapid move. -/
def rapidLetters : List (List Letter) :=
  [[], [.x, .y], [.y], [.z]]

open Emitter (feedWord)

/-- The tokens of a command. Its numbers are allowed ones, but for the feed rate of rapid
moves, which is that of the options. -/
inductive IsPhrase (options : Options) (allows : Float → Prop) : List (Option String) → Prop where
  | laser {command : String} (among : command ∈ options.cutterCommands) :
      IsPhrase options allows [some command]
  | feature (target : Target) {feature : Feature} (among : feature ∈ Feature.commands) :
      IsPhrase options allows [target.code? feature]
  | display {target : Target} {message : String}
      (shown : target.code? .statusMessage = some message) (text : String) :
      IsPhrase options allows [some message, some (Remark.clean text)]
  | plane {plane : Plane} {code : Option String} (selects : ∀ text ∈ code, text = plane.code) :
      IsPhrase options allows [code]
  | home (target : Target) (axis : Axis) {feed : Option Float}
      (rated : ∀ rate ∈ feed, options.rapidFeedZ.toFloat .text = .ok rate) :
      IsPhrase options allows [target.code? .home, some axis.name, feed.map feedWord]
  | rapid {letters : List Letter} {words : List (Option String)} {feed : Quantity} {rate : Float}
      (among : letters ∈ rapidLetters) (spelled : List.Forall₂ (Spells allows) letters words)
      (moves : letters ≠ [] → ∃ word ∈ words, word.isSome) (rapid : feed ∈ options.rapidFeeds)
      (rated : feed.toFloat .text = .ok rate) :
      IsPhrase options allows (some "G0" :: (words ++ [some (feedWord rate)]))
  | cut {words : List (Option String)} {feed : Option Float}
      (spelled : List.Forall₂ (Spells allows) [Letter.x, .y, .z] words)
      (moves : ∃ word ∈ words, word.isSome) (fed : ∀ rate ∈ feed, allows rate) :
      IsPhrase options allows (some "G1" :: (words ++ [feed.map feedWord]))
  | feed {rate : Float} (fed : allows rate) :
      IsPhrase options allows [some "G1", some (feedWord rate)]
  | arc {plane : Plane} {code : Option String} {words centers : List (Option String)}
      {feed : Option Float} (selects : ∀ text ∈ code, text = plane.code) (clockwise : Bool)
      (spelled : List.Forall₂ (Spells allows) [Letter.x, .y, .z] words)
      (centered : List.Forall₂ (Spells allows) plane.offsetLetters centers)
      (given : ∀ word ∈ centers, word.isSome) (fed : ∀ rate ∈ feed, allows rate) :
      IsPhrase options allows (code :: some (if clockwise then "G2" else "G3") ::
        (words ++ centers ++ [feed.map feedWord]))
  | dwell (target other : Target) (places : Nat) {seconds : Float} (lasts : allows seconds) :
      IsPhrase options allows [target.code? .dwell,
        some ((other.code? .dwellParam).getD "" ++ Decimal.rounded places seconds)]

namespace Text

theorem trimRight_append {text : List Char} (behind : trimRight text ≠ []) (front : List Char) :
    trimRight (front ++ text) = front ++ trimRight text := by
  have visible : (text.reverse.dropWhile isBlank).isEmpty = false := by
    simpa [trimRight] using behind
  simp only [trimRight, List.reverse_append, List.dropWhile_append, visible, Bool.false_eq_true,
    if_false, List.reverse_reverse]

theorem trimRight_trimRight (text : List Char) : trimRight (trimRight text) = trimRight text :=
  List.rdropWhile_idempotent isBlank text

/-- Nothing is left to remove at the end of the text. -/
def IsTight (text : List Char) : Prop :=
  text ≠ [] ∧ trimRight text = text

theorem IsTight.append {text : List Char} (tight : IsTight text) (front : List Char) :
    IsTight (front ++ text) := by
  refine ⟨by simp [tight.1], ?_⟩
  rw [trimRight_append (tight.2.symm ▸ tight.1), tight.2]

theorem isTight_trim {text : List Char} (left : trim text ≠ []) : IsTight (trim text) :=
  ⟨left, trimRight_trimRight _⟩

theorem isTight_intercalate {parts : List (List Char)} (parted : parts ≠ [])
    (tight : ∀ part ∈ parts, IsTight part) : IsTight ([' '].intercalate parts) := by
  induction parts with
  | nil => exact absurd rfl parted
  | cons part rest ih =>
      cases rest with
      | nil => simpa using tight part (by simp)
      | cons next others =>
          rw [List.intercalate_cons_cons]
          exact (ih (by simp) fun other member => tight other (by simp [member])).append _

end Text

namespace Reading

variable {given : List (Option String)}

/-- A token that is one line, and of which something is left without blanks. -/
def IsClean (token : String) : Prop :=
  (token ≠ "" → Text.trim token.toList ≠ []) ∧ Text.IsFlat token.toList

theorem IsToken.isClean {token : String} (alone : IsToken token.toList) : IsClean token :=
  ⟨fun _ => by rw [alone.trim]; exact alone.1, alone.flat⟩

theorem trim_trim (text : List Char) : Text.trim (Text.trim text) = Text.trim text := by
  rw [Text.trim, trimLeft_trim, Text.trim, Text.trimRight_trimRight]

theorem stripped_clean (text : String) : Text.stripped (Remark.clean text) = Remark.clean text := by
  rw [Text.stripped, Remark.toList_clean, Remark.cleanChars, trim_trim]
  rfl

theorem isClean_remark (text : String) : IsClean (Remark.clean text) := by
  refine ⟨fun left empty => left ?_, fun c member => Remark.clean_flat member⟩
  rw [← stripped_clean, Text.stripped, empty]

theorem clean_cons {first : Option String} (clean : ∀ token ∈ first, IsClean token)
    (others : ∀ token, some token ∈ given → IsClean token) :
    ∀ token, some token ∈ first :: given → IsClean token := by
  intro token member
  rcases List.mem_cons.mp member with same | later
  · exact clean token same.symm
  · exact others token later

theorem clean_append {front behind : List (Option String)}
    (clean : ∀ token, some token ∈ front → IsClean token)
    (others : ∀ token, some token ∈ behind → IsClean token) :
    ∀ token, some token ∈ front ++ behind → IsClean token := by
  intro token member
  rcases List.mem_append.mp member with early | late
  · exact clean token early
  · exact others token late

theorem commandBody_tight
    (visible : ∀ token, some token ∈ given → token ≠ "" → Text.trim token.toList ≠ [])
    (written : commandBody given ≠ "") : Text.IsTight (commandBody given).toList := by
  have parts : (presentTokens given).map String.toList ≠ [] := by
    intro empty
    exact written (by rw [commandBody, empty]; rfl)
  rw [commandBody, String.toList_ofList]
  refine Text.isTight_intercalate parts fun part member => ?_
  obtain ⟨text, present, rfl⟩ := List.mem_map.mp member
  obtain ⟨token, kept, rfl⟩ := List.mem_map.mp present
  obtain ⟨among, nonempty⟩ := List.mem_filter.mp kept
  rw [Text.toList_stripped]
  exact Text.isTight_trim (visible token (by simpa using among) (by simpa using nonempty))

theorem commandBody_single_tight {text : String} (written : commandBody [some text] ≠ "") :
    Text.IsTight (commandBody [some text]).toList := by
  refine commandBody_tight (fun token member nonempty left => written ?_) written
  rw [List.mem_singleton, Option.some_inj] at member
  subst member
  simp [commandBody, presentTokens, nonempty, Text.stripped, left]

end Reading

namespace Spells

variable {allows : Float → Prop} {letter : Letter} {letters : List Letter} {token : String}
  {words : List (Option String)}

theorem isWord (spelled : Spells allows letter (some token)) : IsWord token := by
  obtain ⟨value, places, -, rfl⟩ := spelled token rfl
  exact ⟨letter, _, rfl, Decimal.rounded_isNumberText places value⟩

theorem of_mem (spelled : List.Forall₂ (Spells allows) letters words)
    (member : some token ∈ words) :
    ∃ letter, Spells allows letter (some token) := by
  induction spelled with
  | nil => cases member
  | cons first _ ih =>
      rcases List.mem_cons.mp member with rfl | later
      · exact ⟨_, first⟩
      · exact ih later

theorem words_isWord (spelled : List.Forall₂ (Spells allows) letters words)
    (member : some token ∈ words) : IsWord token :=
  (of_mem spelled member).elim fun _ => isWord

end Spells

namespace IsPhrase

open Reading

variable {options : Options} {allows : Float → Prop} {given : List (Option String)}

theorem message_code {target : Target} {message : String}
    (shown : target.code? .statusMessage = some message) : message = "M117" := by
  have only : ∀ code ∈ target.code? .statusMessage, code = "M117" := by
    cases target <;> decide
  exact only message shown

theorem code_isClean {target : Target} {feature : Feature} {code : String}
    (found : target.code? feature = some code) : IsClean code := by
  refine ⟨?_, Emitter.code_flat found⟩
  revert found
  cases target <;> cases feature <;> intro found <;> cases found <;> decide

theorem feed_isWord {feed : Option Float} {token : String}
    (given : feed.map feedWord = some token) : IsWord token := by
  obtain ⟨rate, -, rfl⟩ := Option.map_eq_some_iff.mp given
  exact Emitter.feedWord_isWord rate

theorem planeCode_isClean {plane : Plane} {code : Option String}
    (selects : ∀ text ∈ code, text = plane.code) : ∀ token ∈ code, IsClean token := by
  intro token member
  rw [selects token member]
  exact IsToken.isClean (by cases plane <;> decide)

theorem words_clean {letters : List Letter} {words : List (Option String)}
    (spelled : List.Forall₂ (Spells allows) letters words) :
    ∀ token, some token ∈ words → IsClean token :=
  fun _ member => (Spells.words_isWord spelled member).isToken.isClean

theorem feed_clean (feed : Option Float) :
    ∀ token, some token ∈ [feed.map feedWord] → IsClean token :=
  clean_cons (fun _ member => (feed_isWord member).isToken.isClean) (by simp)

/-- The tokens of a command but of one that switches the laser. -/
theorem isClean (phrase : IsPhrase options allows given) :
    (∃ command ∈ options.cutterCommands, given = [some command]) ∨
      ∀ token, some token ∈ given → IsClean token := by
  have code (text : String) (alone : IsToken text.toList) : ∀ token ∈ some text, IsClean token := by
    rintro token ⟨⟩
    exact alone.isClean
  cases phrase with
  | laser among => exact .inl ⟨_, among, rfl⟩
  | feature target among => exact .inr (clean_cons (fun _ => code_isClean) (by simp))
  | display shown text =>
      refine .inr (clean_cons (fun token same => ?_) (clean_cons (fun token same => ?_) (by simp)))
      · exact code_isClean (shown.trans same)
      · rw [← Option.some.inj same]
        exact isClean_remark text
  | plane selects => exact .inr (clean_cons (planeCode_isClean selects) (by simp))
  | @home target axis feed rated =>
      refine .inr (clean_cons (fun _ => code_isClean) (clean_cons (code _ ?_) (feed_clean feed)))
      cases axis <;> decide
  | @rapid letters words feed rate among spelled moves rapid rated =>
      exact .inr (clean_cons (code _ (by decide))
        (clean_append (words_clean spelled) (feed_clean (some rate))))
  | @cut words feed spelled moves fed =>
      exact .inr (clean_cons (code _ (by decide))
        (clean_append (words_clean spelled) (feed_clean feed)))
  | @feed rate fed => exact .inr (clean_cons (code _ (by decide)) (feed_clean (some rate)))
  | @arc plane planeCode words centers feed selects clockwise spelled centered given fed =>
      have turn := code (if clockwise then "G2" else "G3") (by cases clockwise <;> decide)
      exact .inr (clean_cons (planeCode_isClean selects) (clean_cons turn
        (clean_append (clean_append (words_clean spelled) (words_clean centered))
          (feed_clean feed))))
  | dwell target other places lasts =>
      refine .inr (clean_cons (fun _ => code_isClean) (clean_cons (code _ ?_) (by simp)))
      exact Emitter.isToken_dwellWord other (Decimal.rounded_isNumberText _ _)

theorem body_tight (phrase : IsPhrase options allows given) (written : commandBody given ≠ "") :
    Text.IsTight (commandBody given).toList := by
  rcases phrase.isClean with ⟨command, -, rfl⟩ | clean
  · exact commandBody_single_tight written
  · exact commandBody_tight (fun token member => (clean token member).1) written

theorem body_flat (phrase : IsPhrase options allows given)
    (flat : ∀ command ∈ options.cutterCommands, Text.IsFlat command.toList) :
    Text.IsFlat (commandBody given).toList := by
  rcases phrase.isClean with ⟨command, among, rfl⟩ | clean
  · exact commandBody_single_flat (flat command among)
  · exact commandBody_flat fun token member => (clean token member).2

end IsPhrase

end GantryCode
