import GantryCode.Proofs.Silence

namespace GantryCode

/-! Moves of the tool.

The words of a move are offered before its line is written, and words that the
controller has already are left out. What the slots hold afterwards is what a reader of
the line knows, word for word.
-/

namespace Slots

theorem accept_comm (slots : Slots) {first second : Letter} (different : first ≠ second)
    (left right : Option String) :
    (slots.accept first left).accept second right =
      (slots.accept second right).accept first left := by
  cases left <;> cases right <;> try rfl
  cases first <;> cases second <;> first | rfl | exact absurd rfl different

@[simp] theorem offer_forced (slots : Slots) (letter : Letter) (text : Option String) :
    slots.offer letter text true = text.map (letter.name ++ ·) := by
  cases text <;> simp [offer]

theorem accept_of_unoffered {slots : Slots} {letter : Letter} {text : Option String}
    (unoffered : slots.offer letter text false = none) : slots.accept letter text = slots := by
  cases text with
  | none => rfl
  | some text =>
      have held : slots.get letter = some text := by simpa [offer] using unoffered
      exact set_held slots letter held

theorem acceptAxes_of_unoffered {slots : Slots} {texts : Coordinates (Option String)}
    {axes : List Axis} (unoffered : ∀ axis ∈ axes, slots.offerAxis texts axis = none) :
    slots.acceptAxes texts axes = slots := by
  induction axes with
  | nil => rfl
  | cons axis rest ih =>
      rw [acceptAxes, accept_of_unoffered (unoffered axis (by simp))]
      exact ih fun other member => unoffered other (by simp [member])

theorem acceptAxes_accept (slots : Slots) (texts : Coordinates (Option String)) {letter : Letter}
    (different : ∀ axis : Axis, letter ≠ axis.letter) (text : Option String) (axes : List Axis) :
    (slots.accept letter text).acceptAxes texts axes =
      (slots.acceptAxes texts axes).accept letter text := by
  induction axes generalizing slots with
  | nil => rfl
  | cons axis rest ih =>
      rw [acceptAxes, acceptAxes, accept_comm slots (different axis), ih]

theorem offer_eq_some {slots : Slots} {letter : Letter} {text : Option String} {force : Bool}
    {token : String} (offered : slots.offer letter text force = some token) :
    ∃ shown, text = some shown ∧ token = letter.name ++ shown := by
  obtain ⟨shown, present, written⟩ := Option.bind_eq_some_iff.mp offered
  split at written
  · cases written
  · cases written
    exact ⟨shown, present, rfl⟩

/-- The texts of axes are numbers. -/
def AreNumbers (texts : Coordinates (Option String)) : Prop :=
  ∀ axis text, texts.get axis = some text → Decimal.IsNumberText text

end Slots

theorem Letter.prefix_iff {letter other : Letter} (text : String) :
    letter.name.toList <+: (other.name ++ text).toList ↔ letter = other := by
  cases letter <;> cases other <;> simp [Letter.name]

theorem Axis.f_ne_letter (axis : Axis) : Letter.f ≠ axis.letter := by
  cases axis <;> decide

namespace Emitter

open Emission Reading

variable {options : Options} {emitter : Emitter} {slots : Slots}

@[simp] theorem withSlots_commanded (emitter : Emitter) (slots : Slots)
    (given : List (Option String)) (note : Option String) :
    (emitter.commanded given note).withSlots slots =
      (emitter.withSlots slots).commanded given note := by
  unfold commanded withSlots Writer.command
  dsimp only
  split <;> rfl

/-- A line and the slots it fills have nothing to do with the place of the tool. -/
theorem position_line (emitter : Emitter) (slots : Slots) (given : List (Option String))
    (note : Option String) :
    ((emitter.withSlots slots).commanded given note).position = emitter.position := rfl

/-- The word for a feed rate as it stands on a line. -/
def feedText (rate : Float) : String :=
  Decimal.rounded 0 rate

def feedWord (rate : Float) : String :=
  Letter.f.name ++ feedText rate

theorem feedWord_isWord (rate : Float) : IsWord (feedWord rate) :=
  ⟨.f, feedText rate, rfl, Decimal.rounded_isNumberText _ _⟩

theorem feedText_isNumberText (feed : Option Float) {text : String}
    (shown : feed.map feedText = some text) : Decimal.IsNumberText text := by
  obtain ⟨rate, -, rfl⟩ := Option.map_eq_some_iff.mp shown
  exact Decimal.rounded_isNumberText _ _

section Lines

variable {words : List (Option String)}

theorem tells_move (emitter : Emitter) (slots : Slots) {code : String} (note : Option String)
    (moves : isMove code.toList = true)
    (numbers : ∀ token, some token ∈ words → IsWord token)
    (letters : slots.get = words.foldl Registers.noteToken emitter.slots.get)
    (plane : slots.plane = emitter.slots.plane) :
    TellsInPlane emitter ((emitter.withSlots slots).commanded (some code :: words) note)
      (emitter.writer.commandLine? (some code :: words) note).toList := by
  have alone : ∀ token, some token ∈ some code :: words → IsToken token.toList := by
    intro token member
    rcases List.mem_cons.mp member with same | member
    · cases same
      exact isMove_isToken moves
    · exact (numbers token member).isToken
  have inPlane : ∀ word ∈ (words.filterMap id).map String.toList, isPlaneCode word = false := by
    intro word member
    obtain ⟨token, present, rfl⟩ := List.mem_map.mp member
    exact (numbers token (by simpa using present)).isPlaneCode
  refine tells_command_inPlane emitter slots note (tokens_commandBody alone)
    (withoutNumber_move moves) (commandBody_flat fun token member => (alone token member).flat) ?_
    plane (planeCodes_move moves inPlane)
  rw [letters]
  exact ((readWords_move _ moves).trans (Registers.foldl_note _ words)).symm

theorem rapidLine_run (words : List (Option String)) (feed : Quantity) (note : Option String)
    (emitter : Emitter) :
    rapidLine words feed note emitter =
      match feed.toFloat .text with
      | .ok rate => .ok ()
          ((emitter.withSlots (emitter.slots.accept .f (some (feedText rate)))).commanded
            (some "G0" :: (words ++ [some (feedWord rate)])) note)
      | .error fault => .error fault emitter := by
  unfold rapidLine
  rw [amount, fromResult]
  simp only [Emission.ofExcept_bind_apply, word_bind]
  cases shown : feed.toFloat .text with
  | error fault => rfl
  | ok rate => rfl

theorem gives_line {line : Line}
    (moving : moveWords (Reading.words line.chars) = (words.filterMap id).map String.toList)
    (letter : Letter) :
    Gives [line] letter ↔ ∃ token, some token ∈ words ∧ letter.name.toList <+: token.toList := by
  have given : gives letter line.chars = true ↔
      ∃ token, some token ∈ words ∧ letter.name.toList <+: token.toList := by
    rw [gives, moving, List.any_eq_true]
    constructor
    · rintro ⟨word, member, starts⟩
      obtain ⟨token, present, rfl⟩ := List.mem_map.mp member
      exact ⟨token, by simpa using present, List.isPrefixOf_iff_prefix.mp starts⟩
    · rintro ⟨token, present, starts⟩
      have member : token ∈ words.filterMap id := by simpa using present
      exact ⟨token.toList, List.mem_map_of_mem member, List.isPrefixOf_iff_prefix.mpr starts⟩
  simpa [Gives] using given

theorem gives_move (writer : Writer) {code : String} (note : Option String)
    (moves : isMove code.toList = true)
    (numbers : ∀ token, some token ∈ words → IsWord token) (letter : Letter) :
    Gives (writer.commandLine? (some code :: words) note).toList letter ↔
      ∃ token, some token ∈ words ∧ letter.name.toList <+: token.toList := by
  have alone : ∀ token, some token ∈ some code :: words → IsToken token.toList := by
    intro token member
    rcases List.mem_cons.mp member with same | member
    · cases same
      exact isMove_isToken moves
    · exact (numbers token member).isToken
  have body := tokens_commandBody alone
  cases written : writer.commandLine? (some code :: words) note with
  | none =>
      rw [Writer.tokens_of_unwritten writer _ note written] at body
      cases body
  | some line =>
      have heard := Writer.commandLine_words writer note
        (by rw [body]; exact withoutNumber_move moves) written
      refine gives_line ?_ letter
      rw [heard, body]
      exact moveWords_move moves

variable {texts : Coordinates (Option String)} {axes : List Axis} {feed : Option String}

/-- The words of a straight move: those of the axes that are offered, and the feed
rate. -/
def straightWords (slots : Slots) (texts : Coordinates (Option String)) (axes : List Axis)
    (feed : Option String) : List (Option String) :=
  axes.map (slots.offerAxis texts) ++ [feed.map (Letter.f.name ++ ·)]

theorem straightWords_isWord (numbers : Slots.AreNumbers texts)
    (feedNumber : ∀ text, feed = some text → Decimal.IsNumberText text) :
    ∀ token, some token ∈ straightWords slots texts axes feed → IsWord token := by
  intro token member
  rcases List.mem_append.mp member with axisWord | feedWord
  · obtain ⟨axis, -, offered⟩ := List.mem_map.mp axisWord
    obtain ⟨shown, present, rfl⟩ := Slots.offer_eq_some offered
    exact ⟨axis.letter, shown, rfl, numbers axis shown present⟩
  · obtain ⟨text, present, rfl⟩ := Option.map_eq_some_iff.mp (List.mem_singleton.mp feedWord).symm
    exact ⟨.f, text, rfl, feedNumber text present⟩

theorem tells_straight (emitter : Emitter) {code : String} (note : Option String)
    (moves : isMove code.toList = true) (distinct : axes.Nodup) (numbers : Slots.AreNumbers texts)
    (feedNumber : ∀ text, feed = some text → Decimal.IsNumberText text) :
    TellsInPlane emitter
      ((emitter.withSlots ((emitter.slots.acceptAxes texts axes).accept .f feed)).commanded
        (some code :: straightWords emitter.slots texts axes feed) note)
      (emitter.writer.commandLine? (some code :: straightWords emitter.slots texts axes feed)
        note).toList := by
  refine tells_move emitter _ note moves (straightWords_isWord numbers feedNumber) ?_ (by simp)
  have last := Registers.noteToken_offer (emitter.slots.acceptAxes texts axes) .f feed true
  rw [Slots.offer_forced] at last
  rw [straightWords, List.foldl_append, Slots.foldl_offerAxis _ _ distinct]
  exact last.symm

/-- The words for the axes are those that are offered, whatever other letters have
words behind them. -/
theorem axisWords_prefix (slots : Slots) (axes : List Axis) {others : List (Option String)}
    (foreign : ∀ token, some token ∈ others → ∃ (letter : Letter) (text : String),
      token = letter.name ++ text ∧ ∀ axis : Axis, letter ≠ axis.letter) (axis : Axis) :
    (∃ token, some token ∈ axes.map (slots.offerAxis texts) ++ others ∧
        axis.letter.name.toList <+: token.toList) ↔
      axis ∈ axes ∧ (slots.offerAxis texts axis).isSome := by
  constructor
  · rintro ⟨token, member, starts⟩
    rcases List.mem_append.mp member with axisWord | otherWord
    · obtain ⟨other, among, offered⟩ := List.mem_map.mp axisWord
      obtain ⟨shown, -, rfl⟩ := Slots.offer_eq_some offered
      have same := Axis.letter_injective ((Letter.prefix_iff shown).mp starts)
      subst same
      exact ⟨among, by rw [offered]; rfl⟩
    · obtain ⟨letter, text, rfl, different⟩ := foreign token otherWord
      exact absurd ((Letter.prefix_iff text).mp starts).symm (different axis)
  · rintro ⟨among, offered⟩
    obtain ⟨token, written⟩ := Option.isSome_iff_exists.mp offered
    refine ⟨token, List.mem_append_left _ (List.mem_map.mpr ⟨axis, among, written⟩), ?_⟩
    obtain ⟨shown, -, rfl⟩ := Slots.offer_eq_some written
    exact (Letter.prefix_iff shown).mpr rfl

theorem gives_straight (writer : Writer) (slots : Slots) (axes : List Axis) {code : String}
    (note : Option String) (moves : isMove code.toList = true) (numbers : Slots.AreNumbers texts)
    (feedNumber : ∀ text, feed = some text → Decimal.IsNumberText text)
    (axis : Axis) :
    Gives (writer.commandLine? (some code :: straightWords slots texts axes feed) note).toList
        axis.letter ↔
      axis ∈ axes ∧ (slots.offerAxis texts axis).isSome := by
  rw [gives_move writer note moves (straightWords_isWord numbers feedNumber)]
  refine axisWords_prefix slots axes (fun token member => ?_) axis
  obtain ⟨text, -, rfl⟩ := Option.map_eq_some_iff.mp (List.mem_singleton.mp member).symm
  exact ⟨.f, text, rfl, Axis.f_ne_letter⟩

end Lines

end Emitter

end GantryCode
