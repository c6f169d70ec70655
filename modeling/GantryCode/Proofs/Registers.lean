import GantryCode.Proofs.Lines
import GantryCode.Target
import GantryCode.Writer.Slots
import Mathlib.Logic.Function.Basic

namespace GantryCode

/-! What a controller was told, as a reader of its input knows it.

A move sets the registers of the letters that it has words for. Homing an axis makes
its register unknown. Of the other lines only the plane codes are heard; a message for
the display is no code, whatever it says.
-/

namespace Reading

def isMove (code : List Char) : Bool :=
  ["G0", "G1", "G2", "G3"].any (·.toList == code)

def isPlaneCode (code : List Char) : Bool :=
  Plane.all.any (·.code.toList == code)

/-- What stands behind the code of a move, which a plane code may precede. -/
def moveWords : List (List Char) → List (List Char)
  | [] => []
  | code :: rest =>
      if isMove code then rest
      else
        match isPlaneCode code, rest with
        | true, next :: others => if isMove next then others else []
        | _, _ => []

/-- What stands behind the code for homing. -/
def homingWords : List (List Char) → List (List Char)
  | [] => []
  | code :: rest => if code = Feature.home.usual.toList then rest else []

/-- The plane codes of a line, unless it is a message. -/
def planeCodes (words : List (List Char)) : List (List Char) :=
  if words.head? = some Feature.statusMessage.usual.toList then [] else words.filter isPlaneCode

def gives (letter : Letter) (line : List Char) : Bool :=
  (moveWords (words line)).any (letter.name.toList.isPrefixOf ·)

/-- Whether there is a word for the letter on some line. -/
def Gives (lines : List Line) (letter : Letter) : Prop :=
  ∃ line ∈ lines, gives letter line.chars = true

instance (lines : List Line) (letter : Letter) : Decidable (Gives lines letter) :=
  inferInstanceAs (Decidable (∃ line ∈ lines, _))

theorem gives_append (first second : List Line) (letter : Letter) :
    Gives (first ++ second) letter ↔ Gives first letter ∨ Gives second letter := by
  constructor
  · rintro ⟨line, member, given⟩
    rcases List.mem_append.mp member with early | late
    · exact .inl ⟨line, early, given⟩
    · exact .inr ⟨line, late, given⟩
  · rintro (⟨line, member, given⟩ | ⟨line, member, given⟩)
    · exact ⟨line, List.mem_append_left second member, given⟩
    · exact ⟨line, List.mem_append_right first member, given⟩

end Reading

/-- The last text that each letter was given, as far as it is known. -/
abbrev Registers := Letter → Option String

namespace Registers

open Reading

def unknown : Registers := fun _ => none

def letterOf? (c : Char) : Option Letter :=
  Letter.all.find? (·.name.toList == [c])

/-- A word gives its letter the text behind it. -/
def note (registers : Registers) : List Char → Registers
  | [] => registers
  | c :: text =>
      match letterOf? c with
      | some letter => Function.update registers letter (some (String.ofList text))
      | none => registers

/-- Among the words of homing an axis stands without a text. -/
def noteHoming (registers : Registers) (word : List Char) : Registers :=
  match Axis.all.find? (·.name.toList == word) with
  | some axis => Function.update registers axis.letter none
  | none => registers.note word

def readWords (registers : Registers) (words : List (List Char)) : Registers :=
  (homingWords words).foldl noteHoming ((moveWords words).foldl note registers)

def read (registers : Registers) (line : List Char) : Registers :=
  registers.readWords (words line)

def readLines (registers : Registers) (lines : List Line) : Registers :=
  lines.foldl (fun registers line => registers.read line.chars) registers

theorem readLines_append (registers : Registers) (first second : List Line) :
    registers.readLines (first ++ second) = (registers.readLines first).readLines second :=
  List.foldl_append

/-- What a reader knows is all that is known, or more. -/
def Within (known registers : Registers) : Prop :=
  ∀ letter text, known letter = some text → registers letter = some text

theorem Within.update {known registers : Registers} (within : Within known registers)
    (letter : Letter) (text : Option String) :
    Within (Function.update known letter text) (Function.update registers letter text) := by
  intro other held found
  by_cases same : other = letter
  · subst same
    simpa using found
  · simp only [Function.update_of_ne same] at found ⊢
    exact within other held found

theorem Within.note {known registers : Registers} (within : Within known registers)
    (word : List Char) : Within (known.note word) (registers.note word) := by
  cases word with
  | nil => exact within
  | cons c text =>
      unfold Registers.note
      dsimp only
      split
      · exact within.update _ _
      · exact within

theorem Within.noteHoming {known registers : Registers} (within : Within known registers)
    (word : List Char) : Within (known.noteHoming word) (registers.noteHoming word) := by
  unfold Registers.noteHoming
  split
  · exact within.update _ _
  · exact within.note word

theorem Within.foldl {step : Registers → List Char → Registers} {known registers : Registers}
    (within : Within known registers)
    (kept : ∀ {known registers : Registers}, Within known registers →
      ∀ word, Within (step known word) (step registers word))
    (words : List (List Char)) : Within (words.foldl step known) (words.foldl step registers) := by
  induction words generalizing known registers with
  | nil => exact within
  | cons word rest ih => exact ih (kept within word)

theorem Within.read {known registers : Registers} (within : Within known registers)
    (line : List Char) : Within (known.read line) (registers.read line) :=
  (within.foldl Within.note _).foldl Within.noteHoming _

theorem Within.readLines {known registers : Registers} (within : Within known registers)
    (lines : List Line) : Within (known.readLines lines) (registers.readLines lines) := by
  induction lines generalizing known registers with
  | nil => exact within
  | cons line rest ih => exact ih (within.read line.chars)

end Registers

namespace Reading

/-- The plane code that is in effect behind a line. -/
def readPlane (held : Option String) (line : List Char) : Option String :=
  ((planeCodes (words line)).getLast?.map String.ofList) <|> held

def planeAfter (held : Option String) (lines : List Line) : Option String :=
  lines.foldl (fun held line => readPlane held line.chars) held

/-- The last plane code of a text. -/
def lastPlane (text : String) : Option String :=
  (Text.splitLines text.toList).foldl readPlane none

theorem lastPlane_joined {lines : List Line} (flat : ∀ line ∈ lines, line.IsFlat) :
    lastPlane (Line.joined lines) = planeAfter none lines := by
  rw [lastPlane, Line.splitLines_joined flat, List.foldl_map, planeAfter]

theorem planeAfter_append (held : Option String) (first second : List Line) :
    planeAfter held (first ++ second) = planeAfter (planeAfter held first) second :=
  List.foldl_append

section Codes

variable {code : List Char} {rest : List (List Char)}

theorem isMove_cases (moves : isMove code = true) :
    code = ['G', '0'] ∨ code = ['G', '1'] ∨ code = ['G', '2'] ∨ code = ['G', '3'] := by
  simp only [isMove, List.any_cons, List.any_nil, Bool.or_false, Bool.or_eq_true, beq_iff_eq]
    at moves
  rcases moves with same | same | same | same
  · exact .inl same.symm
  · exact .inr (.inl same.symm)
  · exact .inr (.inr (.inl same.symm))
  · exact .inr (.inr (.inr same.symm))

theorem isMove_isToken (moves : isMove code = true) : IsToken code := by
  rcases isMove_cases moves with rfl | rfl | rfl | rfl <;> decide

theorem isMove_isPlaneCode (moves : isMove code = true) : isPlaneCode code = false := by
  rcases isMove_cases moves with rfl | rfl | rfl | rfl <;> decide

theorem withoutNumber_move (moves : isMove code = true) :
    withoutNumber (code :: rest) = code :: rest := by
  rcases isMove_cases moves with rfl | rfl | rfl | rfl <;> rfl

theorem moveWords_move (moves : isMove code = true) : moveWords (code :: rest) = rest := by
  simp [moveWords, moves]

theorem readWords_move (registers : Registers) (moves : isMove code = true) :
    registers.readWords (code :: rest) = rest.foldl Registers.note registers := by
  have away : homingWords (code :: rest) = [] := by
    rcases isMove_cases moves with rfl | rfl | rfl | rfl <;> rfl
  rw [Registers.readWords, moveWords_move moves, away]
  rfl

theorem planeCodes_move (moves : isMove code = true)
    (others : ∀ word ∈ rest, isPlaneCode word = false) : planeCodes (code :: rest) = [] := by
  have unplaned := isMove_isPlaneCode moves
  unfold planeCodes
  split
  · rfl
  · refine List.filter_eq_nil_iff.mpr fun word member => ?_
    rcases List.mem_cons.mp member with rfl | member
    · simp [unplaned]
    · simp [others word member]

theorem isPlaneCode_code (plane : Plane) : isPlaneCode plane.code.toList = true := by
  cases plane <;> rfl

theorem moveWords_plane (plane : Plane) (moves : isMove code = true) :
    moveWords (plane.code.toList :: code :: rest) = rest := by
  have still : isMove plane.code.toList = false := by cases plane <;> decide
  simp [moveWords, still, isPlaneCode_code, moves]

theorem readWords_plane (registers : Registers) (plane : Plane) (moves : isMove code = true) :
    registers.readWords (plane.code.toList :: code :: rest) =
      rest.foldl Registers.note registers := by
  have away : homingWords (plane.code.toList :: code :: rest) = [] := by
    cases plane <;> rfl
  rw [Registers.readWords, moveWords_plane plane moves, away]
  rfl

theorem planeCodes_plane (plane : Plane) (moves : isMove code = true)
    (others : ∀ word ∈ rest, isPlaneCode word = false) :
    planeCodes (plane.code.toList :: code :: rest) = [plane.code.toList] := by
  have message : ¬(plane.code.toList :: code :: rest).head? =
      some Feature.statusMessage.usual.toList := by
    cases plane <;> simp [Plane.code, Feature.usual]
  have none' : rest.filter isPlaneCode = [] :=
    List.filter_eq_nil_iff.mpr fun word member => by simp [others word member]
  rw [planeCodes, if_neg message, List.filter_cons_of_pos (isPlaneCode_code plane),
    List.filter_cons_of_neg (by simp [isMove_isPlaneCode moves]), none']

theorem withoutNumber_plane (plane : Plane) :
    withoutNumber (plane.code.toList :: rest) = plane.code.toList :: rest := by
  cases plane <;> rfl

end Codes

end Reading

end GantryCode
