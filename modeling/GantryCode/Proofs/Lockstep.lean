import GantryCode.Proofs.Operations
import GantryCode.Proofs.Pairing
import GantryCode.Proofs.SignedZero

namespace GantryCode

/-! Two emitters in step.

One of them adds its tool offset to every position. The other adds nothing and is given
positions that have the offset already. What they are asked in the coordinates of the
machine is the same for both, and it is answered by both alike.
-/

/-- An offset of nothing: the integer, or either of the zeros among the others. -/
inductive Quantity.IsZero : Quantity → Prop where
  | whole : IsZero (.whole 0)
  | real {x : Float} (zero : Binary64.IsZero x) : IsZero (.real x)

namespace Coordinates

def translated (point offset : Coordinates Float) : Coordinates Float :=
  point.zipWith (· + ·) offset

/-- A target is moved on the axes that it has a value for. -/
def translatedTarget (target : Coordinates (Option Float)) (offset : Coordinates Float) :
    Coordinates (Option Float) :=
  target.zipWith (fun place amount => place.map (· + amount)) offset

end Coordinates

/-- What tells the two emitters apart: the tool offset of the first, the offset of nothing
that the second has instead, and the dates that they write. -/
structure Translation where
  options : Options
  offset : Coordinates Float
  nothing : Coordinates Quantity
  stamp : String
  otherStamp : String
  isOffset : ∀ axis, (options.toolOffset.get axis).toFloat .sum = .ok (offset.get axis)
  isNothing : ∀ axis, (nothing.get axis).IsZero

/-- A writer that differs in nothing but its date, its header and what it wrote. -/
def Writer.apart (writer : Writer) (stamp : String) (headerComments : List Comment)
    (written : Array Line) : Writer :=
  { writer with stamp, headerComments, written }

namespace Translation

def otherOptions (translation : Translation) : Options :=
  { translation.options with toolOffset := translation.nothing }

variable (translation : Translation)

open Emitter Emission

/-- The second emitter is where the first would be in its coordinates. -/
structure Twins (near far : Emitter) : Prop where
  options : near.options = translation.options
  otherOptions : far.options = translation.otherOptions
  stamp : near.writer.stamp = translation.stamp
  writer : ∃ comments written,
    far.writer = near.writer.apart translation.otherStamp comments written
  mode : far.mode = near.mode
  notices : far.notices = near.notices
  position : far.position = near.position.translatedTarget translation.offset

/-- The two still are twins, and they wrote the same lines. -/
structure Together (near far nearAfter farAfter : Emitter) : Prop extends
    translation.Twins nearAfter farAfter where
  written : ∃ lines, nearAfter.writer.written.toList = near.writer.written.toList ++ lines ∧
    farAfter.writer.written.toList = far.writer.written.toList ++ lines

variable {translation} {near far nearAfter farAfter : Emitter}

theorem Twins.together (twins : translation.Twins near far) :
    translation.Together near far near far :=
  { twins with written := ⟨[], by simp, by simp⟩ }

theorem Together.trans {nearEnd farEnd : Emitter}
    (start : translation.Together near far nearAfter farAfter)
    (later : translation.Together nearAfter farAfter nearEnd farEnd) :
    translation.Together near far nearEnd farEnd := by
  obtain ⟨lines, first, second⟩ := start.written
  obtain ⟨more, firstMore, secondMore⟩ := later.written
  refine { later with written := ⟨lines ++ more, ?_, ?_⟩ }
  · rw [firstMore, first, List.append_assoc]
  · rw [secondMore, second, List.append_assoc]

/-- Nothing is written where the writers stay as they are. -/
theorem Twins.still (twins : translation.Twins nearAfter farAfter)
    (nearWriter : nearAfter.writer = near.writer) (farWriter : farAfter.writer = far.writer) :
    translation.Together near far nearAfter farAfter :=
  { twins with written := ⟨[], by simp [nearWriter], by simp [farWriter]⟩ }

/-- Twins are compared by the lines that they write. -/
abbrev pairing (translation : Translation) : Pairing where
  related := translation.Twins
  kept := translation.Together
  refl := Twins.together
  trans := Together.trans
  still := Together.toTwins

/-- From twins the two actions come to the same end with the same lines. -/
abbrev InStep {α β : Type} (translation : Translation) (agree : α → β → Prop)
    (action : Emission α) (other : Emission β) : Prop :=
  Emission.InStep translation.pairing agree action other

section Writers

variable {change : Writer → Writer}

/-- The change adds lines and leaves the head of the file as it is; nothing else hangs on
what was written or on the head. -/
def Extends (change : Writer → Writer) : Prop :=
  ∀ writer : Writer, ∃ lines : List Line, ∀ stamp comments written,
    change (writer.apart stamp comments written) =
      (change writer).apart stamp comments (written ++ lines)

theorem Extends.same {writer : Writer} {lines : List Line}
    (extended : ∀ stamp comments written, change (writer.apart stamp comments written) =
      (change writer).apart stamp comments (written ++ lines)) :
    (change writer).stamp = writer.stamp ∧
      (change writer).written.toList = writer.written.toList ++ lines := by
  have itself := extended writer.stamp writer.headerComments writer.written
  have whole : writer.apart writer.stamp writer.headerComments writer.written = writer := rfl
  rw [whole] at itself
  rw [itself]
  exact ⟨rfl, by simp [Writer.apart]⟩

theorem extends_command (tokens : List (Option String)) (note : Option String) :
    Extends (·.command tokens note) := by
  intro writer
  refine ⟨(writer.commandLine? tokens note).toList, fun stamp comments written => ?_⟩
  unfold Writer.commandLine? Writer.command Writer.apart
  dsimp only
  split <;> simp

theorem extends_remark (text : String) : Extends (·.remark text) := by
  intro writer
  refine ⟨if writer.showComments then [.ofComment (some text)] else [],
    fun stamp comments written => ?_⟩
  unfold Writer.remark Writer.comment Writer.push Writer.apart
  dsimp only
  split <;> simp

theorem extends_forget (letters : List Letter) : Extends (·.forget letters) :=
  fun _ => ⟨[], fun _ _ _ => by simp [Writer.forget, Writer.apart]⟩

theorem extends_setPrecision (places : Int) : Extends (·.setPrecision places) :=
  fun _ => ⟨[], fun _ _ _ => by simp [Writer.setPrecision, Writer.apart]⟩

theorem inStep_updateWriter (extended : Extends change) :
    translation.InStep Eq (updateWriter change) (updateWriter change) := by
  refine InStep.change fun near far twins => ?_
  obtain ⟨comments, written, same⟩ := twins.writer
  obtain ⟨lines, apart⟩ := extended near.writer
  obtain ⟨stamp, nearLines⟩ := Extends.same apart
  have moved : change far.writer =
      (change near.writer).apart translation.otherStamp comments (written ++ lines) := by
    rw [same, apart]
  refine { twins with stamp := stamp.trans twins.stamp, writer := ⟨_, _, moved⟩, written := ?_ }
  refine ⟨lines, nearLines, ?_⟩
  change (change far.writer).written.toList = far.writer.written.toList ++ lines
  rw [moved, same]
  simp [Writer.apart]

theorem inStep_command (tokens : List (Option String)) (note : Option String) :
    translation.InStep Eq (command tokens note) (command tokens note) :=
  inStep_updateWriter (extends_command tokens note)

/-- Slots can be filled alike. -/
theorem Twins.withSlots (twins : translation.Twins near far) (slots : Slots) :
    translation.Together near far (near.withSlots slots) (far.withSlots slots) := by
  obtain ⟨comments, written, same⟩ := twins.writer
  refine { twins with writer := ⟨comments, written, ?_⟩, written := ⟨[], ?_, ?_⟩ }
  · rw [Emitter.withSlots, same]
    rfl
  · simp [Emitter.withSlots]
  · simp [Emitter.withSlots]

theorem Twins.slots (twins : translation.Twins near far) : far.slots = near.slots := by
  obtain ⟨comments, written, same⟩ := twins.writer
  rw [Emitter.slots, same]
  rfl

theorem Twins.valueText (twins : translation.Twins near far) :
    far.writer.valueText = near.writer.valueText := by
  obtain ⟨comments, written, same⟩ := twins.writer
  rw [same]
  rfl

/-- The sign of a zero makes no difference to a word. -/
theorem inStep_word (letter : Letter) {value other : Option Float}
    (same : Option.Rel Binary64.SameValue value other) (force : Bool) :
    translation.InStep Eq (word letter value force) (word letter other force) := by
  intro near far twins
  have shown : other.mapM (far.writer.valueText letter.isWhole) =
      value.mapM (near.writer.valueText letter.isWhole) := by
    rw [twins.valueText]
    cases same with
    | none => rfl
    | some same => rw [Option.mapM_some, Option.mapM_some, near.writer.valueText_sameValue _ same]
  rw [word_run, word_run, shown, twins.slots]
  cases value.mapM (near.writer.valueText letter.isWhole) with
  | error fault => exact .error fault twins.together
  | ok text => exact .ok rfl (twins.withSlots _)

theorem inStep_sameWord (letter : Letter) (value : Option Float) (force : Bool) :
    translation.InStep Eq (word letter value force) (word letter value force) := by
  refine inStep_word letter ?_ force
  cases value with
  | none => exact .none
  | some value => exact .some (.refl value)

theorem inStep_rapidLine (words : List (Option String)) (feed : Quantity) (note : Option String) :
    translation.InStep Eq (rapidLine words feed note) (rapidLine words feed note) :=
  InStep.follow (InStep.result _) fun _ => InStep.follow (inStep_sameWord .f _ true) fun _ =>
    inStep_command _ note

end Writers

section Operations

theorem inStep_planeCode (plane : Plane) (force : Bool) :
    translation.InStep Eq (writing (Writer.planeCode plane.code force))
      (writing (Writer.planeCode plane.code force)) := by
  intro near far twins
  cases force with
  | true =>
      have run (emitter : Emitter) : writing (Writer.planeCode plane.code true) emitter =
          .ok (some plane.code) (emitter.withSlots (emitter.slots.inPlane plane)) := rfl
      rw [run, run, twins.slots]
      exact .ok rfl (twins.withSlots _)
  | false =>
      rw [planeCode_run, planeCode_run, twins.slots]
      exact .ok rfl (twins.withSlots _)

theorem translatedTarget_set (position : Coordinates (Option Float)) (offset : Coordinates Float)
    (axis : Axis) : (position.set axis none).translatedTarget offset =
      (position.translatedTarget offset).set axis none := by
  cases axis <;> rfl

theorem Twins.target (twins : translation.Twins near far) :
    far.writer.target = near.writer.target := by
  obtain ⟨comments, written, same⟩ := twins.writer
  rw [same]
  rfl

/-- What does not hang on positions is done alike. -/
theorem inStep_steps : Stepwise translation.options (fun _ => True) (fun _ => True)
    (fun {α} (action : Emission α) => translation.InStep Eq action action) where
  nothing := InStep.nothing
  follow := InStep.follow_returned
  target := by
    refine fun later => InStep.inspect fun near far twins => ?_
    rw [twins.target]
    exact later near.writer.target
  valueText := by
    refine fun value _ later => InStep.inspect fun near far twins => ?_
    rw [twins.valueText]
    refine InStep.follow_returned (InStep.result _) fun text returned => ?_
    obtain ⟨places, rfl⟩ := Writer.valueText_rounded (returns_result returned)
    exact later places
  sameRun := by
    intro action other run together near far twins
    rw [run near _ _ _ twins.options, run far _ _ _ twins.otherOptions]
    exact together near far twins
  notify := fun notice => InStep.change fun _ _ twins =>
    Twins.still { twins with notices := congrArg (·.push notice) twins.notices } rfl rfl
  command := fun _ => inStep_command _
  remark := fun text => inStep_updateWriter (extends_remark text)
  forget := fun letters => inStep_updateWriter (extends_forget letters)
  amount := fun _ => InStep.result _
  word := inStep_sameWord
  planeCode := inStep_planeCode
  unplaced := by
    refine fun axis => InStep.change fun near far twins =>
      Twins.still { twins with position := ?_ } rfl rfl
    rw [translatedTarget_set, twins.position]

theorem inStep_selectMode (mode : Int) :
    translation.InStep Eq (selectMode mode) (selectMode mode) := by
  unfold selectMode
  refine InStep.follow (InStep.result _) fun _ =>
    inStep_steps.optional (fun _ => inStep_steps.notify _) fun _ => ?_
  refine InStep.change fun near far twins => Twins.still { twins with mode := ?_ } rfl rfl
  rw [twins.options, twins.otherOptions]
  rfl

theorem inStep_power (on : Bool) : translation.InStep Eq (power on) (power on) := by
  refine InStep.inspect fun near far twins => ?_
  rw [twins.options, twins.otherOptions, twins.mode]
  cases on with
  | true => exact inStep_command _ _
  | false => exact inStep_command _ _

end Operations

end Translation

end GantryCode
