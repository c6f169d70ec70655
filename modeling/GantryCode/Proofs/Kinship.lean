import GantryCode.Proofs.Calls
import GantryCode.Proofs.Chords
import GantryCode.Proofs.Lockstep
import GantryCode.Proofs.RunHead

namespace GantryCode

/-! Emitters that do the same from now on.

They have the same options, and their writers differ in nothing but the date and what was
written before. The one may know places of the tool that the other does not know, and what
was noticed makes no difference at all. Any call has the same effect on both, as long as it
does not ask for a place that only one of them knows.
-/

/-- Lines that differ in nothing but the dates in the heads of runs. -/
inductive Line.Redated (stamp other : String) : List Line → List Line → Prop where
  | nil : Redated stamp other [] []
  | line (line : Line) {lines others : List Line} (rest : Redated stamp other lines others) :
      Redated stamp other (line :: lines) (line :: others)
  | date {lines others : List Line} (rest : Redated stamp other lines others) :
      Redated stamp other (.ofComment (some ("Creation date: " ++ stamp)) :: lines)
        (.ofComment (some ("Creation date: " ++ other)) :: others)

namespace Line.Redated

variable {stamp other : String} {lines others more moreOthers : List Line}

theorem refl (lines : List Line) : Redated stamp other lines lines := by
  induction lines with
  | nil => exact .nil
  | cons line rest ih => exact .line line ih

theorem append (start : Redated stamp other lines others)
    (later : Redated stamp other more moreOthers) :
    Redated stamp other (lines ++ more) (others ++ moreOthers) := by
  induction start with
  | nil => exact later
  | line line _ ih => exact .line line ih
  | date _ ih => exact .date ih

/-- On one day there is no difference. -/
theorem eq (same : Redated stamp stamp lines others) : others = lines := by
  induction same with
  | nil => rfl
  | line line _ ih => rw [ih]
  | date _ ih => rw [ih]

end Line.Redated

/-- What tells two emitters apart: their dates, and what they know of the place of an axis.
The modes of the laser may be told apart as well. -/
structure Kinship where
  options : Options
  stamp : String
  otherStamp : String
  place : Option Float → Option Float → Prop
  same : ∀ known, place known known
  sameMode : Prop

namespace Kinship

open Emitter Emission
open Translation (Extends extends_command extends_remark extends_forget extends_setPrecision)

variable (kinship : Kinship)

structure Kin (near far : Emitter) : Prop where
  options : near.options = kinship.options
  otherOptions : far.options = kinship.options
  stamp : near.writer.stamp = kinship.stamp
  writer : ∃ written,
    far.writer = near.writer.apart kinship.otherStamp near.writer.headerComments written
  mode : kinship.sameMode → far.mode = near.mode
  position : ∀ axis, kinship.place (near.position.get axis) (far.position.get axis)

/-- The two still are kin, and they wrote the same but for dates. -/
structure Alongside (near far nearAfter farAfter : Emitter) : Prop extends
    kinship.Kin nearAfter farAfter where
  written : ∃ lines others, nearAfter.writer.written.toList = near.writer.written.toList ++ lines ∧
    farAfter.writer.written.toList = far.writer.written.toList ++ others ∧
    Line.Redated kinship.stamp kinship.otherStamp lines others

variable {kinship} {near far nearAfter farAfter : Emitter}

/-- Nothing is written where the texts stay as they are. -/
theorem Kin.still (kin : kinship.Kin nearAfter farAfter)
    (nearText : nearAfter.writer.written = near.writer.written)
    (farText : farAfter.writer.written = far.writer.written) :
    kinship.Alongside near far nearAfter farAfter :=
  { kin with written := ⟨[], [], by simp [nearText], by simp [farText], .nil⟩ }

theorem Kin.alongside (kin : kinship.Kin near far) : kinship.Alongside near far near far :=
  kin.still rfl rfl

theorem Alongside.trans {nearEnd farEnd : Emitter}
    (start : kinship.Alongside near far nearAfter farAfter)
    (later : kinship.Alongside nearAfter farAfter nearEnd farEnd) :
    kinship.Alongside near far nearEnd farEnd := by
  obtain ⟨lines, others, first, second, same⟩ := start.written
  obtain ⟨more, moreOthers, firstMore, secondMore, sameMore⟩ := later.written
  refine { later with
    written := ⟨lines ++ more, others ++ moreOthers, ?_, ?_, same.append sameMore⟩ }
  · rw [firstMore, first, List.append_assoc]
  · rw [secondMore, second, List.append_assoc]

/-- Kin are compared by what they write. -/
abbrev pairing (kinship : Kinship) : Pairing where
  related := kinship.Kin
  kept := kinship.Alongside
  refl := Kin.alongside
  trans := Alongside.trans
  still := Alongside.toKin

/-- From kin the two actions come to the same end and write the same. -/
abbrev InStep {α β : Type} (kinship : Kinship) (agree : α → β → Prop) (action : Emission α)
    (other : Emission β) : Prop :=
  Emission.InStep kinship.pairing agree action other

section Steps

theorem inStep_updateWriter {change : Writer → Writer} (extended : Extends change) :
    kinship.InStep Eq (updateWriter change) (updateWriter change) := by
  refine InStep.change fun near far kin => ?_
  obtain ⟨written, same⟩ := kin.writer
  obtain ⟨lines, apart⟩ := extended near.writer
  obtain ⟨stamp, nearLines⟩ := Extends.same apart
  have itself : change near.writer = (change near.writer).apart near.writer.stamp
      near.writer.headerComments (near.writer.written ++ lines) :=
    apart near.writer.stamp near.writer.headerComments near.writer.written
  have heads : (change near.writer).headerComments = near.writer.headerComments := by
    rw [itself]
    rfl
  have moved : change far.writer = (change near.writer).apart kinship.otherStamp
      near.writer.headerComments (written ++ lines) := by
    rw [same, apart]
  refine { kin with
    stamp := stamp.trans kin.stamp
    writer := ⟨written ++ lines, ?_⟩
    written := ⟨lines, lines, nearLines, ?_, .refl lines⟩ }
  · dsimp only
    rw [moved, heads]
  · change (change far.writer).written.toList = far.writer.written.toList ++ lines
    rw [moved, same]
    simp [Writer.apart]

theorem inStep_command (tokens : List (Option String)) (note : Option String) :
    kinship.InStep Eq (command tokens note) (command tokens note) :=
  inStep_updateWriter (extends_command tokens note)

theorem Kin.withSlots (kin : kinship.Kin near far) (slots : Slots) :
    kinship.Alongside near far (near.withSlots slots) (far.withSlots slots) := by
  obtain ⟨written, same⟩ := kin.writer
  refine Kin.still { kin with writer := ⟨written, ?_⟩ } rfl rfl
  rw [Emitter.withSlots, same]
  rfl

theorem Kin.slots (kin : kinship.Kin near far) : far.slots = near.slots := by
  obtain ⟨written, same⟩ := kin.writer
  rw [Emitter.slots, same]
  rfl

theorem Kin.valueText (kin : kinship.Kin near far) :
    far.writer.valueText = near.writer.valueText := by
  obtain ⟨written, same⟩ := kin.writer
  rw [same]
  rfl

theorem Kin.target (kin : kinship.Kin near far) : far.writer.target = near.writer.target := by
  obtain ⟨written, same⟩ := kin.writer
  rw [same]
  rfl

theorem inStep_word (letter : Letter) (value : Option Float) (force : Bool) :
    kinship.InStep Eq (word letter value force) (word letter value force) := by
  intro near far kin
  rw [word_run, word_run, kin.valueText, kin.slots]
  cases value.mapM (near.writer.valueText letter.isWhole) with
  | error fault => exact .error fault kin.alongside
  | ok text => exact .ok rfl (kin.withSlots _)

theorem inStep_planeCode (plane : Plane) (force : Bool) :
    kinship.InStep Eq (writing (Writer.planeCode plane.code force))
      (writing (Writer.planeCode plane.code force)) := by
  intro near far kin
  cases force with
  | true =>
      have run (emitter : Emitter) : writing (Writer.planeCode plane.code true) emitter =
          .ok (some plane.code) (emitter.withSlots (emitter.slots.inPlane plane)) := rfl
      rw [run, run, kin.slots]
      exact .ok rfl (kin.withSlots _)
  | false =>
      rw [planeCode_run, planeCode_run, kin.slots]
      exact .ok rfl (kin.withSlots _)

/-- What becomes of a place hangs on that place alone. -/
theorem inStep_place (change : Coordinates (Option Float) → Coordinates (Option Float))
    (kept : ∀ position other : Coordinates (Option Float),
      (∀ axis, kinship.place (position.get axis) (other.get axis)) →
      ∀ axis, kinship.place ((change position).get axis) ((change other).get axis)) :
    kinship.InStep Eq
      (modify fun emitter => { emitter with position := change emitter.position })
      (modify fun emitter => { emitter with position := change emitter.position }) :=
  InStep.change fun _ _ kin => Kin.still { kin with position := kept _ _ kin.position } rfl rfl

theorem inStep_unplaced (axis : Axis) : kinship.InStep Eq
    (modify fun emitter => { emitter with position := emitter.position.set axis none })
    (modify fun emitter => { emitter with position := emitter.position.set axis none }) := by
  refine inStep_place (·.set axis none) fun position other known each => ?_
  by_cases homed : each = axis
  · subst homed
    rw [Coordinates.get_set_same, Coordinates.get_set_same]
    exact kinship.same none
  · rw [Coordinates.get_set_of_ne _ _ homed, Coordinates.get_set_of_ne _ _ homed]
    exact known each

theorem inStep_updatePosition (target : Coordinates (Option Float)) :
    kinship.InStep Eq (updatePosition target) (updatePosition target) := by
  refine inStep_place (moved · target) fun position other known axis => ?_
  simp only [moved, Coordinates.get_zipWith]
  cases target.get axis with
  | none => exact known axis
  | some sent => exact kinship.same (some sent)

/-- What does not hang on the mode of the laser is done alike. -/
theorem inStep_steps : Stepwise kinship.options (fun _ => True) (fun _ => True)
    (fun {α} (action : Emission α) => kinship.InStep Eq action action) where
  nothing := InStep.nothing
  follow := InStep.follow_returned
  target := by
    refine fun later => InStep.inspect fun near far kin => ?_
    rw [kin.target]
    exact later near.writer.target
  valueText := by
    refine fun value _ later => InStep.inspect fun near far kin => ?_
    rw [kin.valueText]
    refine InStep.follow_returned (InStep.result _) fun text returned => ?_
    obtain ⟨places, rfl⟩ := Writer.valueText_rounded (returns_result returned)
    exact later places
  sameRun := by
    intro action other run together near far kin
    rw [run near kinship.options.toolOffset kinship.options.showComments
        kinship.options.showLineNumbers kin.options,
      run far kinship.options.toolOffset kinship.options.showComments
        kinship.options.showLineNumbers kin.otherOptions]
    exact together near far kin
  notify := fun _ => InStep.change fun _ _ kin => Kin.still { kin with } rfl rfl
  command := fun _ _ => inStep_command _ _
  remark := fun text => inStep_updateWriter (extends_remark text)
  forget := fun letters => inStep_updateWriter (extends_forget letters)
  amount := fun _ => InStep.result _
  word := inStep_word
  planeCode := inStep_planeCode
  unplaced := inStep_unplaced

theorem inStep_powerOff : kinship.InStep Eq (power false) (power false) := by
  refine InStep.inspect fun near far kin => ?_
  rw [kin.options, kin.otherOptions]
  exact inStep_command _ _

theorem inStep_powerOn (sameMode : kinship.sameMode) :
    kinship.InStep Eq (power true) (power true) := by
  refine InStep.inspect fun near far kin => ?_
  rw [kin.mode sameMode]
  exact inStep_command _ _

theorem inStep_travels : Travelwise kinship.options (fun _ => True) (fun _ => True)
    (fun {α} (action : Emission α) => kinship.InStep Eq action action) where
  toStepwise := inStep_steps
  sameMove := by
    intro action other run together near far kin
    rw [run near kinship.options.showComments kinship.options.showLineNumbers kin.options,
      run far kinship.options.showComments kinship.options.showLineNumbers kin.otherOptions]
    exact together near far kin
  updatePosition := inStep_updatePosition
  shiftedTarget := fun _ => InStep.result _
  shifted := fun _ => InStep.result _

theorem inStep_selectMode (mode : Int) :
    kinship.InStep Eq (selectMode mode) (selectMode mode) := by
  unfold selectMode
  refine InStep.follow (InStep.result _) fun _ =>
    inStep_steps.optional (fun _ => inStep_steps.notify _) fun _ => ?_
  refine InStep.change fun near far kin => Kin.still { kin with mode := fun _ => ?_ } rfl rfl
  rw [kin.options, kin.otherOptions]

end Steps

section Events

theorem Kin.remarkLines (kin : kinship.Kin near far) (texts : List String) :
    far.writer.remarkLines texts = near.writer.remarkLines texts := by
  obtain ⟨written, same⟩ := kin.writer
  rw [same]
  rfl

theorem Kin.begun (kin : kinship.Kin near far) (texts : List String) :
    kinship.Alongside near far (near.begun.withHeader texts) (far.begun.withHeader texts) := by
  obtain ⟨written, same⟩ := kin.writer
  refine { kin with
    stamp := kin.stamp
    writer := ⟨far.begun.writer.written, ?_⟩
    written := ⟨near.writer.remarkLines firstTexts, near.writer.remarkLines firstTexts,
      by simp [Emitter.begun, withHeader], ?_, .refl _⟩ }
  · simp only [Emitter.begun, withHeader, same]
    rfl
  · simp [Emitter.begun, withHeader, kin.remarkLines]

/-- Heads differ in their dates. -/
theorem headLines_redated (target : far.writer.target = near.writer.target)
    (precision : far.writer.precision = near.writer.precision)
    (comments : far.writer.showComments = near.writer.showComments) (texts : List String)
    (comment : Option String) :
    Line.Redated near.writer.stamp far.writer.stamp (near.headLines texts comment)
      (far.headLines texts comment) := by
  have named : far.writer.headTexts =
      ("Creation date: " ++ far.writer.stamp) :: near.writer.headTexts.tail := by
    rw [Writer.headTexts, target, precision]
    rfl
  have dated : near.writer.headTexts =
      ("Creation date: " ++ near.writer.stamp) :: near.writer.headTexts.tail := rfl
  rw [Emitter.headLines, Emitter.headLines, named, dated]
  unfold Writer.remarkLines
  rw [comments]
  split
  · simp only [List.map_append, List.map_cons, List.cons_append]
    exact (Line.Redated.refl _).append (.date (.refl _))
  · exact .nil

theorem Kin.headLines (kin : kinship.Kin near far) (texts : List String) (comment : Option String) :
    Line.Redated kinship.stamp kinship.otherStamp (near.headLines texts comment)
      (far.headLines texts comment) := by
  obtain ⟨written, same⟩ := kin.writer
  have comments : far.writer.showComments = near.writer.showComments := by rw [same]; rfl
  have precision : far.writer.precision = near.writer.precision := by rw [same]; rfl
  have stamp : far.writer.stamp = kinship.otherStamp := by rw [same]; rfl
  have lines := headLines_redated kin.target precision comments texts comment
  rwa [kin.stamp, stamp] at lines

theorem Kin.headed (kin : kinship.Kin near far) (texts : List String) (comment : Option String) :
    kinship.Alongside near far (near.headed texts comment) (far.headed texts comment) := by
  obtain ⟨written, same⟩ := kin.writer
  refine { kin with
    stamp := kin.stamp
    writer := ⟨(far.headed texts comment).writer.written, ?_⟩
    written := ⟨near.headLines texts comment, far.headLines texts comment,
      by simp [Emitter.headed], by simp [Emitter.headed], kin.headLines texts comment⟩ }
  simp only [Emitter.headed, same]
  rfl

theorem Kin.pointText (kin : kinship.Kin near far) (words : List (String × Quantity)) :
    far.writer.pointText words = near.writer.pointText words := by
  unfold Writer.pointText
  rw [kin.valueText]

theorem inStep_startRun (comment : Option String) :
    kinship.InStep Eq (startRun comment) (startRun comment) := by
  intro near far kin
  have shown : far.writer.pointText = near.writer.pointText := funext kin.pointText
  obtain ⟨texts, ⟨fault, failed, failedToo⟩ | ⟨ended, endedToo⟩⟩ :=
    startRun_alike (kin.otherOptions.trans kin.options.symm) shown comment
  · rw [failed, failedToo]
    exact .error fault (kin.begun texts)
  · rw [ended, endedToo]
    exact .ok rfl (kin.headed texts comment)

theorem inStep_startSection (facts : Section) :
    kinship.InStep Eq (startSection facts) (startSection facts) :=
  inStep_steps.startSection (fun _ _ => trivial) (fun _ _ _ _ => trivial) fun _ =>
    inStep_selectMode facts.jetMode

/-- Arcs begin at the same point, where both know it or neither needs to. -/
theorem Kin.startPoint (kin : kinship.Kin near far) {given : Option (Coordinates Float)}
    (begun : (given <|> far.position.complete?) = (given <|> near.position.complete?))
    {next : Coordinates Float → Emission Unit}
    (later : ∀ start, kinship.InStep Eq (next start) (next start)) :
    Ends Eq (kinship.Alongside near far) ((Emitter.startPoint given >>= next) near)
      ((Emitter.startPoint given >>= next) far) := by
  have run := startPoint_run given near
  have runToo := startPoint_run given far
  rw [begun] at runToo
  cases known : given <|> near.position.complete? with
  | none =>
      rw [known] at run runToo
      rw [bind_of_error run, bind_of_error runToo]
      exact .error _ kin.alongside
  | some start =>
      rw [known] at run runToo
      rw [bind_of_ok run, bind_of_ok runToo]
      exact later start near far kin

theorem inStep_chordedArc (move : ArcMove) (start axis : Coordinates Float) :
    kinship.InStep Eq (chordedArc move start axis) (chordedArc move start axis) := by
  intro near far kin
  obtain ⟨notices, run⟩ := chordedArc_run move start axis near
  obtain ⟨others, runToo⟩ := chordedArc_run move start axis far
  have noticed : kinship.Alongside near far { near with notices } { far with notices := others } :=
    Kin.still { kin with } rfl rfl
  have alike :
      chordPoints far.options move start axis = chordPoints near.options move start axis := by
    rw [kin.options, kin.otherOptions]
  rw [alike] at runToo
  rw [run, runToo]
  cases chordPoints near.options move start axis with
  | error fault => exact .error fault noticed
  | ok points =>
      have cuts : kinship.InStep Eq (linearThrough move.feed points)
          (linearThrough move.feed points) :=
        inStep_travels.linearThrough (fun _ _ _ _ => trivial) fun _ _ => trivial
      exact (cuts _ _ noticed.toKin).weaken fun _ _ => noticed.trans

/-- Both know where the arc of a call begins, or neither does. -/
def BeginAlike (near far : Emitter) (call : Call) : Prop :=
  ∀ move, call = .event (.circular move) →
    (move.start <|> far.position.complete?) = (move.start <|> near.position.complete?)

theorem ends_circular (kin : kinship.Kin near far) {move : ArcMove}
    (begun : (move.start <|> far.position.complete?) = (move.start <|> near.position.complete?)) :
    Ends Eq (kinship.Alongside near far) (circular move near) (circular move far) := by
  unfold circular
  cases move.plane with
  | some plane =>
      exact kin.startPoint begun fun start => inStep_travels.planarArc fun _ _ => trivial
  | none =>
      cases move.axis with
      | none => exact .error .missingAxis kin.alongside
      | some axis => exact kin.startPoint begun fun start => inStep_chordedArc move start axis

/-- Switching the laser on is the only call for which the mode matters. -/
theorem ends_unlit (kin : kinship.Kin near far) {call : Call}
    (unlit : call ≠ .event (.power true)) (begun : BeginAlike near far call) :
    Ends Eq (kinship.Alongside near far) (obey call near) (obey call far) := by
  cases call with
  | precision places => exact inStep_updateWriter (extends_setPrecision places) near far kin
  | event event =>
      cases event with
      | startRun comment => exact inStep_startRun comment near far kin
      | startSection facts => exact inStep_startSection facts near far kin
      | endSection => exact inStep_steps.endSection near far kin
      | dwell seconds => exact inStep_steps.dwell trivial near far kin
      | power on =>
          cases on with
          | true => exact absurd rfl unlit
          | false => exact inStep_powerOff near far kin
      | rapid target =>
          exact inStep_travels.rapid (fun _ _ => trivial) (fun _ _ => trivial) near far kin
      | linear target feed =>
          exact inStep_travels.linear (fun _ _ => trivial) (fun _ _ => trivial) near far kin
      | circular move => exact ends_circular kin (begun move rfl)
      | endRun =>
          exact inStep_steps.endRun (fun _ _ => trivial) (fun _ _ _ _ => trivial) near far kin

/-- A call does the same to both, but for an arc that only one of them can begin. -/
theorem ends_obey (sameMode : kinship.sameMode) (kin : kinship.Kin near far) {call : Call}
    (begun : BeginAlike near far call) :
    Ends Eq (kinship.Alongside near far) (obey call near) (obey call far) := by
  by_cases lit : call = .event (.power true)
  · rw [lit]
    exact inStep_powerOn sameMode near far kin
  · exact ends_unlit kin lit begun

end Events

end Kinship

end GantryCode
