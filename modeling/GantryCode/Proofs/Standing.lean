import GantryCode.Proofs.Calls
import GantryCode.Proofs.Chords
import GantryCode.Proofs.Operations
import GantryCode.Proofs.RunHead

namespace GantryCode

/-! What stands from call to call.

A writer goes on as it was set up: for the same target, with the same date, and with the same
shown beside the commands. It has slots for single letters and for the plane only, and where
it does not number commands it does not count them.
-/

/-- The writer is set up as before. -/
structure Writer.Stands (before after : Writer) : Prop where
  target : after.target = before.target
  stamp : after.stamp = before.stamp
  comments : after.showComments = before.showComments
  numbers : after.showLineNumbers = before.showLineNumbers
  next : before.showLineNumbers = false → after.nextNumber = before.nextNumber
  stretches : before.slots.stretches = [] → after.slots.stretches = []

namespace Writer.Stands

variable {first second third : Writer}

theorem refl (writer : Writer) : Stands writer writer :=
  ⟨rfl, rfl, rfl, rfl, fun _ => rfl, id⟩

theorem trans (start : Stands first second) (later : Stands second third) : Stands first third where
  target := later.target.trans start.target
  stamp := later.stamp.trans start.stamp
  comments := later.comments.trans start.comments
  numbers := later.numbers.trans start.numbers
  next := fun plain => (later.next (start.numbers.trans plain)).trans (start.next plain)
  stretches := fun single => later.stretches (start.stretches single)

/-- Other letters may be held, more lines written, and others asked for. -/
theorem change (writer : Writer) {slots : Slots} (precision : Int) (comments : List Comment)
    (written : Array Line) (single : writer.slots.stretches = [] → slots.stretches = []) :
    Stands writer { writer with precision, headerComments := comments, slots, written } :=
  ⟨rfl, rfl, rfl, rfl, fun _ => rfl, single⟩

theorem command (writer : Writer) (tokens : List (Option String)) (note : Option String) :
    Stands writer (writer.command tokens note) := by
  unfold Writer.command
  split
  · exact ⟨rfl, rfl, rfl, rfl, fun plain => by simp [plain], id⟩
  · exact refl writer

theorem remark (writer : Writer) (text : String) : Stands writer (writer.remark text) := by
  rw [Writer.remark_eq]
  exact change writer _ _ _ id

theorem forget (writer : Writer) (letters : List Letter) :
    Stands writer (writer.forget letters) := by
  refine change writer _ _ _ fun single => ?_
  unfold Slots.forget
  induction letters generalizing writer with
  | nil => exact single
  | cons letter rest ih =>
      rw [List.foldl_cons]
      exact ih (writer.setSlot (.letter letter) none) (by simpa [setSlot, Slots.store] using single)

end Writer.Stands

namespace Emitter

open Emission
open Writer (Stands)

variable {options : Options} {emitter : Emitter}

/-- The emitter is set up as before. -/
structure Standing (before after : Emitter) : Prop where
  serves : ∀ given, Serves given before → Serves given after
  writer : Stands before.writer after.writer

/-- With the writer set up as before, the emitter is. -/
theorem Standing.of_writer {before after : Emitter} (options : after.options = before.options)
    (mode : after.mode = before.mode) (writer : Stands before.writer after.writer) :
    Standing before after :=
  ⟨fun _ serves => ⟨options.trans serves.options, mode ▸ serves.mode⟩, writer⟩

theorem standing_progress : Progress Standing where
  refl := fun _ => .of_writer rfl rfl (.refl _)
  trans := fun start later =>
    ⟨fun given serves => later.serves given (start.serves given serves),
      start.writer.trans later.writer⟩
  serves := fun standing => standing.serves _

theorem standing_withSlots {slots : Slots}
    (single : emitter.slots.stretches = [] → slots.stretches = []) :
    Standing emitter (emitter.withSlots slots) :=
  .of_writer rfl rfl (.change _ _ _ _ single)

theorem standing_updateWriter {change : Writer → Writer}
    (stands : ∀ writer, Stands writer (change writer)) :
    Keeps options Standing (updateWriter change) :=
  Keeps.change fun emitter _ => .of_writer rfl rfl (stands emitter.writer)

theorem standing_word (letter : Letter) (value : Option Float) (force : Bool) :
    Keeps options Standing (word letter value force) := by
  intro emitter _
  have run := word_run letter value force emitter
  cases shown : value.mapM (emitter.writer.valueText letter.isWhole) with
  | error fault =>
      rw [shown] at run
      rw [leaves_of_error run]
      exact standing_progress.refl emitter
  | ok text =>
      rw [shown] at run
      rw [leaves_of_ok run]
      refine standing_withSlots fun single => ?_
      cases text with
      | none => exact single
      | some text => simpa [Slots.accept] using single

theorem standing_planeCode (plane : Plane) (force : Bool) :
    Keeps options Standing (writing (Writer.planeCode plane.code force)) := by
  intro emitter _
  have run : ∃ code, writing (Writer.planeCode plane.code force) emitter =
      .ok code (emitter.withSlots (emitter.slots.inPlane plane)) := by
    cases force with
    | true => exact ⟨_, rfl⟩
    | false => exact ⟨_, planeCode_run plane emitter⟩
  obtain ⟨code, run⟩ := run
  rw [leaves_of_ok run]
  exact standing_withSlots id

/-- No part of an operation changes how the emitter is set up. -/
theorem standing_steps :
    Movewise options (fun _ => True) (fun _ => True) (Keeps options Standing) where
  nothing := Keeps.nothing standing_progress
  follow := Keeps.follow standing_progress
  target := fun later => Keeps.inspect fun emitter _ => later emitter.writer.target
  valueText := fun _ _ later => Keeps.inspect fun _ _ =>
    Keeps.given standing_progress fun _ shown => by
      obtain ⟨places, rfl⟩ := Writer.valueText_rounded shown
      exact later places
  sameRun := fun run keeps => Keeps.of_run (fun emitter serves => run emitter
    options.toolOffset options.showComments options.showLineNumbers serves.options) keeps
  notify := fun _ => Keeps.change fun _ _ => .of_writer rfl rfl (.refl _)
  command := fun _ note => standing_updateWriter fun writer => .command writer _ note
  remark := fun text => standing_updateWriter fun writer => .remark writer text
  forget := fun letters => standing_updateWriter fun writer => .forget writer letters
  amount := fun _ => Keeps.result standing_progress _
  word := standing_word
  planeCode := standing_planeCode
  unplaced := fun _ => Keeps.change fun _ _ => .of_writer rfl rfl (.refl _)
  sameMove := fun run keeps => Keeps.of_run (fun emitter serves => run emitter
    options.showComments options.showLineNumbers serves.options) keeps
  power := fun _ => Keeps.inspect fun _ _ => Keeps.branch
    (fun _ => standing_updateWriter fun writer => .command writer _ _)
    fun _ => standing_updateWriter fun writer => .command writer _ _
  updatePosition := fun _ => Keeps.change fun _ _ => .of_writer rfl rfl (.refl _)
  shiftedTarget := fun _ => Keeps.result standing_progress _
  shifted := fun _ => Keeps.result standing_progress _

theorem standing_selectMode (mode : Int) : Keeps options Standing (selectMode mode) := by
  unfold selectMode
  refine Keeps.chain standing_progress (Keeps.result standing_progress _) fun _ =>
    standing_steps.optional (fun _ => standing_steps.notify _) fun _ => ?_
  refine Keeps.change fun emitter _ => ⟨fun given serves => ⟨serves.options, ?_⟩, .refl _⟩
  rw [← serves.options]
  exact cuttingMode_mem emitter.options mode

theorem standing_startRun (comment : Option String) :
    Keeps options Standing (startRun comment) := by
  intro emitter _
  obtain ⟨texts, ⟨fault, failed, -⟩ | ⟨ended, -⟩⟩ :=
    startRun_alike (rfl : emitter.options = _) rfl comment
  · rw [leaves_of_error failed]
    exact .of_writer rfl rfl (.change _ _ _ _ id)
  · rw [leaves_of_ok ended]
    refine .of_writer rfl rfl (.change _ _ _ _ fun single => ?_)
    simp [Slots.cleared, single]

theorem standing_chordedArc (move : ArcMove) (start axis : Coordinates Float) :
    Keeps options Standing (chordedArc move start axis) := by
  intro emitter serves
  obtain ⟨notices, run⟩ := chordedArc_run move start axis emitter
  have noticed : Standing emitter { emitter with notices } := .of_writer rfl rfl (.refl _)
  cases divided : chordPoints emitter.options move start axis with
  | error fault =>
      rw [divided] at run
      rw [leaves_of_error run]
      exact noticed
  | ok points =>
      rw [divided] at run
      rw [leaves_of_eq run]
      have cuts : Keeps options Standing (linearThrough move.feed points) :=
        standing_steps.linearThrough (fun _ _ _ _ => trivial) fun _ _ => trivial
      exact standing_progress.trans noticed (cuts _ (noticed.serves _ serves))

theorem standing_circular (move : ArcMove) : Keeps options Standing (circular move) := by
  have begun {next : Coordinates Float → Emission Unit}
      (later : ∀ start, Keeps options Standing (next start)) :
      Keeps options Standing (startPoint move.start >>= next) := by
    refine Keeps.chain standing_progress (fun emitter _ => ?_) later
    rw [leaves, startPoint_run]
    cases move.start <|> emitter.position.complete? <;> exact standing_progress.refl emitter
  unfold circular
  split
  · exact Keeps.failure standing_progress _
  · exact begun fun start => standing_chordedArc move start _
  · exact begun fun _ => standing_steps.planarArc fun _ _ => trivial

theorem standing_obey (call : Call) : Keeps options Standing (obey call) := by
  have steps : Movewise options _ _ (Keeps options Standing) := standing_steps
  cases call with
  | precision places => exact standing_updateWriter fun writer => .change writer _ _ _ id
  | event event =>
      cases event with
      | startRun comment => exact standing_startRun comment
      | startSection facts =>
          exact steps.startSection (fun _ _ => trivial) (fun _ _ _ _ => trivial) fun _ =>
            standing_selectMode facts.jetMode
      | endSection => exact steps.endSection
      | dwell seconds => exact steps.dwell trivial
      | power on => exact steps.power on
      | rapid target => exact steps.rapid (fun _ _ => trivial) fun _ _ => trivial
      | linear target feed => exact steps.linear (fun _ _ => trivial) fun _ _ => trivial
      | circular move => exact standing_circular move
      | endRun => exact steps.endRun (fun _ _ => trivial) fun _ _ _ _ => trivial

theorem standing_after (serves : Serves options emitter) (calls : List Call) :
    Standing emitter (emitter.after calls) := by
  induction calls generalizing emitter with
  | nil => exact standing_progress.refl emitter
  | cons call rest ih =>
      have first := standing_obey call emitter serves
      exact standing_progress.trans first (ih (first.serves _ serves))

end Emitter

end GantryCode
