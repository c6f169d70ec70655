import GantryCode.Proofs.Calls
import GantryCode.Proofs.Operations

namespace GantryCode

/-! The mode of the laser.

Only the start of a section with the laser chooses how the laser is switched on. Every
other operation leaves the choice as it is, whether it ends well or not; so the choice is
that of the last such section whose start ended well.
-/

namespace Options

/-- The command that switches the laser on behind a section that asked for a mode, or in
front of all of them. Where the mode is none of the known ones the laser stays off. -/
def laserCommand (options : Options) : Option Int → String
  | some 0 => options.cutterThrough
  | some 1 => options.cutterEtch
  | some 2 => options.cutterVaporize
  | _ => options.cutterOff

end Options

namespace Emitter

open Emission

variable {options : Options}

/-- The laser would be switched on as before. -/
structure Steady (before after : Emitter) : Prop where
  options : after.options = before.options
  mode : after.mode = before.mode

theorem steady_progress : Progress Steady where
  refl := fun _ => ⟨rfl, rfl⟩
  trans := fun start later =>
    ⟨later.options.trans start.options, later.mode.trans start.mode⟩
  serves := fun steady serves =>
    ⟨steady.options.trans serves.options, by rw [steady.mode]; exact serves.mode⟩

section Operations

variable {α β : Type}

theorem steady_change {update : Emitter → Emitter}
    (same : ∀ emitter, Steady emitter (update emitter)) :
    Keeps options Steady (modify update) :=
  Keeps.change fun emitter _ => same emitter

theorem steady_chain {action : Emission α} {next : α → Emission β}
    (first : Keeps options Steady action) (later : ∀ result, Keeps options Steady (next result)) :
    Keeps options Steady (action >>= next) :=
  Keeps.chain steady_progress first later

theorem steady_nothing (result : α) : Keeps options Steady (pure result : Emission α) :=
  Keeps.nothing steady_progress result

theorem steady_result (given : Except Fault α) : Keeps options Steady (fromResult given) :=
  Keeps.result steady_progress given

theorem steady_writing (action : Writing α) : Keeps options Steady (writing action) := by
  intro emitter _
  unfold leaves writing
  cases action emitter.writer <;> exact ⟨rfl, rfl⟩

theorem steady_updateWriter (change : Writer → Writer) :
    Keeps options Steady (updateWriter change) :=
  steady_change fun _ => ⟨rfl, rfl⟩

/-- No part of an operation changes how the laser is switched on. -/
theorem steady_steps :
    Movewise options (fun _ => True) (fun _ => True) (Keeps options Steady) where
  nothing := steady_nothing
  follow := Keeps.follow steady_progress
  target := fun later => Keeps.inspect fun emitter _ => later emitter.writer.target
  valueText := fun _ _ later => Keeps.inspect fun _ _ =>
    Keeps.given steady_progress fun _ shown => by
      obtain ⟨places, rfl⟩ := Writer.valueText_rounded shown
      exact later places
  sameRun := fun run keeps => Keeps.of_run (fun emitter serves => run emitter
    options.toolOffset options.showComments options.showLineNumbers serves.options) keeps
  notify := fun _ => steady_change fun _ => ⟨rfl, rfl⟩
  command := fun _ _ => steady_updateWriter _
  remark := fun _ => steady_updateWriter _
  forget := fun _ => steady_updateWriter _
  amount := fun _ => steady_result _
  word := fun _ _ _ => steady_writing _
  planeCode := fun _ _ => steady_writing _
  unplaced := fun _ => steady_change fun _ => ⟨rfl, rfl⟩
  sameMove := fun run keeps => Keeps.of_run (fun emitter serves => run emitter
    options.showComments options.showLineNumbers serves.options) keeps
  power := fun on => Keeps.inspect fun _ _ =>
    Keeps.branch (fun _ => steady_updateWriter _) fun _ => steady_updateWriter _
  updatePosition := fun _ => steady_change fun _ => ⟨rfl, rfl⟩
  shiftedTarget := fun _ => steady_result _
  shifted := fun _ => steady_result _

theorem steady_pointText (words : List (String × Quantity)) :
    Keeps options Steady (pointText words) :=
  Keeps.inspect fun _ _ => steady_chain (steady_result _) fun texts =>
    steady_nothing (" ".intercalate texts)

theorem steady_startRun (comment : Option String) : Keeps options Steady (startRun comment) := by
  refine Keeps.inspect fun emitter _ => ?_
  refine steady_chain (steady_updateWriter _) fun _ => ?_
  refine steady_chain (steady_updateWriter _) fun _ => ?_
  refine steady_chain (steady_pointText _) fun _ => steady_chain (steady_updateWriter _) fun _ => ?_
  refine Keeps.branch (fun _ => ?_) fun _ => ?_
  · refine steady_chain (steady_pointText _) fun _ => ?_
    refine steady_chain (steady_updateWriter _) fun _ => ?_
    exact steady_chain (steady_updateWriter _) fun _ => steady_updateWriter _
  · exact steady_chain (steady_updateWriter _) fun _ => steady_updateWriter _

theorem steady_chordedArc (move : ArcMove) (start axis : Coordinates Float) :
    Keeps options Steady (chordedArc move start axis) := by
  have quiet (figure : EStateM Fault (Array Notice) (List (Coordinates Float))) :
      Keeps options Steady (noticing figure) := by
    intro emitter _
    unfold leaves noticing
    cases figure emitter.notices <;> exact ⟨rfl, rfl⟩
  exact Keeps.inspect fun emitter _ => steady_chain (quiet _) fun points =>
    steady_chain (steady_steps.notify _) fun _ =>
      steady_steps.linearThrough (fun _ _ _ _ => trivial) fun _ _ => trivial

theorem steady_startPoint (given : Option (Coordinates Float)) :
    Keeps options Steady (startPoint given) := by
  refine Keeps.inspect fun emitter _ => ?_
  split
  · exact steady_nothing _
  · exact Keeps.failure steady_progress _

theorem steady_circular (move : ArcMove) : Keeps options Steady (circular move) := by
  unfold circular
  split
  · exact Keeps.failure steady_progress _
  · exact steady_chain (steady_startPoint _) fun _ => steady_chordedArc move _ _
  · exact steady_chain (steady_startPoint _) fun _ => steady_steps.planarArc fun _ _ => trivial

end Operations

section Sections

variable {emitter : Emitter} {facts : Section}

/-- The action ends well from any emitter and leaves the laser as it is. -/
def Quietly (action : Emission Unit) : Prop :=
  ∀ emitter, ∃ after, action emitter = .ok () after ∧ Steady emitter after

theorem quietly_status (text : String) : Quietly (status text) := by
  intro emitter
  rw [status, code_bind_apply]
  cases emitter.writer.target.code? .statusMessage with
  | none => exact ⟨_, rfl, rfl, rfl⟩
  | some message => exact ⟨_, rfl, rfl, rfl⟩

theorem quietly_named (facts : Section) : Quietly (match facts.comment with
    | none | some "" => pure ()
    | some text => do
        command [← code .finishMoves]
        status text) := by
  split
  · exact fun emitter => ⟨emitter, rfl, rfl, rfl⟩
  · exact fun emitter => ⟨emitter, rfl, rfl, rfl⟩
  · next text _ _ =>
      intro emitter
      obtain ⟨after, shown, steady⟩ := quietly_status text
        (emitter.commanded [emitter.writer.target.code? .finishMoves] none)
      exact ⟨after, shown, steady.options, steady.mode⟩

/-- The announcement of a section fails for a mode that cannot be shown alone, and then does
nothing. -/
theorem announce_cases (facts : Section) (emitter : Emitter) :
    (∃ after, announce facts emitter = .ok () after ∧
      after.mode = if facts.isJet then cuttingMode emitter.options facts.jetMode
        else emitter.mode) ∨
    ∃ fault, announce facts emitter = .error fault emitter := by
  cases jet : facts.isJet with
  | false =>
      obtain ⟨after, named, steady⟩ := quietly_named facts emitter
      refine .inl ⟨after, ?_, steady.mode⟩
      rw [← named, announce, jet]
      rfl
  | true =>
      cases checked : checkMode facts.jetMode with
      | error fault =>
          have refused : selectMode facts.jetMode emitter = .error fault emitter := by
            rw [selectMode, checked]
            rfl
          refine .inr ⟨fault, ?_⟩
          rw [announce, jet]
          exact bind_of_error refused
      | ok done =>
          have selected : ∃ middle, selectMode facts.jetMode emitter = .ok () middle ∧
              middle.mode = cuttingMode emitter.options facts.jetMode := by
            rw [selectMode, checked]
            split
            · exact ⟨_, rfl, rfl⟩
            · exact ⟨_, rfl, rfl⟩
          obtain ⟨middle, chosen, mode⟩ := selected
          obtain ⟨after, named, steady⟩ := quietly_named facts middle
          refine .inl ⟨after, ?_, steady.mode.trans mode⟩
          rw [← named, announce, jet]
          exact bind_of_ok chosen

/-- A section with the laser whose start ends well chooses the mode; no other start of a
section does. -/
theorem mode_startSection (serves : Serves options emitter) (facts : Section) :
    (leaves (startSection facts) emitter).mode =
      if facts.isJet && endsWell (startSection facts) emitter then
        cuttingMode options facts.jetMode
      else emitter.mode := by
  cases first : facts.isFirst with
  | false =>
      rw [startSection_later first]
      rcases announce_cases facts emitter with ⟨after, announced, mode⟩ | ⟨fault, refused⟩
      · have well : endsWell (announce facts) emitter = true := by rw [endsWell, announced]
        rw [leaves_of_ok announced, mode, well, Bool.and_true, serves.options]
      · have failed : endsWell (announce facts) emitter = false := by rw [endsWell, refused]
        rw [leaves_of_error refused, failed, Bool.and_false]
        rfl
  | true =>
      rw [startSection_first first]
      have steady : Steady emitter (leaves startup emitter) :=
        steady_steps.startup (fun _ _ => trivial) (fun _ _ _ _ => trivial) emitter serves
      cases begun : startup emitter with
      | error fault middle =>
          have failed : endsWell (startup >>= fun _ => announce facts) emitter = false := by
            rw [endsWell, bind_of_error begun]
          rw [leaves_of_error begun] at steady
          rw [leaves_of_error (bind_of_error begun), failed, Bool.and_false]
          exact steady.mode
      | ok done middle =>
          rw [leaves_of_ok begun] at steady
          rcases announce_cases facts middle with ⟨after, announced, mode⟩ | ⟨fault, refused⟩
          · have run : (startup >>= fun _ => announce facts) emitter = .ok () after :=
              (bind_of_ok begun).trans announced
            have well : endsWell (startup >>= fun _ => announce facts) emitter = true := by
              rw [endsWell, run]
            rw [leaves_of_ok run, mode, well, Bool.and_true, steady.options, steady.mode,
              serves.options]
          · have run : (startup >>= fun _ => announce facts) emitter = .error fault middle :=
              (bind_of_ok begun).trans refused
            have failed : endsWell (startup >>= fun _ => announce facts) emitter = false := by
              rw [endsWell, run]
            rw [leaves_of_error run, failed, Bool.and_false]
            exact steady.mode

end Sections

section Runs

variable {emitter : Emitter}

/-- The mode that a call asks for, if it is the start of a section with the laser that
ends well. -/
def jetMode? (emitter : Emitter) (call : Call) : Option Int :=
  match call with
  | .event (.startSection facts) =>
      if facts.isJet && endsWell (obey call) emitter then some facts.jetMode else none
  | _ => none

/-- The mode of the last section with the laser. -/
def lastJetMode (emitter : Emitter) (held : Option Int) : List Call → Option Int
  | [] => held
  | call :: rest => (leaves (obey call) emitter).lastJetMode (emitter.jetMode? call <|> held) rest

/-- How the laser is switched on behind a section that asked for a mode, or in front of
all of them. -/
def laserMode (options : Options) : Option Int → CuttingMode
  | some mode => cuttingMode options mode
  | none => ⟨options.cutterOff, "Cutting mode not set"⟩

theorem command_laserMode (options : Options) (held : Option Int) :
    (laserMode options held).command = options.laserCommand held := by
  cases held with
  | none => rfl
  | some mode =>
      change (cuttingMode options mode).command = _
      unfold Options.laserCommand
      split
      · next same => cases same; rfl
      · next same => cases same; rfl
      · next same => cases same; rfl
      · next notThrough notEtch notVaporize =>
          have unknown : JetMode.ofInt? mode = none := by
            unfold JetMode.ofInt?
            split
            · exact absurd rfl notThrough
            · exact absurd rfl notEtch
            · exact absurd rfl notVaporize
            · rfl
          rw [cuttingMode, unknown]

theorem create_mode {stamp : String} {start : Emitter}
    (created : create options stamp = .ok start) : start.mode = laserMode options none := by
  obtain ⟨-, target, -, rfl⟩ := create_ok.mp created
  rfl

theorem steady_obey (serves : Serves options emitter) {call : Call}
    (other : emitter.jetMode? call = none) : (leaves (obey call) emitter).mode = emitter.mode := by
  cases call with
  | precision places => rfl
  | event event =>
      cases event with
      | startSection facts =>
          have unchosen : (facts.isJet && endsWell (startSection facts) emitter) = false := by
            by_contra chosen
            rw [Bool.not_eq_false] at chosen
            rw [jetMode?] at other
            change (if facts.isJet && endsWell (startSection facts) emitter then _ else _) = _
              at other
            rw [if_pos chosen] at other
            cases other
          change (leaves (startSection facts) emitter).mode = _
          rw [mode_startSection serves facts, unchosen]
          rfl
      | startRun comment => exact (steady_startRun comment emitter serves).mode
      | endSection => exact (steady_steps.endSection emitter serves).mode
      | dwell seconds => exact (steady_steps.dwell trivial emitter serves).mode
      | power on => exact (steady_steps.power on emitter serves).mode
      | rapid target =>
          exact (steady_steps.rapid (fun _ _ => trivial) (fun _ _ => trivial) emitter serves).mode
      | linear target feed =>
          exact (steady_steps.linear (fun _ _ => trivial) (fun _ _ => trivial) emitter serves).mode
      | circular move => exact (steady_circular move emitter serves).mode
      | endRun =>
          exact (steady_steps.endRun (fun _ _ => trivial) (fun _ _ _ _ => trivial) emitter
            serves).mode

theorem mode_obey (serves : Serves options emitter) {held : Option Int}
    (chosen : emitter.mode = laserMode options held) (call : Call) :
    (leaves (obey call) emitter).mode = laserMode options (emitter.jetMode? call <|> held) := by
  cases asked : emitter.jetMode? call with
  | none => exact (steady_obey serves asked).trans chosen
  | some mode =>
      unfold jetMode? at asked
      split at asked
      · next facts =>
          split at asked
          · next well =>
              cases asked
              refine (mode_startSection serves facts).trans ?_
              exact if_pos well
          · cases asked
      · cases asked

theorem mode_after (serves : Serves options emitter) {held : Option Int}
    (chosen : emitter.mode = laserMode options held) (calls : List Call) :
    (emitter.after calls).mode = laserMode options (emitter.lastJetMode held calls) := by
  induction calls generalizing emitter held with
  | nil => exact chosen
  | cons call rest ih => exact ih (serves_obey serves call) (mode_obey serves chosen call)

end Runs

end Emitter

end GantryCode
