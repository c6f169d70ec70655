import GantryCode.Proofs.LaserMode
import GantryCode.Proofs.Memory

namespace GantryCode

/-! How the laser is switched.

Switching it is one line, and its command is what the options say: for on, by the mode of
the last section with the laser. Startup and shutdown switch it off before they move the
tool, whatever happens to them afterwards.
-/

/-- Every command that switches the laser is one line. -/
def Options.CuttersAreLines (options : Options) : Prop :=
  ∀ command ∈ options.cutterCommands, Text.IsFlat command.toList ∧ Text.stripped command ≠ ""

instance (options : Options) : Decidable options.CuttersAreLines :=
  inferInstanceAs (Decidable (∀ command ∈ options.cutterCommands, _))

namespace Line

/-- The line of this command, whatever number it has and whatever is remarked beside
it. -/
def IsCommand (line : Line) (command : String) : Prop :=
  ∃ number remark, line = .command number (Text.stripped command) remark

/-- Whether a reader takes the line for a rapid move or for homing. -/
def travels (line : Line) : Bool :=
  (Reading.words line.chars).head?.any fun word => word = "G0".toList || word = "G28".toList

end Line

/-- The calls that begin and end the work of the machine. -/
def Call.isSequence : Call → Bool
  | .event (.startSection facts) => facts.isFirst
  | .event .endRun => true
  | _ => false

namespace Emitter

open Emission Reading

variable {options : Options} {emitter : Emitter}

section Lines

theorem commandBody_single (command : String) :
    commandBody [some command] = Text.stripped command := by
  unfold commandBody presentTokens
  by_cases empty : command = ""
  · subst empty
    decide
  · simp [empty, Text.stripped]

theorem commandLine_single (writer : Writer) {command : String}
    (shown : Text.stripped command ≠ "") (note : Option String) :
    ∃ line, writer.commandLine? [some command] note = some line ∧ line.IsCommand command := by
  have written : Writer.writesLine [some command] = true := by
    simpa [Writer.writesLine, commandBody_single] using shown
  refine ⟨_, if_pos written, ?_⟩
  rw [commandBody_single]
  exact ⟨_, _, rfl⟩

/-- A command that switches the laser adds its line and nothing else. -/
theorem switches (cutters : options.CuttersAreLines) {command : String}
    (cutter : command ∈ options.cutterCommands) (note : Option String) (emitter : Emitter) :
    ∃ line : Line, Writes emitter (emitter.commanded [some command] note) [line] ∧
      line.IsCommand command ∧ line.IsFlat := by
  obtain ⟨flat, shown⟩ := cutters command cutter
  obtain ⟨line, made, named⟩ := commandLine_single emitter.writer shown note
  have writes := writes_command emitter [some command] note
  have whole := Writer.commandLine_flat emitter.writer note (commandBody_single_flat flat)
    (by rw [made]; exact List.mem_singleton.mpr rfl)
  rw [made] at writes
  exact ⟨line, writes, named, whole⟩

end Lines

section Sequences

theorem travels_finishMoves {line : Line}
    (written : line ∈ (emitter.writer.commandLine? [emitter.writer.target.code? .finishMoves]
      (some "Finish moves")).toList) : line.travels = false := by
  obtain ⟨code, found, silent⟩ : ∃ code, emitter.writer.target.code? .finishMoves = some code ∧
      withoutNumber (tokens code.toList) = tokens code.toList ∧
      (tokens code.toList).head?.any (fun word => word = "G0".toList || word = "G28".toList) =
        false := by
    cases emitter.writer.target
    all_goals exact ⟨_, rfl, by decide, by decide⟩
  rw [found] at written
  have heard := Writer.commandLine_words emitter.writer (some "Finish moves")
    (by rw [tokens_commandBody_single]; exact silent.1) (Option.mem_toList.mp written)
  rw [Line.travels, heard, tokens_commandBody_single]
  exact silent.2

/-- Startup and shutdown switch the laser off, and nothing that they write in front of that
moves the tool. -/
theorem switches_off_first (serves : Serves options emitter) (cutters : options.CuttersAreLines)
    {call : Call} (sequence : call.isSequence = true) :
    ∃ front off rest, Writes emitter (leaves (obey call) emitter) (front ++ off :: rest) ∧
      Line.IsCommand off options.cutterOff ∧ ∀ line ∈ front, line.travels = false := by
  have shown : Text.stripped options.cutterOff ≠ "" :=
    (cutters options.cutterOff (by simp [Options.cutterCommands])).2
  have behind {middle : Emitter} {front : List Line} (begun : Writes emitter middle front)
      (told : Told middle.switchedOff (leaves (obey call) emitter)) :
      ∃ off rest, Writes emitter (leaves (obey call) emitter) (front ++ off :: rest) ∧
        Line.IsCommand off options.cutterOff := by
    obtain ⟨rest, writes, -⟩ := told_behind_laser begun told
    obtain ⟨off, made, named⟩ := commandLine_single middle.writer shown (some "Laser off")
    rw [serves.options, made] at writes
    refine ⟨off, rest, ?_, named⟩
    simpa using writes
  cases call with
  | precision places => cases sequence
  | event event =>
      cases event with
      | startSection facts =>
          obtain ⟨off, rest, writes, named⟩ :=
            behind (.refl emitter) (told_startSection serves sequence)
          exact ⟨[], off, rest, writes, named, by simp⟩
      | endRun =>
          obtain ⟨off, rest, writes, named⟩ :=
            behind (writes_command emitter _ _) (told_endRun serves)
          exact ⟨_, off, rest, writes, named, fun line member => travels_finishMoves member⟩
      | _ => cases sequence

theorem switched_off_before (serves : Serves options emitter) (cutters : options.CuttersAreLines)
    {call : Call} (sequence : call.isSequence = true) {ahead behind : List Line} {line : Line}
    (written : (leaves (obey call) emitter).writer.written.toList =
      emitter.writer.written.toList ++ (ahead ++ line :: behind))
    (travels : line.travels = true) :
    ∃ off ∈ ahead ++ [line], Line.IsCommand off options.cutterOff := by
  obtain ⟨front, off, rest, writes, named, still⟩ := switches_off_first serves cutters sequence
  have same : ahead ++ line :: behind = front ++ off :: rest :=
    List.append_cancel_left (written.symm.trans writes.written)
  refine ⟨off, ?_, named⟩
  rcases List.append_eq_append_iff.mp same with ⟨between, rfl, split⟩ | ⟨between, rfl, split⟩
  · cases between with
    | nil =>
        cases split
        simp
    | cons first others =>
        cases split
        have moving := still line (by simp)
        rw [travels] at moving
        cases moving
  · cases between with
    | nil =>
        cases split
        simp
    | cons first others =>
        cases split
        simp

end Sequences

section Runs

/-- Behind any run, switching the laser on is one line with the command that the last
section with the laser chose, and switching it off one line with its own command. No call
but the start of such a section changes the choice. Startup and shutdown write no line that
moves the tool or sends it home in front of the command that switches the laser off, unless
that command does so itself. -/
theorem laser_after_run {stamp : String} {start : Emitter}
    (created : create options stamp = .ok start) (cutters : options.CuttersAreLines)
    (calls : List Call) :
    let emitter := start.after calls
    let mode := start.lastJetMode none calls
    (∀ on, ∃ line after, power on emitter = .ok () after ∧
      after.writer.written.toList = emitter.writer.written.toList ++ [line] ∧ line.IsFlat ∧
      line.IsCommand (if on then options.laserCommand mode else options.cutterOff)) ∧
    (∀ call, emitter.jetMode? call = none →
      (leaves (obey call) emitter).mode = emitter.mode) ∧
    ∀ call ahead line behind, call.isSequence = true → line.travels = true →
      (leaves (obey call) emitter).writer.written.toList =
        emitter.writer.written.toList ++ (ahead ++ line :: behind) →
      ∃ off ∈ ahead ++ [line], Line.IsCommand off options.cutterOff := by
  intro emitter mode
  have fresh := create_isFresh created
  have serves : Serves options emitter := serves_after fresh.toServes calls
  have begun : start.mode = laserMode options none := create_mode created
  have chosen : emitter.mode = laserMode options mode := mode_after fresh.toServes begun calls
  refine ⟨fun on => ?_, fun call other => steady_obey serves other, ?_⟩
  · cases on with
    | true =>
        obtain ⟨line, writes, named, flat⟩ :=
          switches cutters serves.mode (some emitter.mode.remark) emitter
        refine ⟨line, _, rfl, writes.written, flat, ?_⟩
        rw [chosen, command_laserMode] at named
        exact named
    | false =>
        have cutter : options.cutterOff ∈ options.cutterCommands := by
          simp [Options.cutterCommands]
        obtain ⟨line, writes, named, flat⟩ := switches cutters cutter (some "Laser off") emitter
        rw [← serves.options] at writes
        exact ⟨line, _, rfl, writes.written, flat, named⟩
  · intro call ahead line behind sequence travels written
    exact switched_off_before serves cutters sequence written travels

theorem laser_of_etching_section :
    let start := fresh {}
    let etching := Call.event (.startSection { jetMode := 1 })
    create {} "" = .ok start ∧ Options.CuttersAreLines {} ∧
      ∃ line after, power true (start.after [etching]) = .ok () after ∧
        after.writer.written.toList = (start.after [etching]).writer.written.toList ++ [line] ∧
        line.IsFlat ∧ line.IsCommand "M3 S25" := by
  intro start etching
  have created : create {} "" = .ok start := create_fresh (by decide +kernel) rfl
  have cutters : Options.CuttersAreLines {} := by decide +kernel
  have asked : start.lastJetMode none [etching] = some 1 := by decide +kernel
  have switched := (laser_after_run created cutters [etching]).1 true
  rw [asked] at switched
  exact ⟨created, cutters, switched⟩

/-- The start of a section that fails in the startup leaves the laser as it was, although it
asked for a mode. And a command that switches the laser off can be one that sends the tool
home, which is then done behind the command that switched the laser on. -/
theorem unchosen_laser_behind_failed_startup :
    let raised : Options := { startZ := some (.real 1) }
    let homing : Options := { cutterOff := "G28" }
    let first (mode : Int) := Call.event (.startSection { isFirst := true, jetMode := mode })
    let failed := (fresh raised).after [.precision 2147483648, first 1]
    let lit := (fresh homing).after [first 0, .event (.power true)]
    create raised "" = .ok (fresh raised) ∧ raised.CuttersAreLines ∧
      0 ≤ failed.writer.precision ∧
      failed.added (.event (.power true)) = [.command none "M5" (some "Cutting mode not set")] ∧
      create homing "" = .ok (fresh homing) ∧ homing.CuttersAreLines ∧
      lit.writer.written.back? = some (.command none "M3 S255" (some "Laser on: through")) ∧
      (lit.added (.event .endRun))[1]? = some (.command none "G28" (some "Laser off")) ∧
      (Line.command none "G28" (some "Laser off")).travels = true := by
  intro raised homing first failed lit
  refine ⟨create_fresh (by decide +kernel) rfl, by decide +kernel, by decide +kernel,
    by decide +kernel, create_fresh (by decide +kernel) rfl, ?_⟩
  decide +kernel

end Runs

end Emitter

end GantryCode
