import GantryCode.Proofs.Calls

namespace GantryCode

/-! What was last written for each letter.

This is a matter of the history of the calls: what their lines say, and where it is
forgotten. The commands that switch the laser are none of the emitter's own words, so
they are left out, whatever they hold. At every moment of every run the slots hold just
this.
-/

/-- What is known once some letters are forgotten. -/
def Registers.forget (registers : Registers) (letters : List Letter) : Registers :=
  fun letter => if letter ∈ letters then none else registers letter

def Options.laserLines (options : Options) : Nat :=
  if Writer.writesLine [some options.cutterOff] then 1 else 0

namespace Writer

theorem length_commandLine (writer : Writer) (given : List (Option String)) (note : Option String) :
    (writer.commandLine? given note).toList.length = if writesLine given then 1 else 0 := by
  unfold commandLine?
  split <;> rfl

end Writer

namespace Emitter

open Emission Reading

variable {options : Options} {emitter after : Emitter} {call : Call} {lines : List Line}

/-- The lines that a call adds to the text. -/
def added (emitter : Emitter) (call : Call) : List Line :=
  (leaves (obey call) emitter).writer.written.toList.drop emitter.writer.written.size

/-- The lines of a call but for the commands that switch the laser. -/
def spoken (emitter : Emitter) : Call → List Line
  | .event (.power _) => []
  | .event (.startSection facts) =>
      (emitter.added (.event (.startSection facts))).drop
        (if facts.isFirst then emitter.options.laserLines else 0)
  | .event .endRun => (emitter.added (.event .endRun)).drop (1 + emitter.options.laserLines)
  | call => emitter.added call

/-- What is remembered behind a call. A run that starts forgets everything, the end of
a section the axes and the feed rate; what homing makes unknown stands in its line. -/
def retain (emitter : Emitter) (call : Call) (memory : Registers) : Registers :=
  let heard := memory.readLines (emitter.spoken call)
  match call with
  | .event (.startRun _) => if endsWell (obey call) emitter then .unknown else heard
  | .event .endSection => heard.forget [.x, .y, .z, .f]
  | _ => heard

/-- What is remembered behind a run. -/
def memory (emitter : Emitter) (registers : Registers) : List Call → Registers
  | [] => registers
  | call :: rest => (leaves (obey call) emitter).memory (emitter.retain call registers) rest

theorem added_of_written (written : (leaves (obey call) emitter).writer.written.toList =
    emitter.writer.written.toList ++ lines) : emitter.added call = lines := by
  rw [added, written]
  exact List.drop_left' (by simp)

theorem added_of_writes (writes : Writes emitter (leaves (obey call) emitter) lines) :
    emitter.added call = lines :=
  added_of_written writes.written

def switchedOff (emitter : Emitter) : Emitter :=
  emitter.commanded [some emitter.options.cutterOff] (some "Laser off")

theorem laserOff_run (emitter : Emitter) :
    laserOff emitter.options emitter = .ok () emitter.switchedOff := rfl

theorem serves_switchedOff (serves : Serves options emitter) :
    Serves options emitter.switchedOff :=
  ⟨serves.options, serves.mode⟩

/-- What tells the controller something after a command that switches the laser off. -/
theorem told_behind_laser {start middle after : Emitter} {front : List Line}
    (begun : Writes start middle front)
    (told : Told middle.switchedOff after) :
    ∃ rest, Writes start after (front ++
        (middle.writer.commandLine? [some start.options.cutterOff] (some "Laser off")).toList ++
        rest) ∧
      (start.options.FeedsInRange → after.slots.get = Registers.readLines middle.slots.get
        ((front ++ (middle.writer.commandLine? [some start.options.cutterOff]
          (some "Laser off")).toList ++ rest).drop
            (front.length + start.options.laserLines))) := by
  obtain ⟨rest, tells⟩ := told
  rw [← begun.options]
  let switched := middle.writer.commandLine? [some middle.options.cutterOff] (some "Laser off")
  have laser : Writes middle middle.switchedOff switched.toList := writes_command middle _ _
  have counted : switched.toList.length = middle.options.laserLines :=
    Writer.length_commandLine middle.writer _ _
  refine ⟨rest, (begun.trans laser).trans tells.toWrites, fun feeds => ?_⟩
  rw [List.drop_left' (by rw [List.length_append, counted])]
  have heard := tells.letters (by rw [laser.options]; exact feeds)
  rw [heard, switchedOff, slots_commanded]

section Steps

/-- Behind the command that switches the laser off, the start of the first section tells
all that it does. -/
theorem told_startSection {facts : Section} (serves : Serves options emitter)
    (first : facts.isFirst = true) :
    Told emitter.switchedOff (leaves (startSection facts) emitter) := by
  have plain {α : Type} {action : Emission α} (keeps : Keeps options ToldInPlane action) :
      Keeps options Told action := keeps.weaken fun _ tells => tells.told
  let rest : Emission Unit := (prepare options >>= fun _ => selectXY >>= fun _ =>
    settle options) >>= fun _ => announce facts
  have run : startSection facts emitter = rest emitter.switchedOff := by
    have started : startup emitter =
        (prepare options >>= fun _ => selectXY >>= fun _ => settle options)
          emitter.switchedOff := by
      rw [← serves.options]
      exact (startup_run emitter).trans (bind_of_ok (laserOff_run emitter))
    rw [startSection_first first]
    exact bind_of_eq started
  have keeps : Keeps options Told rest :=
    Keeps.chain told_progress
      (Keeps.chain told_progress (plain keeps_prepare) fun _ =>
        Keeps.chain told_progress keeps_selectXY fun _ => plain keeps_settle)
      fun _ => plain (keepsInPlane_of_idle (keeps_announce facts))
  rw [leaves_of_eq run]
  exact keeps _ (serves_switchedOff serves)

def finished (emitter : Emitter) : Emitter :=
  emitter.commanded [emitter.writer.target.code? .finishMoves] (some "Finish moves")

theorem finishMoves_run (emitter : Emitter) : finishMoves emitter = .ok () emitter.finished := rfl

theorem serves_finished (serves : Serves options emitter) : Serves options emitter.finished :=
  ⟨serves.options, serves.mode⟩

theorem length_finishMoves (writer : Writer) (target : Target) (note : Option String) :
    (writer.commandLine? [target.code? .finishMoves] note).toList.length = 1 := by
  rw [Writer.length_commandLine]
  exact if_pos (by cases target <;> decide)

/-- Behind the command that switches the laser off, the end of a run tells all that it
does. -/
theorem told_endRun (serves : Serves options emitter) :
    Told emitter.finished.switchedOff (leaves endRun emitter) := by
  let rest : Emission Unit := park options >>= fun _ => powerDown options
  have run : endRun emitter = rest emitter.finished.switchedOff := by
    have stopped : laserOff options emitter.finished = .ok () emitter.finished.switchedOff := by
      rw [← serves.options]
      exact laserOff_run emitter.finished
    refine (endRun_run emitter).trans ?_
    rw [serves.options]
    exact (bind_of_ok (finishMoves_run emitter)).trans (bind_of_ok stopped)
  have keeps : Keeps options ToldInPlane rest :=
    Keeps.chain toldInPlane_progress keeps_park fun _ => keepsInPlane_of_idle keeps_powerDown
  rw [leaves_of_eq run]
  exact (keeps _ (serves_switchedOff (serves_finished serves))).told

end Steps

end Emitter

end GantryCode
