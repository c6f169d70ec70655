import GantryCode.Proofs.Desks

namespace GantryCode

/-! The program and the emitter that it drives.

A run whose streams and log are different files writes what the emitter writes for the lines of
its input, no more and no less, however it ends, as long as the output takes what is written. If it
does not come as far as to convert anything, it has touched no file but that of its log.
-/

namespace Emitter

open Emission Kinship

theorem IsFresh.text {options : Options} {start : Emitter} (fresh : IsFresh options start) :
    start.writer.text = "" := by
  rw [Writer.text, fresh.written]
  rfl

end Emitter

namespace Run

open Emission View
open Emission.Pairing

variable {σ : Type} {host : Host (StateM σ)} {view : View σ} {arguments : List String}
  {start here middle there after : σ} {log : Log} {options : Options}
  {settings : List (String × Value)} {input output : Stream} {emitter : Emitter}
  {bytes : List UInt8} {lines : List String} {text : String} {code : Nat}

section Stages

theorem Replays.created {unread : Option Text.Utf8.Fault} {broken : Option StreamFault}
    (replays : Replays host arguments start log options input output emitter bytes lines unread
      broken here) : Emitter.create options emitter.writer.stamp = .ok emitter := by
  obtain @⟨_, _, stamp, -, -, created, -, -⟩ := replays
  obtain ⟨-, target, -, rfl⟩ := Emitter.create_ok.mp created
  exact created

/-- Replay is given up where the run gives it up, for a reason that the user is told of. -/
theorem replay_of_failedLine {front rest : List String} {line : String} {count : Nat}
    {before stopped : Emitter} {fault : Fault} (split : lines = front ++ line :: rest)
    (relayed : relay host log output 1 0 emitter front here = (.ok (count, before), middle))
    (failed : replayLine (1 + front.length) count line before = .error fault stopped)
    (reported : fault.isReported = true) :
    Emitter.replay lines emitter = .error fault stopped := by
  rw [Emitter.replay_error, split, Emitter.replayFrom_append,
    bind_of_ok (replayFrom_of_relay relayed)]
  exact bind_of_error (replayLine_reported failed reported)

variable (lawful : host.IsLawful view)

include lawful

/-- A run that begins comes to convert its events, or it is given up with the files as they
were. -/
theorem Begins.converts (begins : Begins host arguments start settings log here)
    (ended : Run.run host arguments start = (.status code, after)) :
    (∃ options input output there,
        Converts host arguments start log options input output there) ∨
      code = 1 ∧ view.Spares (view.goal start log.file) start after := by
  have spares := begins.spares lawful
  have given {complaint : String} {left : σ}
      (leaves : view.Spares (view.goal start log.file) here left)
      (stopped : Run.run host arguments start = complain host log complaint 1 left) :
      code = 1 ∧ view.Spares (view.goal start log.file) start after := by
    have told := spares_tell lawful log (.failure complaint) left
    rw [leaves.goal, spares.goal] at told
    cases stopped.symm.trans ended
    exact ⟨rfl, spares.trans (leaves.trans told)⟩
  have run := begins.run
  unfold goOn at run
  cases accepted : Options.accepted host.platform settings with
  | error fault =>
      rw [accepted] at run
      dsimp only at run
      cases reported : fault.isReported with
      | true =>
          rw [if_pos reported] at run
          exact .inr (given (.refl _ here) run)
      | false =>
          rw [if_neg (by simp [reported])] at run
          cases run.symm.trans ended
  | ok options =>
      rw [accepted] at run
      rcases stream_cases host (streamSetting settings "events") here host.openFile with
        ⟨input, middle, read⟩ | ⟨complaint, middle, closed⟩ | ⟨crash, breaks⟩
      · have reads := spares_openFile lawful read
        rcases stream_cases host (streamSetting settings "output_path") middle host.createFile with
          ⟨output, there, write⟩ | ⟨complaint, there, closed⟩ | ⟨crash, breaks⟩
        · exact .inl ⟨options, input, output, there, .opened begins accepted read write⟩
        · have leaves := reads.trans (spares_createFile lawful closed)
          exact .inr (given leaves.widen (run.trans ((bind_after read).trans (bind_after closed))))
        · cases (Breaks.output begins accepted read breaks).run.symm.trans (congrArg Prod.fst ended)
      · exact .inr (given (spares_openFile lawful closed).widen (run.trans (bind_after closed)))
      · cases (Breaks.events begins accepted breaks).run.symm.trans (congrArg Prod.fst ended)

/-- Where the streams are open, nothing was written yet. -/
theorem Converts.underway (converts : Converts host arguments start log options input output here)
    (differ : Differ view start log.file output) : Underway view start log output "" here := by
  obtain @⟨settings, before, middle, begins, accepted, read, write⟩ := converts
  have begun : view.Spares (view.goal start log.file) start middle :=
    (begins.spares lawful).trans (spares_openFile lawful read).widen
  rcases openWith_cases lawful write with ⟨spares, other⟩ | ⟨path, opening, leads, opened⟩
  · cases output with
    | some path => exact absurd rfl (other path)
    | none =>
        have still := begun.trans spares.widen
        exact ⟨still.input, still.aims, fun file _ => still.held file, by simp [still.printed],
          nofun⟩
  · rcases opened with ⟨opened, ⟨⟩⟩ | ⟨fault, -, ⟨⟩⟩
    have still := begun.trans leads.widen
    have created := lawful.created (congrArg Prod.fst opened)
    have touches := lawful.createFile path opening
    rw [opened] at created touches
    have aimed : view.aim opening path = view.goal start (some path) := still.aims path
    refine ⟨touches.input.trans still.input, fun other => (touches.aims other).trans
      (still.aims other), fun file apart other => ?_, ?_, fun other same => ?_⟩
    · exact (touches.held file (aimed ▸ apart)).trans (still.held file other)
    · rw [touches.printed, still.printed]
      simp
    · cases same
      exact created

theorem Replays.underway {unread : Option Text.Utf8.Fault} {broken : Option StreamFault}
    (replays : Replays host arguments start log options input output emitter bytes lines unread
      broken here) (differ : Differ view start log.file output) :
    Underway view start log output emitter.writer.text here := by
  have empty := (Emitter.create_isFresh replays.created).text
  obtain @⟨opened, stamped, stamp, converts, dated, created, read, told⟩ := replays
  have stamps := lawful.stamp opened
  have reads := lawful.readStream input stamped
  rw [dated] at stamps
  rw [read] at reads
  rw [empty]
  exact (converts.underway lawful differ).spares differ (stamps.trans reads) nofun

theorem Delivers.tell (delivers : Delivers view start log output text there)
    (differ : Differ view start log.file output) (notice : Notice) :
    Delivers view start log output text (tell host log notice there).2 := by
  have spares := spares_tell lawful log notice there
  have led : view.goal there log.file = view.goal start log.file :=
    Option.bind_congr fun path _ => delivers.aims path
  rw [led] at spares
  refine ⟨fun path => (spares.aims path).trans (delivers.aims path),
    spares.printed.trans delivers.printed, fun file aimed => ?_, fun file apart other => ?_⟩
  · rw [spares.held file fun same => differ file same aimed]
    exact delivers.filled file aimed
  · exact (spares.held file other).trans (delivers.others file apart other)

/-- A run that ends well tells how long it took. -/
theorem Delivers.finish (delivers : Delivers view start log output text there)
    (differ : Differ view start log.file output)
    (ended : finish host log (.ok ()) there = (.status code, after)) :
    code = 0 ∧ Delivers view start log output text after := by
  have timed := lawful.elapsed there
  have still : Delivers view start log output text (host.elapsed there).2 :=
    ⟨fun path => (timed.aims path).trans (delivers.aims path),
      timed.printed.trans delivers.printed,
      fun file aimed => (timed.held file nofun).trans (delivers.filled file aimed),
      fun file apart other => (timed.held file nofun).trans (delivers.others file apart other)⟩
  have told := still.tell lawful differ (.finished (host.elapsed there).1)
  cases ended
  exact ⟨rfl, told⟩

/-- What is replayed is delivered, up to the end or to the line that replay is given up at, unless
the output fails. -/
theorem Replays.delivers
    (replays : Replays host arguments start log options input output emitter bytes lines none none
      here) (differ : Differ view start log.file output)
    (ended : Run.run host arguments start = (.status code, after)) :
    (code = 1 ∧ ∃ fault left,
        OutputFails host log output emitter lines none none here fault left) ∨
      (code = 0 ∧ ∃ count reached, Emitter.replay lines emitter = .ok count reached ∧
        Delivers view start log output reached.writer.text after) ∨
      code = 1 ∧ ∃ fault reached, Emitter.replay lines emitter = .error fault reached ∧
        fault.isReported = true ∧ Delivers view start log output reached.writer.text after := by
  have serves := (Emitter.create_isFresh replays.created).toServes
  have begun := replays.underway lawful differ
  cases relaying : relay host log output 1 0 emitter lines here with
  | mk reached left =>
      have relays := relays_of_relay relaying
      have replayed : replayInto host log output emitter lines none none here =
          replayEnd host log none none reached left := relays.replayInto
      cases closing : close host output (replayEnd host log none none reached left).2 with
      | mk taken there =>
          cases taken with
          | error fault =>
              have fails := OutputFails.close replayed closing
              cases (replays.run.trans fails.concluded).symm.trans ended
              exact .inl ⟨rfl, fault, there, fails⟩
          | ok done =>
              have run := (replays.concluded replayed).trans (conclude_closed closing)
              rw [ended] at run
              cases relays with
              | stream split relayed refused =>
                  have stopped := Relays.stream split relayed refused
                  have fails : OutputFails host log output emitter lines none none here _ there :=
                    .write stopped closing
                  cases run
                  exact .inl ⟨rfl, _, there, fails⟩
              | @event front rest line count before last fault middle _ split relayed failed
                  passed =>
                  have delivers :=
                    (begun.failedLine lawful differ serves relayed failed passed).close lawful
                      closing
                  have finished : finish host log (.error (.event fault)) there =
                      (.status code, after) := run.symm
                  cases reported : fault.isReported with
                  | true =>
                      have stops := replay_of_failedLine split relayed failed reported
                      rw [finish_reported reported] at finished
                      cases finished
                      exact .inr (.inr ⟨rfl, fault, last, stops, reported,
                        delivers.tell lawful differ _⟩)
                  | false =>
                      rw [finish_unreported reported] at finished
                      cases finished
              | @through count last _ through =>
                  have told := (begun.relay lawful differ serves through).tell lawful differ
                    (.replayed count)
                  have delivers := told.close lawful closing
                  obtain ⟨rfl, finished⟩ := delivers.finish lawful differ run.symm
                  exact .inr (.inl ⟨rfl, count, _,
                    Emitter.replay_of_ok (replayFrom_of_relay through), finished⟩)

end Stages

section Examples

theorem Begins.taken (begins : Begins host arguments start settings log here) :
    (settingsOf host arguments start).1 = .ok settings ∧ logFile settings = .ok log.file := by
  obtain @⟨read, opened, taken, logged⟩ := begins
  exact ⟨congrArg Prod.fst taken, (openLog_ok logged).2⟩

/-- A name without a home directory in front is the path that it looks like. -/
theorem openWith_plain {setting : Value} {stream : Stream}
    {opening : String → StateM σ (Except FileFault Unit)} (named : setting.message ≠ standard)
    (home : Path.homePart? setting.message = none)
    (opened : openWith host opening setting here = (.ok (.ok stream), there)) :
    stream = some (Path.normal setting.message) := by
  unfold openWith at opened
  split at opened
  · cases opened
  · simp only [home] at opened
    rw [if_neg (by decide)] at opened
    have located : located host setting.message here =
        (.ok (Path.normal setting.message), here) := by
      rw [located, home]
      rfl
    rw [bind_after located] at opened
    dsimp only at opened
    split at opened
    · cases opened
    · cases ended : opening (Path.normal setting.message) here with
      | mk done left =>
          rw [bind_after ended] at opened
          cases done <;> cases opened
          rfl

/-- The events and the output of a run that converts are what its settings name. -/
theorem Converts.named {events path : String}
    (converts : Converts host arguments start log options input output here)
    (taken : (settingsOf host arguments start).1 = .ok settings)
    (read : (streamSetting settings "events").message = events)
    (write : (streamSetting settings "output_path").message = path)
    (plain : ∀ name ∈ [events, path], name ≠ standard ∧ Path.homePart? name = none) :
    input = some (Path.normal events) ∧ output = some (Path.normal path) ∧
      logFile settings = .ok log.file ∧
      Options.accepted host.platform settings = .ok options := by
  obtain @⟨other, _, _, begins, accepted, opened, created⟩ := converts
  obtain ⟨same, kept⟩ := begins.taken
  cases taken.symm.trans same
  subst read write
  have ⟨named, home⟩ := plain _ (.head _)
  have ⟨namedToo, homeToo⟩ := plain _ (.tail _ (.head _))
  exact ⟨openWith_plain named home opened, openWith_plain namedToo homeToo created, kept, accepted⟩

end Examples

end Run

end GantryCode
