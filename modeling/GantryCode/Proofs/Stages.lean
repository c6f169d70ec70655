import GantryCode.Proofs.ReplayFaults
import GantryCode.Run

namespace GantryCode

/-! The stages of a run.

A run takes its settings, sets up its log, accepts its options, opens its streams, replays the
lines of one into the other and closes that. Behind each stage that is reached, the run is what is
still to be done from there. A host is anything that goes from one state to the next.
-/

/-- The options that settings come to on a platform, if they are accepted. -/
def Options.accepted (platform : Platform) (settings : List (String × Value)) :
    Except Fault Options := do
  let options ← Options.ofSettings settings
  options.check
  return { options with platform }

namespace Run

open CommandLine Emission

variable {σ : Type} {host : Host (StateM σ)} {arguments : List String}
  {start here middle there : σ} {log : Log} {options : Options}
  {settings : List (String × Value)} {input output : Stream} {emitter before after : Emitter}
  {lines : List String} {number count : Nat} {unread : Option Text.Utf8.Fault}
  {broken : Option StreamFault}

theorem bind_after {α β : Type} {action : StateM σ α} {next : α → StateM σ β} {result : α}
    (ended : action here = (result, there)) : (action >>= next) here = next result there := by
  have bound : (action >>= next) here = next (action here).1 (action here).2 := rfl
  rw [bound, ended]

section Parts

/-- The value that a run takes for a setting of a stream. -/
def streamSetting (settings : List (String × Value)) (name : String) : Value :=
  (settings.lookup name).getD (.text standard)

/-- Behind the log, a run goes on with the options. -/
def goOn {m : Type → Type} [Monad m] (host : Host m) (log : Log)
    (settings : List (String × Value)) : m Outcome :=
  match Options.accepted host.platform settings with
  | .error fault =>
      if fault.isReported then complain host log fault.message 1
      else return .crash (.emission fault)
  | .ok options => do
      match ← openWith host host.openFile (streamSetting settings "events") with
      | .error crash => return .crash crash
      | .ok (.error complaint) => complain host log complaint.message 1
      | .ok (.ok input) =>
          match ← openWith host host.createFile (streamSetting settings "output_path") with
          | .error crash => return .crash crash
          | .ok (.error complaint) => complain host log complaint.message 1
          | .ok (.ok output) => convert host log options input output

theorem start_eq {m : Type → Type} [Monad m] (host : Host m) (log : Log)
    (settings : List (String × Value)) :
    Run.start host log settings = (do
      tell host log (.optionsTaken (Value.object (Options.taken settings)).shown)
      goOn host log settings) := rfl

/-- What a run does with its settings, or with what is wrong with them. -/
def runWith {m : Type → Type} [Monad m] (host : Host m) :
    Except CommandLine.Failure (List (String × Value)) → m Outcome
  | .error (.stop stop) => stopAt host stop
  | .error (.machine path fault) =>
      complain host { threshold := Log.usualThreshold, file := none } (fault.message path) 2
  | .error (.crash crash) => return .crash (.machine crash)
  | .ok settings => do
      match ← openLog host settings with
      | .error crash => return .crash crash
      | .ok log => Run.start host log settings

theorem run_eq (host : Host (StateM σ)) (arguments : List String) (start : σ) :
    Run.run host arguments start =
      runWith host (settingsOf host arguments start).1 (settingsOf host arguments start).2 := rfl

end Parts

section Stages

/-- A run begins: it has its settings and its log, and has told what its options are. -/
inductive Begins (host : Host (StateM σ)) (arguments : List String) (start : σ)
    (settings : List (String × Value)) (log : Log) : σ → Prop
  | logged {read opened : σ} (taken : settingsOf host arguments start = (.ok settings, read))
      (logged : openLog host settings read = (.ok log, opened)) :
      Begins host arguments start settings log
        (tell host log (.optionsTaken (Value.object (Options.taken settings)).shown) opened).2

theorem Begins.run (begins : Begins host arguments start settings log here) :
    Run.run host arguments start = goOn host log settings here := by
  obtain @⟨read, opened, taken, logged⟩ := begins
  have started : Run.run host arguments start = Run.start host log settings opened := by
    rw [run_eq, taken]
    exact bind_after logged
  rw [started, start_eq]
  exact bind_after rfl

/-- The streams are open. -/
inductive Converts (host : Host (StateM σ)) (arguments : List String) (start : σ) (log : Log)
    (options : Options) (input output : Stream) (here : σ) : Prop
  | opened {settings : List (String × Value)} {before middle : σ}
      (begins : Begins host arguments start settings log before)
      (accepted : Options.accepted host.platform settings = .ok options)
      (read : openWith host host.openFile (streamSetting settings "events") before =
        (.ok (.ok input), middle))
      (write : openWith host host.createFile (streamSetting settings "output_path") middle =
        (.ok (.ok output), here)) : Converts host arguments start log options input output here

theorem Converts.run (converts : Converts host arguments start log options input output here) :
    Run.run host arguments start = convert host log options input output here := by
  obtain @⟨settings, before, middle, begins, accepted, read, write⟩ := converts
  rw [begins.run]
  unfold goOn
  rw [accepted]
  exact (bind_after read).trans (bind_after write)

/-- The stream of events is read into lines, and there is an emitter for what they say. -/
inductive Replays (host : Host (StateM σ)) (arguments : List String) (start : σ) (log : Log)
    (options : Options) (input output : Stream) (emitter : Emitter) (bytes : List UInt8)
    (lines : List String) (unread : Option Text.Utf8.Fault) (broken : Option StreamFault)
    (here : σ) : Prop
  | reads {opened stamped : σ} {stamp : String}
      (converts : Converts host arguments start log options input output opened)
      (dated : host.stamp opened = (stamp, stamped))
      (created : Emitter.create options stamp = .ok emitter)
      (read : host.readStream input stamped = ((bytes, broken), here))
      (told : heard log input emitter bytes = (lines, unread)) :
      Replays host arguments start log options input output emitter bytes lines unread broken here

theorem Replays.run {bytes : List UInt8}
    (replays : Replays host arguments start log options input output emitter bytes lines unread
      broken here) :
    Run.run host arguments start =
      (replayInto host log output emitter lines unread broken >>= conclude host log output)
        here := by
  obtain @⟨opened, stamped, stamp, converts, dated, created, read, told⟩ := replays
  rw [converts.run, convert]
  refine (bind_after dated).trans ?_
  rw [created]
  refine (bind_after read).trans ?_
  dsimp only
  rw [told]

end Stages

section Relays

/-- How the replay of lines into a stream ends. It goes through, or it stops at a line: for what
is wrong with its event, or because the stream does not take what comes of it. -/
inductive Relays (host : Host (StateM σ)) (log : Log) (output : Stream) (number count : Nat)
    (emitter : Emitter) (lines : List String) (here : σ) :
    Except Interruption (Nat × Emitter) → σ → Prop
  | through {reached : Nat} {after : Emitter} {there : σ}
      (relayed : relay host log output number count emitter lines here =
        (.ok (reached, after), there)) :
      Relays host log output number count emitter lines here (.ok (reached, after)) there
  | event {front rest : List String} {line : String} {reached : Nat} {before after : Emitter}
      {fault : Fault} {middle there : σ} (split : lines = front ++ line :: rest)
      (relayed : relay host log output number count emitter front here =
        (.ok (reached, before), middle))
      (failed : replayLine (number + front.length) reached line before =
        .error fault after)
      (passed : passOn host log output before after middle = (.ok (), there)) :
      Relays host log output number count emitter lines here (.error (.event fault)) there
  | stream {front rest : List String} {line : String} {reached : Nat} {before : Emitter}
      {fault : StreamFault} {middle there : σ} (split : lines = front ++ line :: rest)
      (relayed : relay host log output number count emitter front here =
        (.ok (reached, before), middle))
      (refused : passOn host log output before
        (leaves (replayLine (number + front.length) reached line) before) middle =
          (.error fault, there)) :
      Relays host log output number count emitter lines here (.error (.stream fault)) there

/-- What is done with a line, and then with those behind it. -/
theorem relay_cons (line : String) (rest : List String) :
    relay host log output number count emitter (line :: rest) =
      passOn host log output emitter (leaves (replayLine number count line) emitter) >>=
        fun passed =>
          match passed, replayLine number count line emitter with
          | .error fault, _ => pure (.error (.stream fault))
          | .ok (), .error fault _ => pure (.error (.event fault))
          | .ok (), .ok reached after =>
              relay host log output (number + 1) reached after rest := by
  rw [relay]
  unfold leaves
  cases replayLine number count line emitter with
  | ok reached after =>
      refine congrArg (_ >>= ·) (funext fun passed => ?_)
      cases passed <;> rfl
  | error fault after =>
      refine congrArg (_ >>= ·) (funext fun passed => ?_)
      cases passed <;> rfl

theorem relay_append (front rest : List String) :
    relay host log output number count emitter (front ++ rest) =
      relay host log output number count emitter front >>= fun relayed =>
        match relayed with
        | .error interruption => pure (.error interruption)
        | .ok (reached, after) =>
            relay host log output (number + front.length) reached after rest := by
  induction front generalizing number count emitter with
  | nil => rfl
  | cons line front ih =>
      rw [List.cons_append, relay_cons, relay_cons, bind_assoc]
      refine congrArg (_ >>= ·) (funext fun passed => ?_)
      cases passed with
      | error fault => rfl
      | ok done =>
          cases replayLine number count line emitter with
          | error fault after => rfl
          | ok reached after =>
              dsimp only
              rw [ih, List.length_cons, Nat.add_comm front.length, ← Nat.add_assoc]

theorem relays_of_relay {result : Except Interruption (Nat × Emitter)}
    (ended : relay host log output number count emitter lines here = (result, there)) :
    Relays host log output number count emitter lines here result there := by
  induction lines generalizing number count emitter here with
  | nil =>
      cases ended
      exact .through rfl
  | cons line rest ih =>
      have stepped := ended
      have split : line :: rest = [] ++ line :: rest := rfl
      rw [relay_cons] at stepped
      cases passed : passOn host log output emitter
          (leaves (replayLine number count line) emitter) here with
      | mk taken middle =>
          rw [bind_after passed] at stepped
          cases taken with
          | error fault =>
              cases stepped
              exact .stream split rfl passed
          | ok done =>
              cases first : replayLine number count line emitter with
              | error fault after =>
                  rw [first] at stepped
                  cases stepped
                  rw [leaves_of_error first] at passed
                  exact .event split rfl first passed
              | ok reached after =>
                  rw [first] at stepped
                  have onward {front : List String} {result : Except Interruption (Nat × Emitter)}
                      {there : σ} (relayed : relay host log output (number + 1) reached after front
                        middle = (result, there)) :
                      relay host log output number count emitter (line :: front) here =
                        (result, there) := by
                    rw [relay_cons, bind_after passed, first]
                    exact relayed
                  have places (front : List String) :
                      number + 1 + front.length = number + (line :: front).length := by
                    rw [List.length_cons, Nat.add_comm front.length, Nat.add_assoc]
                  cases ih stepped with
                  | through => exact .through ended
                  | event split relayed failed passed =>
                      rw [places] at failed
                      exact .event (by rw [split]; rfl) (onward relayed) failed passed
                  | stream split relayed refused =>
                      rw [places] at refused
                      exact .stream (by rw [split]; rfl) (onward relayed) refused

theorem Relays.relay {result : Except Interruption (Nat × Emitter)}
    (relays : Relays host log output number count emitter lines here result there) :
    Run.relay host log output number count emitter lines here = (result, there) := by
  cases relays with
  | through relayed => exact relayed
  | event split relayed failed passed =>
      rw [← leaves_of_error failed] at passed
      rw [split, relay_append, bind_after relayed]
      dsimp only
      rw [relay_cons, bind_after passed, failed]
      rfl
  | stream split relayed refused =>
      rw [split, relay_append, bind_after relayed]
      dsimp only
      rw [relay_cons, bind_after refused]
      rfl

theorem replayLine_fitting {line : String} (fitting : misfit? emitter line = none) :
    replayLine number count line emitter = Emitter.replayLine number count line emitter := by
  rw [replayLine, fitting]

theorem replayLine_misfit {line typeName : String} {event : Event}
    (misfit : misfit? emitter line = some (event, typeName)) :
    replayLine number count line emitter =
      .error (.wrongType .command typeName) (leaves (aheadOfLaser event) emitter) := by
  rw [replayLine, misfit]
  cases event <;> rfl

theorem replayLine_ok {line : String} {reached : Nat}
    (ended : replayLine number count line emitter = .ok reached after) :
    Emitter.replayLine number count line emitter = .ok reached after := by
  cases misfit : misfit? emitter line with
  | none => exact (replayLine_fitting misfit).symm.trans ended
  | some found => cases (replayLine_misfit misfit).symm.trans ended

/-- A line that a run fails at for a reason that the user is told of fails for that. -/
theorem replayLine_reported {line : String} {fault : Fault}
    (failed : replayLine number count line emitter = .error fault after)
    (reported : fault.isReported = true) :
    Emitter.replayLine number count line emitter = .error fault after := by
  cases misfit : misfit? emitter line with
  | none => exact (replayLine_fitting misfit).symm.trans failed
  | some found =>
      cases (replayLine_misfit misfit).symm.trans failed
      cases reported

/-- What is relayed is replayed. -/
theorem replayFrom_of_relay {reached : Nat}
    (relayed : relay host log output number count emitter lines here =
      (.ok (reached, after), there)) :
    Emitter.replayFrom number count lines emitter = .ok reached after := by
  induction lines generalizing number count emitter here with
  | nil =>
      cases relayed
      rfl
  | cons line rest ih =>
      rw [relay_cons] at relayed
      cases passed : passOn host log output emitter
          (leaves (replayLine number count line) emitter) here with
      | mk taken middle =>
          rw [bind_after passed] at relayed
          cases taken with
          | error fault => cases relayed
          | ok done =>
              cases first : replayLine number count line emitter with
              | error fault after =>
                  rw [first] at relayed
                  cases relayed
              | ok more between =>
                  rw [first] at relayed
                  exact (bind_of_ok (replayLine_ok first)).trans (ih relayed)

end Relays

section Conclusions

/-- What replay comes to where it is known how far it went. -/
def replayEnd (host : Host (StateM σ)) (log : Log) (unread : Option Text.Utf8.Fault)
    (broken : Option StreamFault) :
    Except Interruption (Nat × Emitter) → StateM σ (Except Interruption Unit)
  | .error interruption => return .error interruption
  | .ok (count, _) =>
      match unread, broken with
      | some fault, _ => return .error (.undecodable fault)
      | none, some fault => return .error (.stream fault)
      | none, none => do
          tell host log (.replayed count)
          return .ok ()

variable {reached : Except Interruption (Nat × Emitter)} {ended : Except Interruption Unit}
  {fault : StreamFault} {left : σ}

theorem Relays.replayInto
    (relays : Relays host log output 1 0 emitter lines here reached there) :
    Run.replayInto host log output emitter lines unread broken here =
      replayEnd host log unread broken reached there := by
  refine (bind_after relays.relay).trans ?_
  rcases reached with interruption | ⟨count, after⟩
  · rfl
  · cases unread <;> cases broken <;> rfl

theorem Replays.concluded {bytes : List UInt8}
    (replays : Replays host arguments start log options input output emitter bytes lines unread
      broken here)
    (relayed : Run.replayInto host log output emitter lines unread broken here = (ended, left)) :
    Run.run host arguments start = conclude host log output ended left := by
  rw [replays.run]
  exact bind_after relayed

theorem conclude_closed (closed : close host output here = (.ok (), there)) :
    conclude host log output ended here = finish host log ended there :=
  bind_after closed

theorem conclude_unclosed (unclosed : close host output here = (.error fault, there)) :
    conclude host log output ended here = complain host log fault.message 1 there :=
  bind_after unclosed

theorem finish_reported {fault : Fault} (reported : fault.isReported = true) :
    finish host log (.error (.event fault)) = complain host log fault.message 1 := by
  rw [finish, if_pos reported]

theorem finish_unreported {fault : Fault} (unreported : fault.isReported = false) :
    finish host log (.error (.event fault)) = pure (.crash (.emission fault)) := by
  rw [finish, if_neg (by simp [unreported])]

/-- The output of a conversion fails: it takes no more, or it cannot be closed. -/
inductive OutputFails (host : Host (StateM σ)) (log : Log) (output : Stream) (emitter : Emitter)
    (lines : List String) (unread : Option Text.Utf8.Fault) (broken : Option StreamFault)
    (here : σ) : StreamFault → σ → Prop
  | write {fault : StreamFault} {left there : σ}
      (relays : Relays host log output 1 0 emitter lines here (.error (.stream fault)) left)
      (closed : close host output left = (.ok (), there)) :
      OutputFails host log output emitter lines unread broken here fault there
  | close {ended : Except Interruption Unit} {fault : StreamFault} {left there : σ}
      (relayed : replayInto host log output emitter lines unread broken here = (ended, left))
      (unclosed : close host output left = (.error fault, there)) :
      OutputFails host log output emitter lines unread broken here fault there

theorem OutputFails.concluded
    (fails : OutputFails host log output emitter lines unread broken here fault there) :
    (replayInto host log output emitter lines unread broken >>= conclude host log output) here =
      complain host log fault.message 1 there := by
  cases fails with
  | write relays closed =>
      rw [bind_after relays.replayInto, conclude_closed closed]
      rfl
  | close relayed unclosed => rw [bind_after relayed, conclude_unclosed unclosed]

end Conclusions

end Run

end GantryCode
