import GantryCode.CommandLine
import GantryCode.Host

namespace GantryCode

/-! A run of the program: arguments in, G code out.

The status is zero if every event was emitted, one if the run was given up for a
reason that the log tells, and two if there is something wrong with the machine
file.
-/

inductive Crash where
  | emission (fault : Fault)
  | machine (crash : MachineCrash)
  | unknownLevel (name : String)
  | notALevel (shown : String)
  | logFile (fault : FileFault)
  | nulInLogFile
  | notAPath (typeName : String)
  | noHome
deriving DecidableEq, Repr

def Crash.message : Crash → String
  | .emission fault => fault.message
  | .machine crash => crash.message
  | .unknownLevel name => "Unknown level: " ++ Text.quoted name
  | .notALevel shown => "Level not an integer or a valid string: " ++ shown
  | .logFile fault => fault.message
  | .nulInLogFile => "embedded null byte"
  | .notAPath typeName => "expected str, bytes or os.PathLike object, not " ++ typeName
  | .noHome => "Could not determine home directory."

inductive Outcome where
  | status (code : Nat)
  | exit (code : Nat)
  | crash (crash : Crash)
deriving DecidableEq, Repr

inductive Complaint where
  | file (fault : FileFault)
  | nulInPath
deriving DecidableEq, Repr

def Complaint.message : Complaint → String
  | .file fault => fault.message
  | .nulInPath => "embedded null byte"

/-- Why a conversion stops before its end. -/
inductive Interruption where
  | event (fault : Fault)
  | stream (fault : StreamFault)
  | undecodable (fault : Text.Utf8.Fault)
deriving DecidableEq, Repr

/-- Whether a fault is one that the user is told of. The others are not expected. -/
def Fault.isReported : Fault → Bool
  | .divisionByZero | .roundingInfinity | .integerTooLarge | .nestedTooDeep _ | .shownTooDeep
  | .listAsName | .objectAsName | .wrongType .. | .noSlot _ => false
  | _ => true

/-- Where the notices of a run go, and how severe they have to be. -/
structure Log where
  threshold : Int
  file : Option String

namespace Log

def levelNames : List (String × Int) :=
  [("CRITICAL", 50), ("FATAL", 50), ("ERROR", 40), ("WARN", 30), ("WARNING", 30), ("INFO", 20),
    ("DEBUG", 10), ("NOTSET", 0)]

def usualThreshold : Int := 30

def thresholdOf : Value → Except Crash Int
  | .null => .ok usualThreshold
  | .bool flag => .ok (if flag then 1 else 0)
  | .int n => .ok n
  | .text name =>
      match levelNames.lookup name with
      | some severity => .ok severity
      | none => .error (.unknownLevel name)
  | value => .error (.notALevel value.shown)

/-- The file that a setting names; an empty name stands for no file. -/
def fileOf (setting : Value) : Except Crash (Option String) :=
  match setting.path? with
  | some name => .ok (if name = "" then none else some (Path.collapsed name))
  | none => if setting.isTruthy then .error (.notAPath setting.typeName) else .ok none

def shows (log : Log) (notice : Notice) : Bool :=
  log.threshold ≤ notice.level.severity

def linesOf (log : Log) (notices : Array Notice) : List String :=
  (notices.toList.filter log.shows).map Notice.logLine

end Log

/-- What was noticed by the time that the lines were replayed, or one of them failed. -/
def noticedFor (emitter : Emitter) (lines : List String) : Array Notice :=
  match Emitter.replayFrom 1 0 lines emitter with
  | .ok _ after | .error _ after => after.notices

/-- The lines that a run reads whose log is its input: what it logs on the way is there
to be read when it comes to the end. An open last line
is one that was not finished: the log goes on with it, unless nothing was logged before
it was read. -/
def withEcho (log : Log) (emitter : Emitter) (lines : List String) (isOpen : Bool) :
    List String :=
  let echo (lines : List String) : List String := log.linesOf (noticedFor emitter lines)
  match isOpen, lines.getLast?, echo lines.dropLast with
  | true, some last, first :: rest => lines.dropLast ++ (last ++ first) :: rest
  | _, _, _ => lines ++ echo lines

namespace Run

variable {m : Type → Type} [Monad m] (host : Host m)

def standard : String := "-"

def tell (log : Log) (notice : Notice) : m Unit :=
  if log.shows notice then
    match log.file with
    | some file => host.appendLog file (notice.logLine ++ "\n")
    | none => host.printError (notice.logLine ++ "\n")
  else pure ()

def tellAll (log : Log) : List Notice → m Unit
  | [] => pure ()
  | notice :: rest => do
      tell host log notice
      tellAll log rest

def complain (log : Log) (complaint : String) (status : Nat) : m Outcome := do
  tell host log (.failure complaint)
  return .status status

def located (name : String) : m (Except Crash String) := do
  match Path.homePart? name with
  | none => return .ok (Path.normal name)
  | some part =>
      match ← host.home? part with
      | none => return .error .noHome
      | some home => return .ok (Path.normal (home ++ (Path.normal name).drop part.length))

def openWith (opening : String → m (Except FileFault Unit)) (setting : Value) :
    m (Except Crash (Except Complaint Stream)) := do
  let name := setting.message
  if !setting.isText then return .error (.notAPath setting.typeName)
  else if name = standard then return .ok (.ok none)
  else if Path.hasNul ((Path.homePart? name).getD "") then return .ok (.error .nulInPath)
  else
    match ← located host name with
    | .error crash => return .error crash
    | .ok path =>
        if Path.hasNul path then return .ok (.error .nulInPath)
        else
          match ← opening path with
          | .ok () => return .ok (.ok (some path))
          | .error fault => return .ok (.error (.file fault))

def isLog (log : Log) (stream : Stream) : Bool :=
  stream.any fun path => log.file = some (Path.collapsed path)

/-- The lines of a stream of events, and where it stops being text. -/
def heard (log : Log) (input : Stream) (emitter : Emitter) (bytes : List UInt8) :
    List String × Option Text.Utf8.Fault :=
  let (lines, unread) := Text.Utf8.lines bytes
  (if isLog log input && unread.isNone then
      withEcho log emitter lines (!Text.Utf8.endsLine bytes)
    else lines, unread)

/-- The setting of the command that switches the laser on in a mode. -/
def commandSetting (mode : CuttingMode) : String :=
  match mode.remark with
  | "Laser on: through" => "cutter_through"
  | "Laser on: etch" => "cutter_etch"
  | "Laser on: vaporize" => "cutter_vaporize"
  | _ => "cutter_off"

/-- The setting of the first command that an event writes for the laser. -/
def laserSetting? (emitter : Emitter) : Event → Option String
  | .startSection facts => if facts.isFirst then some "cutter_off" else none
  | .power true => some (commandSetting emitter.mode)
  | .power false | .endRun => some "cutter_off"
  | _ => none

/-- The event of a line that is in need of a command that is no text, and the type of
that. -/
def misfit? (emitter : Emitter) (line : String) : Option (Event × String) :=
  if emitter.options.misfits.isEmpty then none
  else
    match Event.readLine emitter.options.platform line with
    | .ok (some value) =>
        match Event.ofValue emitter.options.platform value with
        | .ok event =>
            (laserSetting? emitter event).bind fun name =>
              (emitter.options.misfits.lookup name).map fun typeName => (event, typeName)
        | .error _ => none
    | _ => none

/-- What an event does before it writes a command for the laser. -/
def aheadOfLaser : Event → Emission Unit
  | .endRun => do Emitter.command [← Emitter.code .finishMoves] (some "Finish moves")
  | _ => pure ()

/-- Replays a line, up to a command that is no text. -/
def replayLine (number count : Nat) (line : String) : Emission Nat := fun emitter =>
  match misfit? emitter line with
  | some (event, typeName) =>
      (aheadOfLaser event >>= fun _ => throw (.wrongType .command typeName)) emitter
  | none => Emitter.replayLine number count line emitter

def sendAll (output : Stream) : List Line → m (Except StreamFault Unit)
  | [] => return .ok ()
  | line :: rest => do
      match ← host.writeStream output line.text with
      | .ok () => sendAll output rest
      | .error fault => return .error fault

/-- Tells what was noticed and sends what was emitted since the emitter was as it was
before. -/
def passOn (log : Log) (output : Stream) (before after : Emitter) :
    m (Except StreamFault Unit) := do
  tellAll host log (after.notices.extract before.notices.size after.notices.size).toList
  sendAll host output (after.writer.written.extract before.writer.written.size
    after.writer.written.size).toList

/-- Replays lines and passes on what comes of them, line by line. -/
def relay (log : Log) (output : Stream) (number count : Nat) (emitter : Emitter) :
    List String → m (Except Interruption (Nat × Emitter))
  | [] => return .ok (count, emitter)
  | line :: rest => do
      match replayLine number count line emitter with
      | .ok count after =>
          match ← passOn host log output emitter after with
          | .ok () => relay log output (number + 1) count after rest
          | .error fault => return .error (.stream fault)
      | .error fault after =>
          match ← passOn host log output emitter after with
          | .ok () => return .error (.event fault)
          | .error broken => return .error (.stream broken)

/-- Replays the events of an open stream into another. -/
def replayInto (log : Log) (output : Stream) (emitter : Emitter) (lines : List String)
    (unread : Option Text.Utf8.Fault) (broken : Option StreamFault) :
    m (Except Interruption Unit) := do
  match ← relay host log output 1 0 emitter lines, unread, broken with
  | .error interruption, _, _ => return .error interruption
  | .ok _, some fault, _ => return .error (.undecodable fault)
  | .ok _, none, some fault => return .error (.stream fault)
  | .ok (count, _), none, none =>
      tell host log (.replayed count)
      return .ok ()

def close : Stream → m (Except StreamFault Unit)
  | none => return .ok ()
  | some path => host.closeFile path

def finish (log : Log) : Except Interruption Unit → m Outcome
  | .error (.event fault) =>
      if fault.isReported then complain host log fault.message 1
      else return .crash (.emission fault)
  | .error (.stream fault) => complain host log fault.message 1
  | .error (.undecodable fault) => complain host log fault.message 1
  | .ok () => do
      tell host log (.finished (← host.elapsed))
      return .status 0

/-- Closes the output, however the replay ended. What is wrong then is all that is
told. -/
def conclude (log : Log) (output : Stream) (ended : Except Interruption Unit) : m Outcome := do
  match ← close host output with
  | .error fault => complain host log fault.message 1
  | .ok () => finish host log ended

/-- Converts an open stream into another. -/
def convert (log : Log) (options : Options) (input output : Stream) : m Outcome := do
  match Emitter.create options (← host.stamp) with
  | .error fault => complain host log fault.message 1
  | .ok emitter =>
      let (bytes, broken) ← host.readStream input
      let (lines, unread) := heard log input emitter bytes
      conclude host log output (← replayInto host log output emitter lines unread broken)

def start (log : Log) (settings : List (String × Value)) : m Outcome := do
  let named (name : String) : Value := (settings.lookup name).getD (.text standard)
  tell host log (.optionsTaken (Value.object (Options.taken settings)).shown)
  let accepted := do
    let options ← Options.ofSettings settings
    options.check
    return { options with platform := host.platform }
  match accepted with
  | .error fault =>
      if fault.isReported then complain host log fault.message 1
      else return .crash (.emission fault)
  | .ok options =>
      match ← openWith host host.openFile (named "events") with
      | .error crash => return .crash crash
      | .ok (.error complaint) => complain host log complaint.message 1
      | .ok (.ok input) =>
          match ← openWith host host.createFile (named "output_path") with
          | .error crash => return .crash crash
          | .ok (.error complaint) => complain host log complaint.message 1
          | .ok (.ok output) => convert host log options input output

def prepareLog (path : String) : m (Except Crash Unit) := do
  if Path.hasNul path then return .error .nulInLogFile
  else
    match ← host.openLog path with
    | .ok () => return .ok ()
    | .error fault => return .error (.logFile fault)

def openLog (settings : List (String × Value)) : m (Except Crash Log) := do
  match Log.fileOf ((settings.lookup "log_filename").getD .null) with
  | .error crash => return .error crash
  | .ok file =>
      let prepared ←
        match file with
        | none => pure (.ok ())
        | some path => prepareLog host path
      match prepared with
      | .error crash => return .error crash
      | .ok () =>
          return (Log.thresholdOf ((settings.lookup "log_level").getD .null)).map
            fun threshold => { threshold, file }

def settingsOf (arguments : List String) :
    m (Except CommandLine.Failure (List (String × Value))) := do
  match CommandLine.machinePath? arguments with
  | .error failure => return .error failure
  | .ok none => return (CommandLine.settled [] arguments).mapError .stop
  | .ok (some path) =>
      if Path.hasNul path then return .error (.crash .nulInPath)
      else
        let content ← host.readFile path
        return CommandLine.withMachine host.load host.platform.showDepth arguments path content

def versionText : String :=
  CommandLine.program ++ " " ++ version ++ "\n"

def helpText : String :=
  "usage: " ++ CommandLine.program ++ " [options] [events]\n\noptions:\n" ++
    String.join (CommandLine.switches.map fun (word, _) => "  " ++ word ++ "\n")

def stopAt : CommandLine.Stop → m Outcome
  | .help => do
      discard (host.writeStream none helpText)
      return .exit 0
  | .version => do
      discard (host.writeStream none versionText)
      return .exit 0
  | .usage fault => do
      host.printError (CommandLine.program ++ ": error: " ++ fault.message ++ "\n")
      return .exit 2

def run (arguments : List String) : m Outcome := do
  match ← settingsOf host arguments with
  | .error (.stop stop) => stopAt host stop
  | .error (.machine path fault) =>
      complain host { threshold := Log.usualThreshold, file := none } (fault.message path) 2
  | .error (.crash crash) => return .crash (.machine crash)
  | .ok settings =>
      match ← openLog host settings with
      | .error crash => return .crash crash
      | .ok log => start host log settings

end Run

end GantryCode
