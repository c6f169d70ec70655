import GantryCode.Proofs.Layers
import GantryCode.Proofs.LineBreaks
import GantryCode.Proofs.Stages

namespace GantryCode

/-! How a run ends.

A run is given up in an orderly way, with a status and a word in the log, for whatever a
handler was written for. Other faults are met by no handler and end the program. Each of them
is told apart by where it comes from: the machine file, the log, the options, the names of the
streams, or the line of an event. All of this holds on any host.
-/

namespace Options

open Emission (FailsOnly bind_eq_ok)

/-- What goes wrong here is reported, or a value is of a type that is of no use there. -/
def OnlyTypes {α : Type} (given : Except Fault α) : Prop :=
  FailsOnly (fun fault => fault.isReported = true ∨ ∃ purpose typeName,
    fault = .wrongType purpose typeName) given

theorem onlyTypes_ok {α : Type} (result : α) : OnlyTypes (.ok result) :=
  fun _ => nofun

theorem onlyTypes_wrongType {α : Type} (purpose : Purpose) (typeName : String) :
    OnlyTypes (throw (.wrongType purpose typeName) : Except Fault α) := by
  intro fault same
  cases same
  exact .inr ⟨purpose, typeName, rfl⟩

theorem onlyTypes_require (condition : Bool) (reason : OptionFault) :
    OnlyTypes (require condition reason) := by
  intro fault failed
  unfold require at failed
  split at failed
  · cases failed
  · cases failed
    exact .inl rfl

theorem onlyTypes_isAboveZero (quantity : Quantity) : OnlyTypes quantity.isAboveZero := by
  intro fault failed
  cases quantity with
  | other value =>
      cases failed
      exact .inr ⟨_, _, rfl⟩
  | _ => cases failed

theorem onlyTypes_checkNumbers (options : Options) : OnlyTypes options.checkNumbers := by
  have feeds : OnlyTypes options.hasRapidFeeds := by
    refine (onlyTypes_isAboveZero _).chain fun above => ?_
    cases above
    · exact onlyTypes_ok _
    · exact onlyTypes_isAboveZero _
  exact feeds.chain fun _ => (onlyTypes_require _ _).chain fun _ =>
    (onlyTypes_isAboveZero _).chain fun _ => onlyTypes_require _ _

theorem onlyTypes_check (options : Options) : OnlyTypes options.check :=
  (onlyTypes_checkNumbers options).chain fun _ => (onlyTypes_require _ _).chain fun _ =>
    onlyTypes_require _ _

theorem onlyTypes_ofSettings (settings : List (String × Value)) :
    OnlyTypes (ofSettings settings) := by
  have numbers := onlyTypes_checkNumbers (fromSettings settings)
  unfold ofSettings
  dsimp only
  split
  · exact numbers.chain fun _ => onlyTypes_wrongType _ _
  split
  · exact numbers.chain fun _ => (onlyTypes_require _ _).chain fun _ => onlyTypes_wrongType _ _
  · exact onlyTypes_ok _

/-- Options that are accepted are for a target that there is. -/
theorem target_of_check {options : Options} (checked : options.check = .ok ()) :
    ∃ target, Target.ofName? options.target = some target := by
  obtain ⟨-, -, -, selectable⟩ := accepted_of_check checked
  obtain ⟨target, named, -⟩ := (Option.any_eq_true _ _).mp selectable
  exact ⟨target, named⟩

/-- Options are refused for a reason that the user is told, unless there is a value of another type
in place of a number, a count or a text. -/
theorem onlyTypes_accepted (platform : Platform) (settings : List (String × Value)) :
    OnlyTypes (accepted platform settings) :=
  (onlyTypes_ofSettings settings).chain fun options => (onlyTypes_check options).chain fun _ =>
    onlyTypes_ok _

end Options

namespace MachineFile

variable {load : Loader} {depth : Nat}

/-- What is wrong with a machine file that a handler is there for. -/
inductive Refused (load : Loader) (depth : Nat) :
    Except FileFault (List UInt8) → MachineFault → Prop
  | unreadable {fault : FileFault} : Refused load depth (.error fault) (.file fault)
  | malformed {bytes : List UInt8} {message : String}
      (loaded : load bytes = .error (.malformed message)) :
      Refused load depth (.ok bytes) (.malformed message)
  | notAMapping {bytes : List UInt8} (loaded : load bytes = .ok .other) :
      Refused load depth (.ok bytes) .notAMapping
  | unknownOptions {bytes : List UInt8} {entries : Yaml.Entries} {keys : List (String × Value)}
      {names : List String} (loaded : load bytes = .ok (.mapping entries))
      (shown : CommandLine.namedKeys depth entries = .ok keys)
      (unknown : CommandLine.unknownNames (setFields [] keys) = names) (some : names ≠ []) :
      Refused load depth (.ok bytes) (.unknownOptions names)

/-- What is wrong with a machine file that no handler is there for: the loader has none for it, or
a key cannot be shown. -/
inductive Breaks (load : Loader) (depth : Nat) :
    Except FileFault (List UInt8) → MachineCrash → Prop
  | load {bytes : List UInt8} {crash : MachineCrash} (loaded : load bytes = .error (.crash crash)) :
      Breaks load depth (.ok bytes) crash
  | key {bytes : List UInt8} {entries : Yaml.Entries} {obstacle : Value.Obstacle}
      (loaded : load bytes = .ok (.mapping entries))
      (hidden : CommandLine.namedKeys depth entries = .error obstacle) :
      Breaks load depth (.ok bytes) (crashOf obstacle)

theorem Refused.withMachine {content : Except FileFault (List UInt8)} {fault : MachineFault}
    (refused : Refused load depth content fault) (arguments : List String) (path : String) :
    CommandLine.withMachine load depth arguments path content = .error (.machine path fault) := by
  cases refused with
  | unreadable => rfl
  | malformed loaded | notAMapping loaded =>
      exact CommandLine.withMachine_failed (by rw [ofFile, loaded])
  | unknownOptions loaded shown unknown some =>
      subst unknown
      exact CommandLine.withMachine_unknown (CommandLine.ofFile_mapping loaded shown) some

theorem Breaks.withMachine {content : Except FileFault (List UInt8)} {crash : MachineCrash}
    (breaks : Breaks load depth content crash) (arguments : List String) (path : String) :
    CommandLine.withMachine load depth arguments path content = .error (.crash crash) := by
  cases breaks with
  | load loaded => exact CommandLine.withMachine_broken (by rw [ofFile, loaded])
  | key loaded hidden =>
      refine CommandLine.withMachine_broken ?_
      rw [ofFile, loaded]
      dsimp only
      rw [CommandLine.optionsOf_eq, hidden]

end MachineFile

namespace Run

open CommandLine Emission

variable {σ : Type} {host : Host (StateM σ)} {arguments : List String} {start here there : σ}
  {log : Log} {settings : List (String × Value)} {emitter : Emitter} {bytes : List UInt8}
  {broken : Option StreamFault} {options : Options} {input output : Stream}

section Causes

/-- Whether the command line names a machine file, and with what text. Two dashes behind an
equals sign are none. -/
def NamesMachine (arguments : List String) (use : Option String) : Prop :=
  ∃ reading meanings, read arguments = .ok reading ∧ classifyAll arguments = .ok meanings ∧
    lastField "config" (uses true meanings) = some use

/-- The machine file at this path is refused. -/
inductive RefusesMachine (host : Host (StateM σ)) (arguments : List String) (start : σ) :
    String → MachineFault → Prop
  | content {text : String} {fault : MachineFault} (named : NamesMachine arguments (some text))
      (plain : Path.hasNul (Path.normal text) = false)
      (refused : MachineFile.Refused host.load host.platform.showDepth
        (host.readFile (Path.normal text) start).1 fault) :
      RefusesMachine host arguments start (Path.normal text) fault

inductive MachineBreaks (host : Host (StateM σ)) (arguments : List String) (start : σ) :
    MachineCrash → Prop
  | list (named : NamesMachine arguments none) : MachineBreaks host arguments start .listAsPath
  | nul {text : String} (named : NamesMachine arguments (some text))
      (nul : Path.hasNul (Path.normal text)) : MachineBreaks host arguments start .nulInPath
  | content {text : String} {crash : MachineCrash} (named : NamesMachine arguments (some text))
      (plain : Path.hasNul (Path.normal text) = false)
      (breaks : MachineFile.Breaks host.load host.platform.showDepth
        (host.readFile (Path.normal text) start).1 crash) :
      MachineBreaks host arguments start crash

/-- The file that the log is kept in, if there is one. -/
def logFile (settings : List (String × Value)) : Except Crash (Option String) :=
  Log.fileOf ((settings.lookup "log_filename").getD .null)

/-- The log cannot be set up: for its file, or for its level. -/
inductive LogBreaks (host : Host (StateM σ)) (settings : List (String × Value)) (here : σ) :
    Crash → Prop
  | name {crash : Crash} (unusable : logFile settings = .error crash) :
      LogBreaks host settings here crash
  | nul {path : String} (kept : logFile settings = .ok (some path)) (nul : Path.hasNul path) :
      LogBreaks host settings here .nulInLogFile
  | file {path : String} {fault : FileFault} (kept : logFile settings = .ok (some path))
      (plain : Path.hasNul path = false) (closed : (host.openLog path here).1 = .error fault) :
      LogBreaks host settings here (.logFile fault)
  | level {file : Option String} {crash : Crash} (kept : logFile settings = .ok file)
      (free : ∀ path, file = some path →
        Path.hasNul path = false ∧ (host.openLog path here).1 = .ok ())
      (unknown : Log.thresholdOf ((settings.lookup "log_level").getD .null) = .error crash) :
      LogBreaks host settings here crash

/-- What a setting names is no file: it is no text, or in the home directory of nobody. -/
inductive NameBreaks (host : Host (StateM σ)) (setting : Value) (here : σ) : Crash → Prop
  | type (other : setting.isText = false) :
      NameBreaks host setting here (.notAPath setting.typeName)
  | home {part : String} (text : setting.isText = true)
      (away : Path.homePart? setting.message = some part) (plain : Path.hasNul part = false)
      (unknown : (host.home? part here).1 = none) : NameBreaks host setting here .noHome

/-- Why a run ends in a way that no handler is there for. -/
inductive Breaks (host : Host (StateM σ)) (arguments : List String) (start : σ) : Crash → Prop
  | machine {crash : MachineCrash} (breaks : MachineBreaks host arguments start crash) :
      Breaks host arguments start (.machine crash)
  | log {settings : List (String × Value)} {crash : Crash} {read : σ}
      (taken : settingsOf host arguments start = (.ok settings, read))
      (breaks : LogBreaks host settings read crash) : Breaks host arguments start crash
  | options {settings : List (String × Value)} {log : Log} {here : σ} {purpose : Purpose}
      {typeName : String} (begins : Begins host arguments start settings log here)
      (refused : Options.accepted host.platform settings = .error (.wrongType purpose typeName)) :
      Breaks host arguments start (.emission (.wrongType purpose typeName))
  | events {settings : List (String × Value)} {log : Log} {here : σ} {options : Options}
      {crash : Crash} (begins : Begins host arguments start settings log here)
      (accepted : Options.accepted host.platform settings = .ok options)
      (breaks : NameBreaks host (streamSetting settings "events") here crash) :
      Breaks host arguments start crash
  | output {settings : List (String × Value)} {log : Log} {here there : σ} {options : Options}
      {input : Stream} {crash : Crash} (begins : Begins host arguments start settings log here)
      (accepted : Options.accepted host.platform settings = .ok options)
      (opened : openWith host host.openFile (streamSetting settings "events") here =
        (.ok (.ok input), there))
      (breaks : NameBreaks host (streamSetting settings "output_path") there crash) :
      Breaks host arguments start crash
  | line {log : Log} {options : Options} {input output : Stream} {emitter before : Emitter}
      {bytes : List UInt8} {broken : Option StreamFault} {here middle left there : σ}
      {lines front rest : List String} {line : String} {unread : Option Text.Utf8.Fault}
      {count : Nat} {fault : Fault}
      (replays : Replays host arguments start log options input output emitter bytes lines
        unread broken here)
      (split : lines = front ++ line :: rest)
      (relayed : relay host log output 1 0 emitter front here = (.ok (count, before), middle))
      (fitting : misfit? before line = none) (breaks : before.LineBreaks line fault)
      (passed : passOn host log output before
        (leaves (Emitter.replayLine (1 + front.length) count line) before) middle = (.ok (), left))
      (closed : close host output left = (.ok (), there)) :
      Breaks host arguments start (.emission fault)
  | command {log : Log} {options : Options} {input output : Stream} {emitter before : Emitter}
      {bytes : List UInt8} {broken : Option StreamFault} {here middle left there : σ}
      {lines front rest : List String} {line : String} {unread : Option Text.Utf8.Fault}
      {count : Nat} {event : Event} {typeName : String}
      (replays : Replays host arguments start log options input output emitter bytes lines
        unread broken here)
      (split : lines = front ++ line :: rest)
      (relayed : relay host log output 1 0 emitter front here = (.ok (count, before), middle))
      (misfit : misfit? before line = some (event, typeName))
      (passed : passOn host log output before (leaves (aheadOfLaser event) before) middle =
        (.ok (), left))
      (closed : close host output left = (.ok (), there)) :
      Breaks host arguments start (.emission (.wrongType .command typeName))

/-- Why a run is given up with status one, what the log is told, and where the run is then. -/
inductive GivesUp (host : Host (StateM σ)) (arguments : List String) (start : σ) :
    Log → String → σ → Prop
  | options {settings : List (String × Value)} {log : Log} {here : σ} {fault : Fault}
      (begins : Begins host arguments start settings log here)
      (refused : Options.accepted host.platform settings = .error fault)
      (reported : fault.isReported = true) : GivesUp host arguments start log fault.message here
  | events {settings : List (String × Value)} {log : Log} {here there : σ} {options : Options}
      {complaint : Complaint} (begins : Begins host arguments start settings log here)
      (accepted : Options.accepted host.platform settings = .ok options)
      (closed : openWith host host.openFile (streamSetting settings "events") here =
        (.ok (.error complaint), there)) : GivesUp host arguments start log complaint.message there
  | output {settings : List (String × Value)} {log : Log} {here middle there : σ}
      {options : Options} {input : Stream} {complaint : Complaint}
      (begins : Begins host arguments start settings log here)
      (accepted : Options.accepted host.platform settings = .ok options)
      (opened : openWith host host.openFile (streamSetting settings "events") here =
        (.ok (.ok input), middle))
      (closed : openWith host host.createFile (streamSetting settings "output_path") middle =
        (.ok (.error complaint), there)) : GivesUp host arguments start log complaint.message there
  | line {log : Log} {options : Options} {input output : Stream} {emitter : Emitter}
      {bytes : List UInt8} {broken : Option StreamFault} {here left there : σ}
      {lines : List String} {unread : Option Text.Utf8.Fault} {fault : Fault}
      (replays : Replays host arguments start log options input output emitter bytes lines
        unread broken here)
      (relays : Relays host log output 1 0 emitter lines here (.error (.event fault)) left)
      (closed : close host output left = (.ok (), there))
      (reported : fault.isReported = true) : GivesUp host arguments start log fault.message there
  | undecodable {log : Log} {options : Options} {input output : Stream} {emitter : Emitter}
      {bytes : List UInt8} {broken : Option StreamFault} {here left there : σ}
      {lines : List String} {fault : Text.Utf8.Fault} {reached : Nat × Emitter}
      (replays : Replays host arguments start log options input output emitter bytes lines
        (some fault) broken here)
      (relays : Relays host log output 1 0 emitter lines here (.ok reached) left)
      (closed : close host output left = (.ok (), there)) :
      GivesUp host arguments start log fault.message there
  | unreadable {log : Log} {options : Options} {input output : Stream} {emitter : Emitter}
      {bytes : List UInt8} {here left there : σ} {lines : List String} {fault : StreamFault}
      {reached : Nat × Emitter}
      (replays : Replays host arguments start log options input output emitter bytes lines none
        (some fault) here)
      (relays : Relays host log output 1 0 emitter lines here (.ok reached) left)
      (closed : close host output left = (.ok (), there)) :
      GivesUp host arguments start log fault.message there
  | unwritten {log : Log} {options : Options} {input output : Stream} {emitter : Emitter}
      {bytes : List UInt8} {broken : Option StreamFault} {here there : σ} {lines : List String}
      {unread : Option Text.Utf8.Fault} {fault : StreamFault}
      (replays : Replays host arguments start log options input output emitter bytes lines
        unread broken here)
      (fails : OutputFails host log output emitter lines unread broken here fault there) :
      GivesUp host arguments start log fault.message there

end Causes

section Forward

theorem settingsOf_named {text : String} (named : NamesMachine arguments (some text))
    (host : Host (StateM σ)) (start : σ) : (settingsOf host arguments start).1 =
      if Path.hasNul (Path.normal text) then .error (.crash .nulInPath)
      else withMachine host.load host.platform.showDepth arguments (Path.normal text)
        (host.readFile (Path.normal text) start).1 := by
  obtain ⟨reading, meanings, ended, classified, used⟩ := named
  rw [settingsOf_eq, machinePath_eq classified ended, used]

theorem RefusesMachine.settingsOf {path : String} {fault : MachineFault}
    (refuses : RefusesMachine host arguments start path fault) :
    (Run.settingsOf host arguments start).1 = .error (.machine path fault) := by
  obtain @⟨text, _, named, plain, refused⟩ := refuses
  rw [settingsOf_named named, if_neg (by simp [plain]), refused.withMachine]

theorem MachineBreaks.settingsOf {crash : MachineCrash}
    (breaks : MachineBreaks host arguments start crash) :
    (Run.settingsOf host arguments start).1 = .error (.crash crash) := by
  cases breaks with
  | list named =>
      obtain ⟨reading, meanings, ended, classified, used⟩ := named
      rw [settingsOf_eq, machinePath_eq classified ended, used]
  | nul named nul => rw [settingsOf_named named, if_pos nul]
  | content named plain breaks =>
      rw [settingsOf_named named, if_neg (by simp [plain]), breaks.withMachine]

/-- Makes the file of the log ready, if there is one. -/
def prepare (host : Host (StateM σ)) : Option String → StateM σ (Except Crash Unit)
  | none => pure (.ok ())
  | some path => prepareLog host path

theorem openLog_unnamed {crash : Crash} (unusable : logFile settings = .error crash) :
    openLog host settings here = (.error crash, here) := by
  unfold openLog
  rw [← logFile, unusable]
  rfl

theorem openLog_prepared {file : Option String} {prepared : Except Crash Unit}
    (kept : logFile settings = .ok file) (ready : prepare host file here = (prepared, there)) :
    openLog host settings here =
      (prepared.bind fun _ => (Log.thresholdOf ((settings.lookup "log_level").getD .null)).map
        fun threshold => { threshold, file }, there) := by
  unfold openLog
  rw [← logFile, kept]
  cases file with
  | none =>
      cases ready
      rfl
  | some path =>
      refine (bind_after ready).trans ?_
      cases prepared <;> rfl

theorem prepareLog_nul {path : String} (nul : Path.hasNul path) :
    prepareLog host path here = (.error .nulInLogFile, here) := by
  rw [prepareLog, if_pos nul]
  rfl

theorem prepareLog_plain {path : String} (plain : Path.hasNul path = false)
    {opened : Except FileFault Unit} (ended : (host.openLog path here).1 = opened) :
    prepareLog host path here =
      (opened.mapError .logFile, (host.openLog path here).2) := by
  have ready : host.openLog path here = (opened, (host.openLog path here).2) :=
    Prod.ext ended rfl
  rw [prepareLog, if_neg (by simp [plain]), bind_after ready]
  cases opened <;> rfl

theorem prepare_free {file : Option String} (free : ∀ path, file = some path →
    Path.hasNul path = false ∧ (host.openLog path here).1 = .ok ()) :
    ∃ there, prepare host file here = (.ok (), there) := by
  cases file with
  | none => exact ⟨here, rfl⟩
  | some path =>
      obtain ⟨plain, opened⟩ := free path rfl
      exact ⟨_, prepareLog_plain plain opened⟩

/-- A log that is set up is kept in the file that the settings name, which is ready. -/
theorem openLog_ok (opened : openLog host settings here = (.ok log, there)) :
    prepare host log.file here = (.ok (), there) ∧ logFile settings = .ok log.file := by
  cases kept : logFile settings with
  | error crash =>
      rw [openLog_unnamed kept] at opened
      cases opened
  | ok file =>
      cases ready : prepare host file here with
      | mk prepared left =>
          have made := opened.symm.trans (openLog_prepared kept ready)
          cases prepared with
          | error crash => cases made
          | ok done =>
              obtain ⟨opened, rfl⟩ := Prod.mk.inj made
              obtain ⟨threshold, -, rfl⟩ := map_eq_ok.mp opened.symm
              exact ⟨ready, rfl⟩

theorem LogBreaks.openLog {crash : Crash} (breaks : LogBreaks host settings here crash) :
    (Run.openLog host settings here).1 = .error crash := by
  cases breaks with
  | name unusable => rw [openLog_unnamed unusable]
  | nul kept nul =>
      rw [openLog_prepared kept (prepareLog_nul nul)]
      rfl
  | file kept plain closed =>
      rw [openLog_prepared kept (prepareLog_plain plain closed)]
      rfl
  | level kept free unknown =>
      obtain ⟨there, ready⟩ := prepare_free free
      rw [openLog_prepared kept ready, unknown]
      rfl

theorem located_nowhere {name part : String} (away : Path.homePart? name = some part)
    (unknown : (host.home? part here).1 = none) :
    ∃ there, located host name here = (.error .noHome, there) := by
  have homeless : host.home? part here = (none, (host.home? part here).2) := Prod.ext unknown rfl
  unfold located
  rw [away]
  exact ⟨_, bind_after homeless⟩

theorem NameBreaks.openWith {setting : Value} {crash : Crash}
    (breaks : NameBreaks host setting here crash)
    (opening : String → StateM σ (Except FileFault Unit)) :
    (Run.openWith host opening setting here).1 = .error crash := by
  unfold Run.openWith
  cases breaks with
  | type other =>
      rw [if_pos (by simp [other])]
      rfl
  | @home part text away plain unknown =>
      have named : setting.message ≠ standard := by
        intro same
        have none : Path.homePart? standard = none := by decide +kernel
        rw [same, none] at away
        cases away
      obtain ⟨there, nowhere⟩ := located_nowhere away unknown
      rw [if_neg (by simp [text]), if_neg named, if_neg (by simp [away, plain])]
      exact congrArg Prod.fst (bind_after nowhere)

theorem located_cases (host : Host (StateM σ)) (name : String) (here : σ) :
    (∃ path there, located host name here = (.ok path, there)) ∨
      ∃ part, Path.homePart? name = some part ∧ (host.home? part here).1 = none := by
  unfold located
  cases away : Path.homePart? name with
  | none => exact .inl ⟨_, here, rfl⟩
  | some part =>
      cases home : (host.home? part here).1 with
      | none => exact .inr ⟨part, rfl, home⟩
      | some directory =>
          have found : host.home? part here = (some directory, (host.home? part here).2) :=
            Prod.ext home rfl
          exact .inl ⟨_, _, bind_after found⟩

theorem nameBreaks_of_openWith {setting : Value} {crash : Crash}
    {opening : String → StateM σ (Except FileFault Unit)}
    (failed : (Run.openWith host opening setting here).1 = .error crash) :
    NameBreaks host setting here crash := by
  unfold Run.openWith at failed
  cases text : setting.isText with
  | false =>
      rw [if_pos (by simp [text])] at failed
      cases failed
      exact .type text
  | true =>
      rw [if_neg (by simp [text])] at failed
      split at failed
      · cases failed
      · cases nul : Path.hasNul ((Path.homePart? setting.message).getD "") with
        | true =>
            rw [if_pos nul] at failed
            cases failed
        | false =>
            rw [if_neg (by simp [nul])] at failed
            rcases located_cases host setting.message here with ⟨path, there, found⟩ |
              ⟨part, away, home⟩
            · rw [bind_after found] at failed
              dsimp only at failed
              split at failed
              · cases failed
              · have opened : opening path there =
                    ((opening path there).1, (opening path there).2) := rfl
                rw [bind_after opened] at failed
                cases result : (opening path there).1 with
                | ok done =>
                    rw [result] at failed
                    cases failed
                | error fault =>
                    rw [result] at failed
                    cases failed
            · obtain ⟨there, nowhere⟩ := located_nowhere away home
              rw [bind_after nowhere] at failed
              cases failed
              rw [away] at nul
              exact .home text away nul home

/-- A stream is open, or the user is told why it is not, or its name breaks. -/
theorem stream_cases (host : Host (StateM σ)) (setting : Value) (here : σ)
    (opening : String → StateM σ (Except FileFault Unit)) :
    (∃ stream there, openWith host opening setting here = (.ok (.ok stream), there)) ∨
      (∃ complaint there, openWith host opening setting here = (.ok (.error complaint), there)) ∨
      ∃ crash, NameBreaks host setting here crash := by
  cases result : (openWith host opening setting here).1 with
  | error crash => exact .inr (.inr ⟨crash, nameBreaks_of_openWith result⟩)
  | ok opened =>
      cases opened with
      | ok stream => exact .inl ⟨stream, _, Prod.ext result rfl⟩
      | error complaint => exact .inr (.inl ⟨complaint, _, Prod.ext result rfl⟩)

variable {lines : List String} {unread : Option Text.Utf8.Fault}

/-- What breaks ends the program. -/
theorem Breaks.run {crash : Crash} (breaks : Breaks host arguments start crash) :
    (Run.run host arguments start).1 = .crash crash := by
  cases breaks with
  | machine breaks =>
      rw [run_eq, breaks.settingsOf]
      rfl
  | @log settings _ read taken breaks =>
      have opened : Run.openLog host settings read =
          (.error crash, (Run.openLog host settings read).2) := Prod.ext breaks.openLog rfl
      rw [run_eq, taken]
      exact congrArg Prod.fst (bind_after opened)
  | options begins refused =>
      rw [begins.run, goOn, refused]
      rfl
  | events begins accepted breaks =>
      rw [begins.run, goOn, accepted]
      exact congrArg Prod.fst (bind_after (Prod.ext (breaks.openWith _) rfl))
  | output begins accepted opened breaks =>
      have nameless := breaks.openWith host.createFile
      rw [begins.run, goOn, accepted]
      dsimp only
      rw [bind_after opened]
      exact congrArg Prod.fst (bind_after (Prod.ext nameless rfl))
  | line replays split relayed fitting breaks passed closed =>
      obtain ⟨after, failed⟩ := breaks.replayLine _ _
      rw [leaves_of_error failed] at passed
      rw [← replayLine_fitting fitting] at failed
      have relays := Relays.event split relayed failed passed
      rw [replays.concluded relays.replayInto, conclude_closed closed,
        finish_unreported breaks.unreported]
      rfl
  | command replays split relayed misfit passed closed =>
      have relays := Relays.event split relayed (replayLine_misfit misfit) passed
      rw [replays.concluded relays.replayInto, conclude_closed closed, finish_unreported rfl]
      rfl

/-- A run that is given up has told the log why. -/
theorem GivesUp.run {reason : String} (givesUp : GivesUp host arguments start log reason there) :
    Run.run host arguments start = complain host log reason 1 there := by
  cases givesUp with
  | options begins refused reported =>
      rw [begins.run, goOn, refused]
      dsimp only
      rw [if_pos reported]
  | events begins accepted closed =>
      rw [begins.run, goOn, accepted]
      exact bind_after closed
  | output begins accepted opened closed =>
      rw [begins.run, goOn, accepted]
      exact (bind_after opened).trans (bind_after closed)
  | line replays relays closed reported =>
      rw [replays.concluded relays.replayInto, conclude_closed closed, finish_reported reported]
  | undecodable replays relays closed | unreadable replays relays closed =>
      rw [replays.concluded relays.replayInto, conclude_closed closed]
      rfl
  | unwritten replays fails => rw [replays.run, fails.concluded]

theorem RefusesMachine.run {path : String} {fault : MachineFault}
    (refuses : RefusesMachine host arguments start path fault) :
    Run.run host arguments start =
      (.status 2, (host.printError ((Notice.failure (fault.message path)).logLine ++ "\n")
        (Run.settingsOf host arguments start).2).2) := by
  rw [run_eq, refuses.settingsOf]
  rfl

end Forward

section Cases

/-- The run ends well, or in a way that it has a handler for, or breaks. -/
inductive Ends (host : Host (StateM σ)) (arguments : List String) (start : σ) : Prop
  | breaks {crash : Crash} (breaks : Breaks host arguments start crash) :
      Ends host arguments start
  | refuses {path : String} {fault : MachineFault}
      (refuses : RefusesMachine host arguments start path fault) : Ends host arguments start
  | givesUp {log : Log} {reason : String} {before : σ}
      (givesUp : GivesUp host arguments start log reason before) : Ends host arguments start
  | ends (well : (Run.run host arguments start).1 ∈
      [Outcome.status 0, Outcome.exit 0, Outcome.exit 2]) : Ends host arguments start

variable {lines : List String} {unread : Option Text.Utf8.Fault}

/-- What can be written is a matter of the options, which the replay leaves alone. -/
theorem Replays.precise {count : Nat} {before : Emitter} {front : List String} {middle : σ}
    (replays : Replays host arguments start log options input output emitter bytes lines unread
      broken here)
    (relayed : relay host log output 1 0 emitter front here = (.ok (count, before), middle)) :
    before.IsPrecise := by
  obtain @⟨_, _, _, -, -, created, -, -⟩ := replays
  exact (Emitter.canWrite_of_created created (replayFrom_of_relay relayed)).toIsPrecise

theorem Replays.ends
    (replays : Replays host arguments start log options input output emitter bytes lines unread
      broken here) : Ends host arguments start := by
  cases ended : relay host log output 1 0 emitter lines here with
  | mk reached left =>
      have relays := relays_of_relay ended
      have replayed : replayInto host log output emitter lines unread broken here =
          replayEnd host log unread broken reached left := relays.replayInto
      cases closing : close host output (replayEnd host log unread broken reached left).2 with
      | mk taken there =>
          cases taken with
          | error fault => exact .givesUp (.unwritten replays (.close replayed closing))
          | ok done =>
              cases relays with
              | stream split relayed refused =>
                  exact .givesUp (.unwritten replays
                    (.write (.stream split relayed refused) closing))
              | @event front rest line count before after fault middle _ split relayed failed
                  passed =>
                  cases reported : fault.isReported with
                  | true =>
                      have stopped := Relays.event split relayed failed passed
                      exact .givesUp (.line replays stopped closing reported)
                  | false =>
                      cases misfit : misfit? before line with
                      | some found =>
                          cases (replayLine_misfit misfit).symm.trans failed
                          exact .breaks (.command replays split relayed misfit passed closing)
                      | none =>
                          rw [replayLine_fitting misfit] at failed
                          have precise := replays.precise relayed
                          have breaks := Emitter.lineBreaks_of_error precise failed reported
                          rw [← leaves_of_error failed] at passed
                          exact .breaks (.line replays split relayed misfit breaks passed closing)
              | through through =>
                  cases unread with
                  | some fault => exact .givesUp (.undecodable replays (.through through) closing)
                  | none =>
                      cases broken with
                      | some fault =>
                          exact .givesUp (.unreadable replays (.through through) closing)
                      | none =>
                          have run : Run.run host arguments start =
                              finish host log (.ok ()) there :=
                            (replays.concluded replayed).trans (conclude_closed closing)
                          refine .ends ?_
                          rw [run]
                          exact .head _

theorem create_of_accepted (accepted : Options.accepted host.platform settings = .ok options)
    (stamp : String) : ∃ emitter, Emitter.create options stamp = .ok emitter := by
  obtain ⟨_, _, accepted⟩ := bind_eq_ok.mp accepted
  obtain ⟨_, checked, ⟨⟩⟩ := bind_eq_ok.mp accepted
  obtain ⟨target, named⟩ := Options.target_of_check checked
  exact ⟨_, Emitter.create_ok.mpr ⟨checked, target, named, rfl⟩⟩

theorem Converts.ends (converts : Converts host arguments start log options input output here) :
    Ends host arguments start := by
  have accepted : ∃ settings, Options.accepted host.platform settings = .ok options := by
    obtain @⟨settings, _, _, _, accepted, _, _⟩ := converts
    exact ⟨settings, accepted⟩
  obtain ⟨settings, accepted⟩ := accepted
  obtain ⟨emitter, created⟩ := create_of_accepted accepted (host.stamp here).1
  exact (Replays.reads converts rfl created rfl rfl).ends

theorem Begins.ends (begins : Begins host arguments start settings log here) :
    Ends host arguments start := by
  cases accepted : Options.accepted host.platform settings with
  | error fault =>
      cases reported : fault.isReported with
      | true => exact .givesUp (.options begins accepted reported)
      | false =>
          rcases Options.onlyTypes_accepted _ settings fault accepted with
            told | ⟨purpose, typeName, rfl⟩
          · cases told.symm.trans reported
          · exact .breaks (.options begins accepted)
  | ok options =>
      rcases stream_cases host (streamSetting settings "events") here host.openFile with
        ⟨input, middle, opened⟩ | ⟨complaint, there, closed⟩ | ⟨crash, breaks⟩
      · rcases stream_cases host (streamSetting settings "output_path") middle host.createFile with
          ⟨output, there, created⟩ | ⟨complaint, there, closed⟩ | ⟨crash, breaks⟩
        · exact (Converts.opened begins accepted opened created).ends
        · exact .givesUp (.output begins accepted opened closed)
        · exact .breaks (.output begins accepted opened breaks)
      · exact .givesUp (.events begins accepted closed)
      · exact .breaks (.events begins accepted breaks)

end Cases

end Run

end GantryCode
