import GantryCode.Proofs.Endings
import GantryCode.Proofs.Interruptions

namespace GantryCode

/-! What a run does to the files of its host.

A host need not be looked into: it is enough that the paths lead to files, and that opening,
writing and closing them does what is said of it. A run keeps its log and creates its output, and
it touches no other file.
-/

/-- What can be seen of the states of a host: the files, and what was printed. -/
structure View (σ : Type) where
  File : Type
  /-- The file that a path leads to, or would lead to if it were created. A device is none. -/
  aim : σ → String → Option File
  held : σ → File → Option (List UInt8)
  input : σ → List UInt8
  printed : σ → String
  /-- The text was written into the file at this path since that was created. It may be on its
  way there. -/
  Sends : σ → String → String → Prop

namespace View

variable {σ : Type} {view : View σ} {target : Option view.File} {before middle after : σ}

/-- The file that a stream or a log goes to. -/
def goal (view : View σ) (here : σ) (stream : Stream) : Option view.File :=
  stream.bind (view.aim here)

/-- The paths lead where they led, and at most this file is another or a new one. -/
structure Keeps (view : View σ) (target : Option view.File) (before after : σ) : Prop where
  input : view.input after = view.input before
  aims : ∀ path, view.aim after path = view.aim before path
  held : ∀ file, target ≠ some file → view.held after file = view.held before file

/-- Besides, nothing was printed. -/
structure Touches (view : View σ) (target : Option view.File) (before after : σ) : Prop
    extends Keeps view target before after where
  printed : view.printed after = view.printed before

/-- Besides, what was written into other files was. -/
structure Spares (view : View σ) (target : Option view.File) (before after : σ) : Prop
    extends Touches view target before after where
  sends : ∀ path text, (∀ file, target = some file → view.aim before path ≠ some file) →
    view.Sends before path text → view.Sends after path text

theorem Keeps.goal (keeps : view.Keeps target before after) (stream : Stream) :
    view.goal after stream = view.goal before stream :=
  Option.bind_congr fun path _ => keeps.aims path

theorem Touches.trans (start : view.Touches target before middle)
    (later : view.Touches target middle after) : view.Touches target before after where
  input := later.input.trans start.input
  aims path := (later.aims path).trans (start.aims path)
  held file other := (later.held file other).trans (start.held file other)
  printed := later.printed.trans start.printed

namespace Spares

theorem refl (target : Option view.File) (here : σ) : view.Spares target here here :=
  ⟨⟨⟨rfl, fun _ => rfl, fun _ _ => rfl⟩, rfl⟩, fun _ _ _ sent => sent⟩

theorem trans (start : view.Spares target before middle) (later : view.Spares target middle after) :
    view.Spares target before after where
  toTouches := start.toTouches.trans later.toTouches
  sends path text apart sent := by
    refine later.sends path text (fun file aimed => ?_) (start.sends path text apart sent)
    rw [start.aims]
    exact apart file aimed

/-- What touches no file touches at most this one. -/
theorem widen (spares : view.Spares none before after) : view.Spares target before after where
  toKeeps := ⟨spares.input, spares.aims, fun file _ => spares.held file nofun⟩
  printed := spares.printed
  sends path text _ := spares.sends path text nofun

end Spares

end View

/-- What is relied upon of a host and its files, where nobody else uses them. Reading changes
nothing, what is read is what is there, and a file that cannot be created is left as it is. When a
file that was created is closed, it holds what was written into it; the host may refuse to write or
to close it. -/
structure Host.IsLawful {σ : Type} (host : Host (StateM σ)) (view : View σ) : Prop where
  readFile : ∀ path here, view.Spares none here (host.readFile path here).2
  openFile : ∀ path here, view.Spares none here (host.openFile path here).2
  home? : ∀ part here, view.Spares none here (host.home? part here).2
  stamp : ∀ here, view.Spares none here (host.stamp here).2
  elapsed : ∀ here, view.Spares none here (host.elapsed here).2
  printError : ∀ text here, view.Spares none here (host.printError text here).2
  readStream : ∀ stream here, view.Spares none here (host.readStream stream here).2
  openLog : ∀ path here, view.Spares (view.aim here path) here (host.openLog path here).2
  appendLog : ∀ path text here,
    view.Spares (view.aim here path) here (host.appendLog path text here).2
  heard : ∀ {path here bytes file content},
    (host.readStream (some path) here).1 = (bytes, none) → view.aim here path = some file →
      view.held here file = some content → bytes = content
  heardInput : ∀ {here bytes},
    (host.readStream none here).1 = (bytes, none) → bytes = view.input here
  createFile : ∀ path here, view.Touches (view.aim here path) here (host.createFile path here).2
  created : ∀ {path here}, (host.createFile path here).1 = .ok () →
    view.Sends (host.createFile path here).2 path ""
  refused : ∀ {path here fault}, (host.createFile path here).1 = .error fault →
    view.Spares none here (host.createFile path here).2
  writeFile : ∀ path text here,
    view.Touches (view.aim here path) here (host.writeStream (some path) text here).2
  written : ∀ {path front text here}, (host.writeStream (some path) text here).1 = .ok () →
    view.Sends here path front →
      view.Sends (host.writeStream (some path) text here).2 path (front ++ text)
  print : ∀ text here, view.Keeps none here (host.writeStream none text here).2
  printed : ∀ {text here}, (host.writeStream none text here).1 = .ok () →
    view.printed (host.writeStream none text here).2 = view.printed here ++ text
  closeFile : ∀ path here, view.Touches (view.aim here path) here (host.closeFile path here).2
  closed : ∀ {path text here file}, (host.closeFile path here).1 = .ok () →
    view.Sends here path text → view.aim here path = some file →
      view.held (host.closeFile path here).2 file = some (Desk.bytesOf text)

namespace Run

open Emission View

/-- A line writes on behind what was written, however its replay ends. -/
theorem writes_replayLine {options : Options} {emitter : Emitter} (serves : Serves options emitter)
    (number count : Nat) (line : String) :
    ∃ lines, Emitter.Writes emitter (leaves (replayLine number count line) emitter) lines := by
  cases misfit : misfit? emitter line with
  | none =>
      rw [leaves_of_eq (replayLine_fitting misfit)]
      exact Emitter.writes_replayLine serves number count line
  | some found =>
      obtain ⟨event, typeName⟩ := found
      rw [leaves_of_error (replayLine_misfit misfit)]
      cases event with
      | endRun => exact Emitter.writes_writerly.keepsIdle Emitter.keeps_finishMoves emitter serves
      | _ => exact ⟨[], .refl emitter⟩

variable {σ : Type} {host : Host (StateM σ)} {view : View σ} {arguments : List String}
  {start here middle there : σ} {log : Log} {options : Options}
  {settings : List (String × Value)} {setting : Value} {input output : Stream}
  {emitter before after : Emitter} {lines : List String} {number count : Nat} {text : String}
  {opening : String → StateM σ (Except FileFault Unit)}

variable (lawful : host.IsLawful view)

include lawful

section Stages

theorem spares_tell (log : Log) (notice : Notice) (here : σ) :
    view.Spares (view.goal here log.file) here (tell host log notice here).2 := by
  unfold tell
  split
  · cases log.file with
    | none => exact lawful.printError _ here
    | some file => exact lawful.appendLog file _ here
  · exact .refl _ here

theorem spares_tellAll (log : Log) (notices : List Notice) (here : σ) :
    view.Spares (view.goal here log.file) here (tellAll host log notices here).2 := by
  induction notices generalizing here with
  | nil => exact .refl _ here
  | cons notice rest ih =>
      have first := spares_tell lawful log notice here
      have later := ih (tell host log notice here).2
      rw [first.goal] at later
      exact first.trans later

theorem spares_settingsOf (arguments : List String) (start : σ) :
    view.Spares none start (settingsOf host arguments start).2 := by
  unfold settingsOf
  cases CommandLine.machinePath? arguments with
  | error failure => exact .refl none start
  | ok path =>
      cases path with
      | none => exact .refl none start
      | some path =>
          dsimp only
          split
          · exact .refl none start
          · exact lawful.readFile path start

theorem spares_openLog (opened : openLog host settings here = (.ok log, there)) :
    view.Spares (view.goal here log.file) here there := by
  obtain ⟨ready, -⟩ := openLog_ok opened
  cases kept : log.file with
  | none =>
      rw [kept] at ready
      cases ready
      exact .refl none here
  | some path =>
      rw [kept, prepare] at ready
      cases nul : Path.hasNul path with
      | true =>
          rw [prepareLog_nul nul] at ready
          cases ready
      | false =>
          rw [prepareLog_plain nul rfl] at ready
          have left := congrArg Prod.snd ready
          subst left
          exact lawful.openLog path here

theorem Begins.spares (begins : Begins host arguments start settings log here) :
    view.Spares (view.goal start log.file) start here := by
  obtain @⟨read, opened, taken, logged⟩ := begins
  have reads := spares_settingsOf lawful arguments start
  rw [taken] at reads
  have opens := spares_openLog lawful logged
  have tells := spares_tell lawful log
    (.optionsTaken (Value.object (Options.taken settings)).shown) opened
  rw [opens.goal, reads.goal] at tells
  rw [reads.goal] at opens
  exact reads.widen.trans (opens.trans tells)

theorem spares_located (name : String) (here : σ) :
    view.Spares none here (located host name here).2 := by
  unfold located
  cases Path.homePart? name with
  | none => exact .refl none here
  | some part =>
      have looked : host.home? part here = ((host.home? part here).1, (host.home? part here).2) :=
        rfl
      dsimp only
      rw [bind_after looked]
      cases (host.home? part here).1 <;> exact lawful.home? part here

/-- A stream is opened at the end, if at all. -/
theorem openWith_cases {result : Except Crash (Except Complaint Stream)}
    (ended : openWith host opening setting here = (result, there)) :
    (view.Spares none here there ∧ ∀ path, result ≠ .ok (.ok (some path))) ∨
      ∃ path middle, view.Spares none here middle ∧
        (opening path middle = (.ok (), there) ∧ result = .ok (.ok (some path)) ∨
          ∃ fault, opening path middle = (.error fault, there) ∧
            result = .ok (.error (.file fault))) := by
  unfold openWith at ended
  split at ended
  · cases ended
    exact .inl ⟨.refl none here, nofun⟩
  split at ended
  · cases ended
    exact .inl ⟨.refl none here, nofun⟩
  split at ended
  · cases ended
    exact .inl ⟨.refl none here, nofun⟩
  have leads := spares_located lawful setting.message here
  cases found : located host setting.message here with
  | mk result middle =>
      rw [found] at leads
      rw [bind_after found] at ended
      cases result with
      | error crash =>
          cases ended
          exact .inl ⟨leads, nofun⟩
      | ok path =>
          dsimp only at ended
          split at ended
          · cases ended
            exact .inl ⟨leads, nofun⟩
          · refine .inr ⟨path, middle, leads, ?_⟩
            cases opened : opening path middle with
            | mk done left =>
                rw [bind_after opened] at ended
                cases done with
                | ok =>
                    cases ended
                    exact .inl ⟨rfl, rfl⟩
                | error fault =>
                    cases ended
                    exact .inr ⟨fault, rfl, rfl⟩

theorem spares_openFile {result : Except Crash (Except Complaint Stream)}
    (ended : openWith host host.openFile setting here = (result, there)) :
    view.Spares none here there := by
  rcases openWith_cases lawful ended with ⟨spares, -⟩ | ⟨path, middle, leads, opened⟩
  · exact spares
  · have opens := lawful.openFile path middle
    rcases opened with ⟨opened, -⟩ | ⟨fault, opened, -⟩
    all_goals
      rw [opened] at opens
      exact leads.trans opens

/-- Nothing is created where nothing can be. -/
theorem spares_createFile {complaint : Complaint}
    (closed : openWith host host.createFile setting here = (.ok (.error complaint), there)) :
    view.Spares none here there := by
  rcases openWith_cases lawful closed with ⟨spares, -⟩ | ⟨path, middle, leads, opened⟩
  · exact spares
  · rcases opened with ⟨-, ⟨⟩⟩ | ⟨fault, opened, -⟩
    have refused := lawful.refused (congrArg Prod.fst opened)
    rw [opened] at refused
    exact leads.trans refused

end Stages

section Delivery

omit lawful

/-- Two streams, or the log and a stream, do not lead to one file. -/
def Differ (view : View σ) (start : σ) (stream other : Stream) : Prop :=
  ∀ file, view.goal start stream = some file → view.goal start other ≠ some file

/-- A run is under way: since it was started, this text went into its output, and nothing into
other files than that of its log. -/
structure Underway (view : View σ) (start : σ) (log : Log) (output : Stream) (text : String)
    (here : σ) : Prop where
  input : view.input here = view.input start
  aims : ∀ path, view.aim here path = view.aim start path
  held : ∀ file, view.goal start output ≠ some file → view.goal start log.file ≠ some file →
    view.held here file = view.held start file
  printed : view.printed here =
    if output = none then view.printed start ++ text else view.printed start
  sends : ∀ path, output = some path → view.Sends here path text

/-- What a run has written that has come to its end: this text into its output, and nothing into
other files than that of its log. -/
structure Delivers (view : View σ) (start : σ) (log : Log) (output : Stream) (text : String)
    (after : σ) : Prop where
  aims : ∀ path, view.aim after path = view.aim start path
  printed : view.printed after =
    if output = none then view.printed start ++ text else view.printed start
  filled : ∀ file, view.goal start output = some file →
    view.held after file = some (Desk.bytesOf text)
  others : ∀ file, view.goal start output ≠ some file → view.goal start log.file ≠ some file →
    view.held after file = view.held start file

namespace Underway

theorem goal (underway : Underway view start log output text here) (stream : Stream) :
    view.goal here stream = view.goal start stream :=
  Option.bind_congr fun path _ => underway.aims path

/-- Whatever is done to the log, the run is as far as it was. -/
theorem spares {target : Option view.File} (underway : Underway view start log output text here)
    (differ : Differ view start log.file output) (spares : view.Spares target here there)
    (only : ∀ file, target = some file → view.goal start log.file = some file) :
    Underway view start log output text there where
  input := spares.input.trans underway.input
  aims path := (spares.aims path).trans (underway.aims path)
  held file apart other := by
    rw [spares.held file fun aimed => other (only file aimed)]
    exact underway.held file apart other
  printed := spares.printed.trans underway.printed
  sends path same := by
    refine spares.sends path text (fun file aimed => ?_) (underway.sends path same)
    rw [underway.aims]
    subst same
    exact differ file (only file aimed)

include lawful

theorem tell (underway : Underway view start log output text here)
    (differ : Differ view start log.file output) (notice : Notice) :
    Underway view start log output text (tell host log notice here).2 :=
  underway.spares differ (spares_tell lawful log notice here) fun _ aimed =>
    (underway.goal log.file).symm.trans aimed

theorem tellAll (underway : Underway view start log output text here)
    (differ : Differ view start log.file output) (notices : List Notice) :
    Underway view start log output text (tellAll host log notices here).2 :=
  underway.spares differ (spares_tellAll lawful log notices here) fun _ aimed =>
    (underway.goal log.file).symm.trans aimed

theorem write {more : String} (underway : Underway view start log output text here)
    (sent : host.writeStream output more here = (.ok (), there)) :
    Underway view start log output (text ++ more) there := by
  have ended := congrArg Prod.fst sent
  have left := congrArg Prod.snd sent
  subst left
  cases output with
  | none =>
      have keeps := lawful.print more here
      refine ⟨keeps.input.trans underway.input, fun path => (keeps.aims path).trans
        (underway.aims path), fun file apart other => ?_, ?_, nofun⟩
      · rw [keeps.held file nofun]
        exact underway.held file apart other
      · rw [lawful.printed ended, underway.printed]
        simp [String.append_assoc]
  | some path =>
      have touches := lawful.writeFile path more here
      have aimed : view.aim here path = view.goal start (some path) := underway.aims path
      refine ⟨touches.input.trans underway.input, fun other => (touches.aims other).trans
        (underway.aims other), fun file apart other => ?_, ?_, fun other same => ?_⟩
      · rw [touches.held file (aimed ▸ apart)]
        exact underway.held file apart other
      · rw [touches.printed, underway.printed]
        simp
      · cases same
        exact lawful.written ended (underway.sends path rfl)

theorem sendAll {lines : List Line} (underway : Underway view start log output text here)
    (sent : sendAll host output lines here = (.ok (), there)) :
    Underway view start log output (text ++ Line.joined lines) there := by
  induction lines generalizing text here with
  | nil =>
      cases sent
      simpa [Line.joined] using underway
  | cons line rest ih =>
      rw [Run.sendAll] at sent
      cases first : host.writeStream output line.text here with
      | mk taken middle =>
          rw [bind_after first] at sent
          cases taken with
          | error fault => cases sent
          | ok done =>
              have onward := ih (underway.write lawful first) sent
              simpa [Line.joined, String.append_assoc] using onward

theorem passOn {more : List Line} (differ : Differ view start log.file output)
    (writes : Emitter.Writes before after more)
    (underway : Underway view start log output before.writer.text here)
    (passed : passOn host log output before after here = (.ok (), there)) :
    Underway view start log output after.writer.text there := by
  have lines : (after.writer.written.extract before.writer.written.size
      after.writer.written.size).toList = more := by
    have sizes : after.writer.written.toList.length =
        before.writer.written.toList.length + more.length := by
      rw [writes.written, List.length_append]
    simp only [Array.length_toList] at sizes
    rw [Array.toList_extract, writes.written, sizes]
    simp [List.extract]
  have text : after.writer.text = before.writer.text ++ Line.joined more := by
    rw [Writer.text, writes.written]
    simp [Writer.text, Line.joined]
  rw [text]
  have told := underway.tellAll lawful differ
    (after.notices.extract before.notices.size after.notices.size).toList
  refine told.sendAll lawful ?_
  rw [← lines]
  exact passed

theorem relay (differ : Differ view start log.file output)
    (serves : Serves options emitter)
    (underway : Underway view start log output emitter.writer.text here)
    {reached : Nat}
    (relayed : relay host log output number count emitter lines here =
      (.ok (reached, after), there)) :
    Underway view start log output after.writer.text there := by
  induction lines generalizing number count emitter here with
  | nil =>
      cases relayed
      exact underway
  | cons line rest ih =>
      rw [relay_cons] at relayed
      cases passed : Run.passOn host log output emitter
          (leaves (replayLine number count line) emitter) here with
      | mk taken middle =>
          rw [bind_after passed] at relayed
          cases taken with
          | error fault => cases relayed
          | ok done =>
              obtain ⟨more, writes⟩ := writes_replayLine serves number count line
              have onward := underway.passOn lawful differ writes passed
              cases first : replayLine number count line emitter with
              | error fault after =>
                  rw [first] at relayed
                  cases relayed
              | ok counted between =>
                  rw [first] at relayed
                  rw [leaves_of_ok first] at writes onward
                  exact ih (writes.serves serves) onward relayed

/-- A line that fails has its part in the output, too: what it wrote before it failed. -/
theorem failedLine {front : List String} {line : String} {reached : Nat}
    {stopped : Emitter} {fault : Fault} (differ : Differ view start log.file output)
    (serves : Serves options emitter)
    (underway : Underway view start log output emitter.writer.text here)
    (relayed : Run.relay host log output number count emitter front here =
      (.ok (reached, before), middle))
    (failed : replayLine (number + front.length) reached line before = .error fault stopped)
    (passed : Run.passOn host log output before stopped middle = (.ok (), there)) :
    Underway view start log output stopped.writer.text there := by
  have onward := underway.relay lawful differ serves relayed
  have servesOn := (Emitter.alike_replayFrom serves (replayFrom_of_relay relayed)).serves serves
  obtain ⟨more, writes⟩ := writes_replayLine servesOn (number + front.length) reached line
  rw [leaves_of_error failed] at writes
  exact onward.passOn lawful differ writes passed

theorem close (underway : Underway view start log output text here)
    (closed : close host output here = (.ok (), there)) :
    Delivers view start log output text there := by
  cases output with
  | none =>
      cases closed
      exact ⟨underway.aims, underway.printed, nofun, underway.held⟩
  | some path =>
      have ended := congrArg Prod.fst closed
      have left := congrArg Prod.snd closed
      subst left
      have touches := lawful.closeFile path here
      have aimed : view.aim here path = view.goal start (some path) := underway.aims path
      refine ⟨fun other => (touches.aims other).trans (underway.aims other),
        touches.printed.trans underway.printed, fun _ goal => ?_, fun _ apart other => ?_⟩
      · exact lawful.closed ended (underway.sends path rfl) (aimed.trans goal)
      · exact (touches.held _ (aimed ▸ apart)).trans (underway.held _ apart other)

end Underway

end Delivery

end Run

end GantryCode
