import GantryCode.Proofs.NumberWords
import GantryCode.Proofs.Renditions
import GantryCode.Proofs.ReplayFaults

namespace GantryCode

open Decimal (IsFinite)

/-! The numbers that a stream of events has written.

What is written are the numbers that the events ask for, as the emitter figures them, and
the rapid feed rates and places of the options. None of those that are asked for is left
out for good: a word that is not written again was written before. So the words of the text
hold decimal numbers just if every number is finite, and an event that brings in another one
spoils the text.
-/

/-- The numbers of the options that are written as they are are finite. -/
def Options.WritesFinite (options : Options) : Prop :=
  ∀ quantity ∈ options.rapidFeeds ++ options.places, ∀ number,
    quantity.toFloat .text = .ok number → IsFinite number

theorem Options.usual_writesFinite : Options.WritesFinite {} := by
  intro quantity among number found
  simp only [rapidFeeds, places, List.mem_append, List.mem_cons, List.not_mem_nil, or_false,
    Option.toList_none] at among
  rcases among with rfl | rfl <;> cases found <;> decide +kernel

namespace Emitter

open Emission Reading

variable {options : Options} {emitter before after : Emitter} {value : Float}

/-- The number is written behind a letter on some line. -/
def Wrote (emitter : Emitter) (value : Float) : Prop :=
  ∃ line ∈ emitter.writer.written.toList, ∃ letter places,
    letter :: (Decimal.rounded places value).toList ∈ numberWords (words line.chars)

theorem Wrote.later {lines : List Line} (wrote : before.Wrote value)
    (writes : Writes before after lines) : after.Wrote value := by
  obtain ⟨line, among, letter, places, written⟩ := wrote
  refine ⟨line, ?_, letter, places, written⟩
  rw [writes.written]
  exact List.mem_append_left _ among

theorem Wrote.of_word {line : Line} {letter : Letter} {places : Nat}
    (among : line ∈ emitter.writer.written.toList)
    (word : (letter.name ++ Decimal.rounded places value).toList ∈ numberWords (words line.chars)) :
    emitter.Wrote value := by
  have single : ∃ c, letter.name.toList = [c] := by cases letter <;> exact ⟨_, rfl⟩
  obtain ⟨c, name⟩ := single
  rw [String.toList_append, name] at word
  exact ⟨line, among, c, places, word⟩

/-- What a slot holds was written in a word. -/
theorem ReadsBack.wrote (reads : ReadsBack options emitter) {letter : Letter} {places : Nat}
    (held : emitter.slots.get letter = some (Decimal.rounded places value)) :
    emitter.Wrote value := by
  have known := reads.within letter _ held
  rcases Registers.readLines_source known with unknown | ⟨line, among, written⟩
  · cases unknown
  · exact .of_word among written

section Events

variable {event : Event}

theorem performed_writes (quiet : options.CuttersAreQuiet) (serves : Serves options before)
    (returned : perform event before = .ok () after) : ∃ lines, Writes before after lines := by
  have heard := (heard_writerly quiet).keeps_perform event before serves
  rw [leaves_of_ok returned] at heard
  obtain ⟨lines, writes, -⟩ := heard
  exact ⟨lines, writes⟩

/-- A place that an event sends the tool to is written behind the event, or was before. -/
theorem wrote_of_sent (serves : Serves options before) (reads : ReadsBack options after)
    (returned : perform event before = .ok () after)
    (sent : Sends before.options.toolOffset event.destination value) : after.Wrote value := by
  obtain ⟨place, axis, shifts, given⟩ := sent
  have moved := shiftedTarget_get shifts axis
  cases asked : event.destination.get axis with
  | none =>
      rw [asked, given] at moved
      cases moved
  | some amount =>
      obtain ⟨text, shown, held⟩ := perform_held serves returned asked
      rw [asked, given, Option.mapM_some] at moved
      cases shift : (before.options.toolOffset.get axis).shift amount with
      | error fault =>
          rw [shift] at moved
          cases moved
      | ok number =>
          rw [shift] at moved
          cases moved
          rw [axisText, shift] at shown
          obtain ⟨places, rfl⟩ := Writer.valueText_rounded shown
          exact reads.wrote held

theorem wrote_of_fed {rate : Float} (serves : Serves options before)
    (reads : ReadsBack options after) (returned : perform event before = .ok () after)
    (fed : event.feed = some rate) : after.Wrote rate :=
  reads.wrote (perform_fed serves returned fed)

theorem dwell_ok {seconds : Float} (returned : dwell seconds before = .ok () after) :
    ∃ text, before.writer.valueText false (clampDwell seconds).1 = .ok text ∧
      after.writer = before.writer.command [before.writer.target.code? .dwell,
        some ((before.writer.target.code? .dwellParam).getD "" ++ text)] (some "Dwell") := by
  have line {emitter : Emitter} {lasts : Float} (ended : (do
      let name := (← code .dwellParam).getD ""
      let text ← fromResult ((← get).writer.valueText false lasts)
      command [← code .dwell, some (name ++ text)] (some "Dwell")) emitter = .ok () after) :
      ∃ text, emitter.writer.valueText false lasts = .ok text ∧
        after.writer = emitter.writer.command [emitter.writer.target.code? .dwell,
          some ((emitter.writer.target.code? .dwellParam).getD "" ++ text)] (some "Dwell") := by
    rw [code_bind_apply, get_bind_apply, fromResult, ofExcept_bind_apply] at ended
    cases shown : emitter.writer.valueText false lasts with
    | error fault =>
        rw [shown] at ended
        cases ended
    | ok text =>
        rw [shown] at ended
        cases ended
        exact ⟨text, rfl, rfl⟩
  unfold dwell at returned
  dsimp only at returned
  cases noted : (clampDwell seconds).2 with
  | none =>
      rw [noted] at returned
      exact line returned
  | some notice =>
      rw [noted] at returned
      obtain ⟨_, middle, told, ended⟩ := bind_ok returned
      cases told
      have found := line ended
      exact found

theorem wrote_of_dwell {seconds : Float} (returned : dwell seconds before = .ok () after) :
    after.Wrote (clampDwell seconds).1 := by
  obtain ⟨text, shown, written⟩ := dwell_ok returned
  obtain ⟨places, rfl⟩ := Writer.valueText_rounded shown
  have body := tokens_dwell before.writer.target before.writer.target
    (Decimal.rounded_isNumberText places (clampDwell seconds).1)
  obtain ⟨line, made⟩ := before.writer.exists_commandLine (some "Dwell") (by rw [body]; simp)
  have words := Writer.commandLine_words _ _ (by rw [body]; rfl) made
  have name : ∃ letter, ((before.writer.target.code? .dwellParam).getD "").toList = [letter] := by
    cases before.writer.target <;> exact ⟨_, rfl⟩
  obtain ⟨letter, name⟩ := name
  refine ⟨line, ?_, letter, places, ?_⟩
  · rw [written, Writer.written_command, made]
    simp
  · rw [words, body, String.toList_append, name]
    exact List.mem_singleton_self _

theorem wrote_of_center {move : ArcMove} {plane : Plane} {start center place : Coordinates Float}
    {axis : Axis} (inPlane : move.plane = some plane)
    (begun : (move.start <|> before.position.complete?) = some start) (among : axis ∈ plane.axes)
    (centered : shifted before.options.toolOffset move.center = .ok center)
    (placed : shifted before.options.toolOffset start = .ok place)
    (returned : circular move before = .ok () after) :
    after.Wrote (center.get axis - place.get axis) := by
  obtain ⟨origin, offsets, finish, line, known, figures, -, -, cuts⟩ :=
    circular_cuts inPlane returned
  cases begun.symm.trans known
  obtain ⟨other, begin, same, sameToo, -, rfl⟩ := arcFigures_ok figures
  cases centered.symm.trans same
  cases placed.symm.trans sameToo
  let sent := before.sentTo (move.finish.map some)
  let offset := center.zipWith (· - ·) place
  have word : some (axis.offsetLetter.name ++ sent.placesText (offset.get axis)) ∈
      sent.arcWords move plane offset finish := by
    refine List.mem_append_right _ (List.mem_append_left _ ?_)
    rw [Slots.forcedWords, centerFigures, List.map_map]
    exact List.mem_map.mpr ⟨axis, among, rfl⟩
  have heard : (axis.offsetLetter.name ++ sent.placesText (offset.get axis)).toList ∈
      moveWords (words line.chars) := by
    rw [moveWords_arc _ _ _ _ _ cuts.words]
    exact List.mem_map.mpr ⟨_, by simpa using word, rfl⟩
  have shown : line ∈ after.writer.written.toList := by
    rw [cuts.moves.tells.written]
    simp
  rw [Coordinates.get_zipWith] at heard
  exact .of_word shown (List.mem_append_left _ (List.mem_append_left _ heard))

theorem wrote_of_chord {feed : Option Float} {points : List (Coordinates Float)}
    (feeds : options.FeedsInRange) (quiet : options.CuttersAreQuiet)
    (reads : ReadsBack options before) (returned : linearThrough feed points before = .ok () after)
    {point : Coordinates Float} (among : point ∈ points)
    (sent : Sends options.toolOffset (point.map some) value) : after.Wrote value := by
  induction points generalizing before with
  | nil => cases among
  | cons first rest ih =>
      obtain ⟨_, middle, ended, later⟩ := bind_ok returned
      have ended : perform (.linear (first.map some) feed) before = .ok () middle := ended
      have behind := reads.obey feeds quiet (.event (.linear (first.map some) feed))
      rw [obey, leaves_of_ok ended] at behind
      rcases List.mem_cons.mp among with rfl | further
      · have told := keeps_linearThrough feed rest middle behind.toServes
        rw [leaves_of_ok later] at told
        obtain ⟨lines, tells⟩ := told
        rw [← reads.options] at sent
        exact (wrote_of_sent reads.toServes behind ended sent).later tells.toWrites
      · exact ih behind later further

theorem ReadsBack.noticing (reads : ReadsBack options emitter) (notices : Array Notice) :
    ReadsBack options { emitter with notices } :=
  ⟨⟨reads.options, reads.mode⟩, reads.flat, reads.within⟩

/-- What an event asks for is written once it has ended well. -/
theorem wrote_of_asked (feeds : options.FeedsInRange) (quiet : options.CuttersAreQuiet)
    (reads : ReadsBack options before) (returned : perform event before = .ok () after)
    (asked : before.Asks event value) : after.Wrote value := by
  have later := reads.obey feeds quiet (.event event)
  rw [obey, leaves_of_ok returned] at later
  cases asked with
  | dwell seconds => exact wrote_of_dwell returned
  | rapid sent => exact wrote_of_sent reads.toServes later returned sent
  | linear feed sent => exact wrote_of_sent reads.toServes later returned sent
  | linearFeed target rate => exact wrote_of_fed reads.toServes later returned rfl
  | arcFeed fed => exact wrote_of_fed reads.toServes later returned fed
  | @planar move plane start value inPlane begun bent =>
      cases bent with
      | @finish place axis sent =>
          refine wrote_of_sent reads.toServes later returned ⟨place.map some, axis, ?_, ?_⟩
          · exact (shiftedTarget_some _ _).trans (by rw [sent]; rfl)
          · rw [Coordinates.get_map]
      | center among centered placed =>
          exact wrote_of_center inPlane begun among centered placed returned
      | feed fed => exact wrote_of_fed reads.toServes later returned fed
  | @chord move start axis point points value noPlane turned begun divided among sent =>
      have chorded : circular move before = .ok () after := returned
      simp only [circular, noPlane, turned] at chorded
      obtain ⟨origin, middle, found, chorded⟩ := bind_ok chorded
      obtain ⟨known, rfl⟩ := startPoint_ok found
      cases begun.symm.trans known
      obtain ⟨notices, run⟩ := chordedArc_run move start axis middle
      rw [divided] at run
      rw [reads.options] at sent
      exact wrote_of_chord feeds quiet (reads.noticing notices) (run.symm.trans chorded) among sent

end Events

section Streams

variable {start : Emitter} {lines : List String} {event : Event} {number count reached : Nat}

/-- Replay of the lines comes to a line with the event, with the emitter as it is then. -/
inductive Reaches : Emitter → List String → Emitter → Event → Prop where
  | here {emitter : Emitter} {line : String} {value : Value} {event : Event} (rest : List String)
      (read : Event.readLine emitter.options.platform line = .ok (some value))
      (known : Event.ofValue emitter.options.platform value = .ok event) :
      Reaches emitter (line :: rest) emitter event
  | aside {emitter before : Emitter} {line : String} {rest : List String} {event : Event}
      (read : Event.readLine emitter.options.platform line = .ok none)
      (later : Reaches emitter rest before event) : Reaches emitter (line :: rest) before event
  | behind {emitter middle before : Emitter} {line : String} {rest : List String} {value : Value}
      {event : Event} (read : Event.readLine emitter.options.platform line = .ok (some value))
      (performed : dispatch value emitter = .ok () middle)
      (later : Reaches middle rest before event) : Reaches emitter (line :: rest) before event

/-- A line that is replayed holds no event, or one that is performed. -/
theorem replayLine_ok {line : String}
    (replayed : replayLine number count line emitter = .ok reached after) :
    Event.readLine emitter.options.platform line = .ok none ∧ after = emitter ∨
      ∃ value event, Event.readLine emitter.options.platform line = .ok (some value) ∧
        Event.ofValue emitter.options.platform value = .ok event ∧
        dispatch value emitter = .ok () after ∧ perform event emitter = .ok () after := by
  rw [replayLine_run] at replayed
  obtain ⟨found, _, looked, ended⟩ := bind_ok (atLine_ok.mp replayed)
  obtain ⟨read, still⟩ := ofExcept_ok looked
  rw [still] at ended
  cases found with
  | none =>
      cases ended
      exact .inl ⟨read, rfl⟩
  | some value =>
      obtain ⟨_, _, dispatched, counted⟩ := bind_ok ended
      cases counted
      have run := (dispatch_run value emitter).symm.trans dispatched
      cases known : Event.ofValue emitter.options.platform value with
      | error fault => cases known ▸ run
      | ok event => exact .inr ⟨value, event, read, known, dispatched, by rwa [known] at run⟩

/-- What the events of a stream ask for is written at its end. -/
theorem wrote_of_reached (feeds : options.FeedsInRange) (quiet : options.CuttersAreQuiet)
    (reads : ReadsBack options start)
    (replayed : replayFrom number count lines start = .ok reached after) :
    ReadsBack options after ∧ (∃ more, Writes start after more) ∧
      ∀ before event value, Reaches start lines before event → before.Asks event value →
        after.Wrote value := by
  induction lines generalizing number count start with
  | nil =>
      cases replayed
      exact ⟨reads, ⟨[], .refl _⟩, fun _ _ _ reaches => nomatch reaches⟩
  | cons line rest ih =>
      obtain ⟨_, middle, first, later⟩ := bind_ok replayed
      rcases replayLine_ok first with
        ⟨read, rfl⟩ | ⟨value, event, read, known, dispatched, performed⟩
      · obtain ⟨kept, writes, written⟩ := ih reads later
        refine ⟨kept, writes, ?_⟩
        intro before event value reaches asked
        cases reaches with
        | here _ other _ => cases read.symm.trans other
        | aside _ further => exact written before event value further asked
        | behind other _ _ => cases read.symm.trans other
      · have behind := reads.obey feeds quiet (.event event)
        rw [obey, leaves_of_ok performed] at behind
        obtain ⟨kept, ⟨more, writes⟩, written⟩ := ih behind later
        obtain ⟨front, here⟩ := performed_writes quiet reads.toServes performed
        refine ⟨kept, ⟨front ++ more, here.trans writes⟩, ?_⟩
        intro before event value reaches asked
        cases reaches with
        | here _ same sameToo =>
            cases read.symm.trans same
            cases known.symm.trans sameToo
            exact (wrote_of_asked feeds quiet reads performed asked).later writes
        | aside other _ => cases read.symm.trans other
        | behind same sameToo further =>
            cases read.symm.trans same
            cases dispatched.symm.trans sameToo
            exact written before event value further asked

/-- A stream is replayed in phrases of the known forms, with the numbers that its events ask
for. -/
theorem abreast_replayed {rendition : Rendition} (same : rendition.Match start start)
    (allowed : ∀ quantity ∈ rendition.options.places, ∀ amount,
      quantity.toFloat .text = .ok amount → rendition.allows amount)
    (asked : ∀ before event value, Reaches start lines before event → before.Asks event value →
      rendition.allows value)
    (replayed : replayFrom number count lines start = .ok reached after) :
    rendition.Abreast start start after after := by
  induction lines generalizing number count start with
  | nil =>
      cases replayed
      exact same.abreast
  | cons line rest ih =>
      obtain ⟨_, middle, first, later⟩ := bind_ok replayed
      rcases replayLine_ok first with
        ⟨read, rfl⟩ | ⟨value, event, read, known, dispatched, performed⟩
      · exact ih same (fun before event value reaches =>
          asked before event value (.aside read reaches)) later
      · have here := (Rendition.ends_perform same allowed fun value =>
          asked start event value (.here rest read known)).leaves.2
        rw [leaves_of_ok performed] at here
        exact here.trans (ih here.toMatch (fun before event value reaches =>
          asked before event value (.behind read dispatched reaches)) later)

end Streams

/-- A stream that is accepted has written decimal numbers only, if and only if every number
that one of its events asked for was finite: the places it was sent to with the tool offset,
the centers and chords of its arcs, its feed rates and its dwells. -/
theorem numbers_of_accepted {options : Options} {stamp : String} {start after : Emitter}
    (created : create options stamp = .ok start) (feeds : options.FeedsInRange)
    (quiet : options.CuttersAreQuiet) (finite : options.WritesFinite) {lines : List String}
    {count : Nat} (accepted : replay lines start = .ok count after) :
    (∀ line ∈ Text.splitLines after.writer.text.toList, ∀ word ∈ numberWords (words line),
        IsNumberWord word) ↔
      ∀ before event value, Reaches start lines before event → before.Asks event value →
        IsFinite value := by
  obtain ⟨reached, middle, replayed, ended⟩ := bind_ok accepted
  have text : after.writer.text = middle.writer.text := by
    cases ended
    rfl
  obtain ⟨reads, -, written⟩ :=
    wrote_of_reached feeds quiet (create_isFresh created).readsBack replayed
  have shown : Text.splitLines after.writer.text.toList =
      middle.writer.written.toList.map Line.chars := by
    rw [text, Writer.text]
    exact Line.splitLines_joined reads.flat
  rw [shown]
  constructor
  · intro numeric before event value reaches asked
    obtain ⟨line, among, letter, places, word⟩ := written before event value reaches asked
    obtain ⟨_, -, number, decimal, same⟩ := numeric _ (List.mem_map_of_mem among) _ word
    cases same
    exact (Decimal.rounded_isDecimal_iff places value).mp decimal
  · intro asked
    let rendition : Rendition := ⟨options, IsFinite, Eq⟩
    obtain ⟨far, made, same⟩ := Rendition.create_match rendition created options.showComments
      options.showLineNumbers stamp
    cases created.symm.trans made
    have places : ∀ quantity ∈ options.places, ∀ number, quantity.toFloat .text = .ok number →
        IsFinite number := fun quantity among => finite quantity (List.mem_append_right _ among)
    obtain ⟨script, _, said, -, alike⟩ := (abreast_replayed same places asked replayed).said
    obtain ⟨lines, -⟩ := said.of_created created
    rw [lines]
    intro chars member
    obtain ⟨line, among, rfl⟩ := List.mem_map.mp member
    exact Script.numberWords_lines quiet
      (fun quantity among => finite quantity (List.mem_append_left _ among))
      (Rendition.said_alike alike).1 _ _ _ line among

theorem numbers_of_dwell :
    let start := fresh {}
    let lines := ["\x7b\"event\": \"dwell\", \"seconds\": 2\x7d"]
    ∃ count after, create {} "" = .ok start ∧ Options.FeedsInRange {} ∧
      Options.CuttersAreQuiet {} ∧ Options.WritesFinite {} ∧ replay lines start = .ok count after ∧
      after.writer.text = "G4 S2 ; Dwell\n" ∧
      ∀ before event value, Reaches start lines before event → before.Asks event value →
        IsFinite value := by
  intro start lines
  have created : create {} "" = .ok start := create_fresh (by decide +kernel) rfl
  have feeds : Options.FeedsInRange {} := ⟨⟨3000, rfl⟩, ⟨300, rfl⟩⟩
  have quiet : Options.CuttersAreQuiet {} := by constructor <;> decide +kernel
  have well : endsWell (replay lines) start = true := by decide +kernel
  have text : (leaves (replay lines) start).writer.text = "G4 S2 ; Dwell\n" := by decide +kernel
  cases accepted : replay lines start with
  | error fault after =>
      rw [endsWell, accepted] at well
      cases well
  | ok count after =>
      rw [leaves_of_ok accepted] at text
      refine ⟨count, after, created, feeds, quiet, Options.usual_writesFinite, rfl, text, ?_⟩
      refine (numbers_of_accepted created feeds quiet Options.usual_writesFinite accepted).mp ?_
      rw [text]
      have only : ∀ line ∈ Text.splitLines "G4 S2 ; Dwell\n".toList,
          ∀ word ∈ numberWords (words line), word = ['S', '2'] := by decide +kernel
      intro line among word member
      rw [only line among word member]
      exact ⟨'S', by decide, ['2'], Decimal.isDecimal_digit (by decide), rfl⟩

/-- What is not a number is a number to the reader of events, and is written as it is. -/
theorem unnumbered_rapid_is_written :
    let start := fresh {}
    let lines := ["\x7b\"event\": \"rapid\", \"x\": NaN\x7d"]
    create {} "" = .ok start ∧ Options.FeedsInRange {} ∧ Options.CuttersAreQuiet {} ∧
      Options.WritesFinite {} ∧ endsWell (replay lines) start = true ∧
      (leaves (replay lines) start).writer.text = "G0 Xnan F3000\n" ∧
      "Xnan".toList ∈ numberWords (words "G0 Xnan F3000".toList) ∧
      ¬IsNumberWord "Xnan".toList := by
  intro start lines
  refine ⟨create_fresh (by decide +kernel) rfl, ⟨⟨3000, rfl⟩, ⟨300, rfl⟩⟩,
    by constructor <;> decide +kernel, Options.usual_writesFinite, by decide +kernel,
    by decide +kernel, by decide +kernel, ?_⟩
  rintro ⟨letter, -, number, decimal, same⟩
  cases same
  exact Decimal.not_isDecimal_of_letter (List.mem_cons_self ..) (by decide) decimal

end Emitter

end GantryCode
