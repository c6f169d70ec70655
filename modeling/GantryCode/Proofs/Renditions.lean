import GantryCode.Proofs.Calls
import GantryCode.Proofs.Chords
import GantryCode.Proofs.Operations
import GantryCode.Proofs.Pairing
import GantryCode.Proofs.Scripts
import Mathlib.Data.List.Forall2

namespace GantryCode

/-! Two renditions of one run.

Two emitters with the same options, but for what they show beside the commands, are given
the same calls. They say the same, each in its own way of showing it, and come to hold the
same slots, the same place and the same mode. Free texts may differ between the two; they
are remarked or displayed and have no other effect.
-/

namespace Emitter

/-- The number is one that an event asks to be written, by the emitter as it is. -/
inductive Asks (emitter : Emitter) : Event → Float → Prop where
  | dwell (seconds : Float) : Asks emitter (.dwell seconds) (clampDwell seconds).1
  | rapid {target : Coordinates (Option Float)} {value : Float}
      (sent : Sends emitter.options.toolOffset target value) : Asks emitter (.rapid target) value
  | linear {target : Coordinates (Option Float)} {value : Float} (feed : Option Float)
      (sent : Sends emitter.options.toolOffset target value) :
      Asks emitter (.linear target feed) value
  | linearFeed (target : Coordinates (Option Float)) (rate : Float) :
      Asks emitter (.linear target (some rate)) rate
  | planar {move : ArcMove} {plane : Plane} {start : Coordinates Float} {value : Float}
      (inPlane : move.plane = some plane)
      (begun : (move.start <|> emitter.position.complete?) = some start)
      (bent : Bends emitter.options.toolOffset move start plane value) :
      Asks emitter (.circular move) value
  | chord {move : ArcMove} {start axis point : Coordinates Float}
      {points : List (Coordinates Float)} {value : Float} (noPlane : move.plane = none)
      (turned : move.axis = some axis)
      (begun : (move.start <|> emitter.position.complete?) = some start)
      (divided : chordPoints emitter.options move start axis = .ok points) (among : point ∈ points)
      (sent : Sends emitter.options.toolOffset (point.map some) value) :
      Asks emitter (.circular move) value
  | arcFeed {move : ArcMove} {rate : Float} (fed : move.feed = some rate) :
      Asks emitter (.circular move) rate

end Emitter

namespace Call

/-- One free text in the place of another: none where there is none, and empty where the
other is empty. -/
inductive SameKind : Option String → Option String → Prop where
  | none : SameKind none none
  | empty : SameKind (some "") (some "")
  | text {text other : String} (filled : text ≠ "") (filledToo : other ≠ "") :
      SameKind (some text) (some other)

/-- The same call, but for the text of its comment. -/
inductive Reworded : Call → Call → Prop where
  | same (call : Call) : Reworded call call
  | startRun {comment other : Option String} (kind : SameKind comment other) :
      Reworded (.event (.startRun comment)) (.event (.startRun other))
  | startSection (facts : Section) {other : Option String} (kind : SameKind facts.comment other) :
      Reworded (.event (.startSection facts))
        (.event (.startSection { facts with comment := other }))

end Call

/-- What two renditions have in common: the options but for what is shown, which numbers
they write, and how the texts that they display are related. -/
structure Rendition where
  options : Options
  allows : Float → Prop
  free : String → String → Prop

namespace Rendition

open Emitter Emission

variable (rendition : Rendition)

/-- What the one says where the other says its own. -/
inductive Alike : Phrase → Phrase → Prop where
  | command {tokens : List (Option String)}
      (phrase : IsPhrase rendition.options rendition.allows tokens) (note : Option String) :
      Alike (.command tokens note) (.command tokens note)
  | display {target : Target} {message : String}
      (shown : target.code? .statusMessage = some message) {text other : String}
      (free : rendition.free text other) :
      Alike (.command [some message, some (Remark.clean text)] none)
        (.command [some message, some (Remark.clean other)] none)
  | remark (text other : String) : Alike (.remark text) (.remark other)

/-- The two differ in nothing but what they show, and in what they have noticed and
remarked. -/
structure Match (near far : Emitter) : Prop where
  options : ∃ comments numbers, near.options = rendition.options.showing comments numbers
  otherOptions : ∃ comments numbers, far.options = rendition.options.showing comments numbers
  target : far.writer.target = near.writer.target
  precision : far.writer.precision = near.writer.precision
  slots : far.slots = near.slots
  mode : far.mode = near.mode
  position : far.position = near.position
  switch : near.mode.command ∈ rendition.options.cutterCommands

/-- The two still match, and they said alike. -/
structure Abreast (near far nearAfter farAfter : Emitter) : Prop extends
    rendition.Match nearAfter farAfter where
  said : ∃ script others, near.writer.Shows nearAfter.writer script ∧
    far.writer.Shows farAfter.writer others ∧ List.Forall₂ rendition.Alike script others

variable {rendition} {near far nearAfter farAfter : Emitter}

/-- What is said alike is said in commands of the known forms. -/
theorem said_alike {script others : List Phrase}
    (alike : List.Forall₂ rendition.Alike script others) :
    (∀ phrase ∈ script, phrase.IsSaid rendition.options rendition.allows) ∧
      ∀ phrase ∈ others, phrase.IsSaid rendition.options rendition.allows := by
  have both {phrase other : Phrase} (alike : rendition.Alike phrase other) :
      phrase.IsSaid rendition.options rendition.allows ∧
        other.IsSaid rendition.options rendition.allows := by
    cases alike with
    | command phrase => exact ⟨phrase, phrase⟩
    | display shown => exact ⟨.display shown _, .display shown _⟩
    | remark => exact ⟨trivial, trivial⟩
  refine ⟨((List.forall₂_and_left _ _).mp (alike.imp fun _ _ same => ⟨(both same).1, same⟩)).1, ?_⟩
  exact ((List.forall₂_and_left _ _).mp (alike.flip.imp fun _ _ same => ⟨(both same).2, same⟩)).1

theorem Match.abreast (same : rendition.Match near far) : rendition.Abreast near far near far :=
  { same with
    said := ⟨[], [], near.writer.shows_nothing, far.writer.shows_nothing, .nil⟩ }

theorem Abreast.trans {nearEnd farEnd : Emitter}
    (start : rendition.Abreast near far nearAfter farAfter)
    (later : rendition.Abreast nearAfter farAfter nearEnd farEnd) :
    rendition.Abreast near far nearEnd farEnd := by
  obtain ⟨script, others, first, second, alike⟩ := start.said
  obtain ⟨more, moreOthers, firstMore, secondMore, alikeMore⟩ := later.said
  exact { later with
    said := ⟨script ++ more, others ++ moreOthers, first.trans firstMore, second.trans secondMore,
      List.rel_append alike alikeMore⟩ }

/-- Renditions are compared by what they say. -/
abbrev pairing (rendition : Rendition) : Pairing where
  related := rendition.Match
  kept := rendition.Abreast
  refl := Match.abreast
  trans := Abreast.trans
  still := Abreast.toMatch

/-- From emitters that match, the two actions come to the same end and say alike. -/
abbrev InStep {α β : Type} (rendition : Rendition) (agree : α → β → Prop) (action : Emission α)
    (other : Emission β) : Prop :=
  Emission.InStep rendition.pairing agree action other

/-- Nothing is said where the writers show the same as before. -/
theorem Match.still (same : rendition.Match nearAfter farAfter)
    (nearShows : near.writer.Shows nearAfter.writer [])
    (farShows : far.writer.Shows farAfter.writer []) :
    rendition.Abreast near far nearAfter farAfter :=
  { same with said := ⟨[], [], nearShows, farShows, .nil⟩ }

theorem Match.valueText (same : rendition.Match near far) :
    far.writer.valueText = near.writer.valueText := by
  funext whole value
  rw [Writer.valueText, Writer.valueText, same.precision]

section Steps

theorem shows_same {before after : Writer} (comments : after.showComments = before.showComments)
    (numbers : after.showLineNumbers = before.showLineNumbers)
    (next : after.nextNumber = before.nextNumber) (written : after.written = before.written) :
    before.Shows after [] :=
  ⟨comments, numbers, by simp [written, Script.lines], next⟩

theorem Match.withSlots (same : rendition.Match near far) (slots : Slots) :
    rendition.Abreast near far (near.withSlots slots) (far.withSlots slots) :=
  Match.still { same with slots := rfl } (shows_same rfl rfl rfl rfl) (shows_same rfl rfl rfl rfl)

/-- A phrase that leaves all but the text as it is. -/
theorem inStep_say {change otherChange : Writer → Writer} {phrase other : Phrase}
    (shows : ∀ writer : Writer, writer.Shows (change writer) [phrase])
    (otherShows : ∀ writer : Writer, writer.Shows (otherChange writer) [other])
    (kept : ∀ writer : Writer, (change writer).target = writer.target ∧
      (change writer).precision = writer.precision ∧ (change writer).slots = writer.slots)
    (otherKept : ∀ writer : Writer, (otherChange writer).target = writer.target ∧
      (otherChange writer).precision = writer.precision ∧ (otherChange writer).slots = writer.slots)
    (alike : rendition.Alike phrase other) :
    rendition.InStep Eq (updateWriter change) (updateWriter otherChange) := by
  refine InStep.change fun near far same => ?_
  obtain ⟨target, precision, slots⟩ := kept near.writer
  obtain ⟨otherTarget, otherPrecision, otherSlots⟩ := otherKept far.writer
  exact
    { same with
      target := (otherTarget.trans same.target).trans target.symm
      precision := (otherPrecision.trans same.precision).trans precision.symm
      slots := (otherSlots.trans same.slots).trans slots.symm
      said := ⟨[phrase], [other], shows _, otherShows _, .cons alike .nil⟩ }

theorem inStep_commands {tokens others : List (Option String)} {note otherNote : Option String}
    (alike : rendition.Alike (.command tokens note) (.command others otherNote)) :
    rendition.InStep Eq (command tokens note) (command others otherNote) :=
  inStep_say (·.shows_command tokens note) (·.shows_command others otherNote)
    (fun _ => by simp) (fun _ => by simp) alike

theorem inStep_remark (text other : String) :
    rendition.InStep Eq (updateWriter (·.remark text)) (updateWriter (·.remark other)) := by
  have kept (text : String) (writer : Writer) : (writer.remark text).target = writer.target ∧
      (writer.remark text).precision = writer.precision ∧
      (writer.remark text).slots = writer.slots := by
    rw [Writer.remark_eq]
    exact ⟨rfl, rfl, rfl⟩
  exact inStep_say (·.shows_remark text) (·.shows_remark other) (kept text) (kept other)
    (.remark text other)

theorem inStep_word (letter : Letter) (value : Option Float) (force : Bool) :
    rendition.InStep Eq (word letter value force) (word letter value force) := by
  intro near far same
  rw [word_run, word_run, same.valueText, same.slots]
  cases value.mapM (near.writer.valueText letter.isWhole) with
  | error fault => exact .error fault same.abreast
  | ok text => exact .ok rfl (same.withSlots _)

theorem inStep_planeCode (plane : Plane) (force : Bool) :
    rendition.InStep Eq (writing (Writer.planeCode plane.code force))
      (writing (Writer.planeCode plane.code force)) := by
  intro near far same
  cases force with
  | true =>
      have run (emitter : Emitter) : writing (Writer.planeCode plane.code true) emitter =
          .ok (some plane.code) (emitter.withSlots (emitter.slots.inPlane plane)) := rfl
      rw [run, run, same.slots]
      exact .ok rfl (same.withSlots _)
  | false =>
      rw [planeCode_run, planeCode_run, same.slots]
      exact .ok rfl (same.withSlots _)

theorem inStep_place (change : Coordinates (Option Float) → Coordinates (Option Float)) :
    rendition.InStep Eq
      (modify fun emitter => { emitter with position := change emitter.position })
      (modify fun emitter => { emitter with position := change emitter.position }) :=
  InStep.change fun _ _ same =>
    Match.still { same with position := congrArg change same.position }
      (Writer.shows_nothing _) (Writer.shows_nothing _)

/-- The operations are done alike. -/
theorem inStep_steps : Movewise rendition.options (fun _ => True) rendition.allows
    (fun {α} (action : Emission α) => rendition.InStep Eq action action) where
  nothing := InStep.nothing
  follow := InStep.follow_returned
  target := by
    refine fun later => InStep.inspect fun near far same => ?_
    rw [same.target]
    exact later near.writer.target
  valueText := by
    refine fun value _ later => InStep.inspect fun near far same => ?_
    rw [same.valueText]
    refine InStep.follow_returned (InStep.result _) fun text returned => ?_
    obtain ⟨places, rfl⟩ := Writer.valueText_rounded (returns_result returned)
    exact later places
  sameRun := by
    intro action other run together near far same
    obtain ⟨comments, numbers, options⟩ := same.options
    obtain ⟨otherComments, otherNumbers, otherOptions⟩ := same.otherOptions
    rw [run near rendition.options.toolOffset comments numbers options,
      run far rendition.options.toolOffset otherComments otherNumbers otherOptions]
    exact together near far same
  notify := fun _ => InStep.change fun _ _ same =>
    Match.still { same with } (Writer.shows_nothing _) (Writer.shows_nothing _)
  command := fun phrase note => inStep_commands (.command phrase note)
  remark := fun text => inStep_remark text text
  forget := fun letters => InStep.change fun near far same => by
    have slots : far.slots = near.slots := same.slots
    refine Match.still { same with slots := ?_ } (shows_same rfl rfl rfl rfl)
      (shows_same rfl rfl rfl rfl)
    exact congrArg (Slots.forget · letters) slots
  amount := fun _ => InStep.result _
  word := inStep_word
  planeCode := inStep_planeCode
  unplaced := fun axis => inStep_place fun position => position.set axis none
  sameMove := by
    intro action other run together near far same
    obtain ⟨comments, numbers, options⟩ := same.options
    obtain ⟨otherComments, otherNumbers, otherOptions⟩ := same.otherOptions
    rw [run near _ _ options, run far _ _ otherOptions]
    exact together near far same
  power := by
    refine fun on => InStep.inspect fun near far same => ?_
    obtain ⟨comments, numbers, options⟩ := same.options
    obtain ⟨otherComments, otherNumbers, otherOptions⟩ := same.otherOptions
    rw [same.mode, options, otherOptions]
    refine InStep.branch (inStep_commands (.command (.laser same.switch) _))
      (inStep_commands (.command (.laser ?_) _))
    simp [Options.showing, Options.cutterCommands]
  updatePosition := fun target => inStep_place fun position => moved position target
  shiftedTarget := fun _ => InStep.result _
  shifted := fun _ => InStep.result _

end Steps

section Events

theorem inStep_selectMode (mode : Int) :
    rendition.InStep Eq (selectMode mode) (selectMode mode) := by
  unfold selectMode
  refine InStep.follow (InStep.result _) fun _ =>
    inStep_steps.optional (fun _ => inStep_steps.notify _) fun _ => ?_
  refine InStep.change fun near far same => ?_
  obtain ⟨comments, numbers, options⟩ := same.options
  obtain ⟨otherComments, otherNumbers, otherOptions⟩ := same.otherOptions
  refine Match.still { same with mode := ?_, switch := ?_ } (Writer.shows_nothing _)
    (Writer.shows_nothing _)
  · rw [options, otherOptions]
    rfl
  · rw [options]
    exact cuttingMode_mem (rendition.options.showing comments numbers) mode

theorem inStep_status (anything : ∀ text other, rendition.free text other) (text other : String) :
    rendition.InStep Eq (status text) (status other) := by
  refine InStep.inspect fun near far same => ?_
  rw [same.target]
  cases shown : near.writer.target.code? .statusMessage with
  | none => exact inStep_remark text other
  | some message => exact inStep_commands (.display shown (anything text other))

/-- The sections of two renditions are announced alike, each with its own text. -/
theorem inStep_announce (anything : ∀ text other, rendition.free text other) (facts : Section)
    {other : Option String} (kind : Call.SameKind facts.comment other) :
    rendition.InStep Eq (announce facts) (announce { facts with comment := other }) := by
  obtain ⟨first, jet, mode, comment⟩ := facts
  unfold announce
  refine InStep.optional (inStep_selectMode mode) fun _ => ?_
  cases kind with
  | none => exact InStep.nothing ()
  | empty => exact InStep.nothing ()
  | @text text other filled filledToo =>
      have named (text other : String) : rendition.InStep Eq
          (do command [← code .finishMoves]; status text)
          (do command [← code .finishMoves]; status other) := by
        refine InStep.inspect fun near far same => ?_
        rw [same.target]
        exact InStep.follow (inStep_steps.feature _ (by decide) none) fun _ =>
          inStep_status anything text other
      dsimp only
      split
      · next absent => cases absent
      · next empty => exact absurd (Option.some.inj empty) filled
      · exact named _ _

theorem inStep_startSection (anything : ∀ text other, rendition.free text other)
    (allowed : ∀ quantity ∈ rendition.options.places, ∀ number,
      quantity.toFloat .text = .ok number → rendition.allows number)
    (facts : Section) {other : Option String} (kind : Call.SameKind facts.comment other) :
    rendition.InStep Eq (startSection facts) (startSection { facts with comment := other }) := by
  let reworded : Section := { facts with comment := other }
  by_cases first : facts.isFirst = true
  · have firstToo : reworded.isFirst = true := first
    rw [startSection_first first, startSection_first firstToo]
    exact InStep.follow (inStep_steps.startup (fun _ _ => trivial) allowed) fun _ =>
      inStep_announce anything facts kind
  · have later : facts.isFirst = false := by simpa using first
    have laterToo : reworded.isFirst = false := later
    rw [startSection_later later, startSection_later laterToo]
    exact inStep_announce anything facts kind

theorem alike_remarks {texts others : List String} (long : texts.length = others.length) :
    List.Forall₂ rendition.Alike (texts.map .remark) (others.map .remark) := by
  induction texts generalizing others with
  | nil =>
      cases List.eq_nil_of_length_eq_zero long.symm
      exact .nil
  | cons text rest ih =>
      cases others with
      | nil => cases long
      | cons other more => exact .cons (.remark text other) (ih (Nat.succ.inj long))

theorem Match.begun (same : rendition.Match near far) (texts : List String) :
    rendition.Abreast near far (near.begun.withHeader texts) (far.begun.withHeader texts) :=
  { same with
    said := ⟨firstTexts.map .remark, firstTexts.map .remark,
      Writer.shows_remarks rfl rfl rfl rfl, Writer.shows_remarks rfl rfl rfl rfl,
      alike_remarks rfl⟩ }

theorem Match.headed (same : rendition.Match near far) (texts : List String)
    {comment other : Option String} (kind : comment.isSome = other.isSome) :
    rendition.Abreast near far (near.headed texts comment) (far.headed texts other) := by
  have slots : far.slots = near.slots := same.slots
  refine { same with
    slots := congrArg Slots.cleared slots
    said := ⟨_, _, Writer.shows_remarks rfl rfl rfl rfl, Writer.shows_remarks rfl rfl rfl rfl,
      alike_remarks ?_⟩ }
  have counted : comment.toList.length = other.toList.length := by
    cases comment <;> cases other <;> simp_all
  simp [Writer.headTexts, counted]

theorem Match.pointText (same : rendition.Match near far) (words : List (String × Quantity)) :
    far.writer.pointText words = near.writer.pointText words := by
  unfold Writer.pointText
  rw [same.valueText]

theorem ends_startRun (same : rendition.Match near far) {comment other : Option String}
    (kind : comment.isSome = other.isSome) :
    Ends Eq (rendition.Abreast near far) (startRun comment near) (startRun other far) := by
  obtain ⟨comments, numbers, options⟩ := same.options
  obtain ⟨otherComments, otherNumbers, otherOptions⟩ := same.otherOptions
  have size : far.writer.pointText far.options.sizeWords =
      near.writer.pointText near.options.sizeWords := by
    rw [same.pointText, options, otherOptions]
    rfl
  have place : far.writer.pointText far.options.offsetWords =
      near.writer.pointText near.options.offsetWords := by
    rw [same.pointText, options, otherOptions]
    rfl
  have shift : isOffset far.options.toolOffset = isOffset near.options.toolOffset := by
    rw [options, otherOptions]
    rfl
  cases sized : near.writer.pointText near.options.sizeWords with
  | error fault =>
      rw [startRun_error comment sized, startRun_error other (size.trans sized)]
      exact .error fault (same.begun [])
  | ok text =>
      cases shifts : isOffset near.options.toolOffset with
      | false =>
          rw [startRun_plain comment sized shifts,
            startRun_plain other (size.trans sized) (shift.trans shifts)]
          exact .ok rfl (same.headed _ kind)
      | true =>
          cases placed : near.writer.pointText near.options.offsetWords with
          | error fault =>
              rw [startRun_unplaced comment sized shifts placed,
                startRun_unplaced other (size.trans sized) (shift.trans shifts)
                  (place.trans placed)]
              exact .error fault (same.begun _)
          | ok text =>
              rw [startRun_offset comment sized shifts placed,
                startRun_offset other (size.trans sized) (shift.trans shifts) (place.trans placed)]
              exact .ok rfl (same.headed _ kind)

/-- Arcs begin at the same point in both. -/
theorem Match.startPoint (same : rendition.Match near far) (given : Option (Coordinates Float))
    {next : Coordinates Float → Emission Unit}
    (later : ∀ start, (given <|> near.position.complete?) = some start →
      Ends Eq (rendition.Abreast near far) (next start near) (next start far)) :
    Ends Eq (rendition.Abreast near far) ((Emitter.startPoint given >>= next) near)
      ((Emitter.startPoint given >>= next) far) := by
  have run := startPoint_run given near
  have runToo := startPoint_run given far
  rw [same.position] at runToo
  cases begun : given <|> near.position.complete? with
  | none =>
      rw [begun] at run runToo
      rw [bind_of_error run, bind_of_error runToo]
      exact .error _ same.abreast
  | some start =>
      rw [begun] at run runToo
      rw [bind_of_ok run, bind_of_ok runToo]
      exact later start begun

theorem Match.noticing (same : rendition.Match near far) (notices others : Array Notice) :
    rendition.Abreast near far { near with notices } { far with notices := others } :=
  Match.still { same with } (Writer.shows_nothing _) (Writer.shows_nothing _)

theorem ends_circular (same : rendition.Match near far) {move : ArcMove}
    (asked : ∀ value, near.Asks (.circular move) value → rendition.allows value) :
    Ends Eq (rendition.Abreast near far) (circular move near) (circular move far) := by
  obtain ⟨comments, numbers, options⟩ := same.options
  obtain ⟨otherComments, otherNumbers, otherOptions⟩ := same.otherOptions
  have offset : near.options.toolOffset = rendition.options.toolOffset := by
    rw [options]
    rfl
  unfold circular
  cases inPlane : move.plane with
  | some plane =>
      refine same.startPoint move.start fun start begun => ?_
      refine inStep_steps.planarArc (fun value bent => ?_) near far same
      rw [← offset] at bent
      exact asked value (.planar inPlane begun bent)
  | none =>
      cases turned : move.axis with
      | none => exact .error .missingAxis same.abreast
      | some axis =>
          refine same.startPoint move.start fun start begun => ?_
          obtain ⟨notices, run⟩ := chordedArc_run move start axis near
          obtain ⟨others, runToo⟩ := chordedArc_run move start axis far
          have figure : chordPoints far.options move start axis =
              chordPoints near.options move start axis := by
            rw [options, otherOptions]
            rfl
          have noticed := same.noticing notices others
          rw [figure] at runToo
          rw [run, runToo]
          cases divided : chordPoints near.options move start axis with
          | error fault => exact .error fault noticed
          | ok points =>
              refine Ends.weaken (inStep_steps.linearThrough (fun point among value sent => ?_)
                (fun rate fed => ?_) _ _ noticed.toMatch) fun _ _ => noticed.trans
              · rw [← offset] at sent
                exact asked value (.chord inPlane turned begun divided among sent)
              · exact asked rate (.arcFeed fed)

/-- The same event is performed alike, where the numbers that it asks for are allowed. -/
theorem ends_perform (same : rendition.Match near far)
    (allowed : ∀ quantity ∈ rendition.options.places, ∀ number,
      quantity.toFloat .text = .ok number → rendition.allows number) {event : Event}
    (asked : ∀ value, near.Asks event value → rendition.allows value) :
    Ends Eq (rendition.Abreast near far) (perform event near) (perform event far) := by
  have offset : near.options.toolOffset = rendition.options.toolOffset := by
    obtain ⟨comments, numbers, options⟩ := same.options
    rw [options]
    rfl
  have anyway : ∀ quantity ∈ rendition.options.quantities, True := fun _ _ => trivial
  cases event with
  | startRun comment => exact ends_startRun same rfl
  | startSection facts =>
      exact inStep_steps.startSection anyway allowed (fun _ => inStep_selectMode facts.jetMode) near
        far same
  | endSection => exact inStep_steps.endSection near far same
  | dwell seconds => exact inStep_steps.dwell (asked _ (.dwell seconds)) near far same
  | power on => exact inStep_steps.power on near far same
  | rapid target =>
      refine inStep_steps.rapid anyway (fun value sent => ?_) near far same
      rw [← offset] at sent
      exact asked value (.rapid sent)
  | linear target feed =>
      refine inStep_steps.linear (fun value sent => ?_) (fun rate fed => ?_) near far same
      · rw [← offset] at sent
        exact asked value (.linear feed sent)
      · cases fed
        exact asked rate (.linearFeed target rate)
  | circular move => exact ends_circular same asked
  | endRun => exact inStep_steps.endRun anyway allowed near far same

theorem abreast_setPrecision (same : rendition.Match near far) (places : Int) :
    Ends Eq (rendition.Abreast near far) (setPrecision places near) (setPrecision places far) :=
  .ok rfl (Match.still { same with precision := rfl } (shows_same rfl rfl rfl rfl)
    (shows_same rfl rfl rfl rfl))

/-- The same call is obeyed alike, where the numbers that it asks for are allowed. -/
theorem ends_obey (same : rendition.Match near far)
    (allowed : ∀ quantity ∈ rendition.options.places, ∀ number,
      quantity.toFloat .text = .ok number → rendition.allows number) {call : Call}
    (asked : ∀ event, call = .event event → ∀ value, near.Asks event value →
      rendition.allows value) :
    Ends Eq (rendition.Abreast near far) (obey call near) (obey call far) := by
  cases call with
  | event event => exact ends_perform same allowed (asked event rfl)
  | precision places => exact abreast_setPrecision same places

/-- A call with another comment is obeyed alike, where every number is allowed. -/
theorem ends_reworded (anything : ∀ text other, rendition.free text other)
    (allowed : ∀ number, rendition.allows number) (same : rendition.Match near far)
    {call other : Call} (reworded : Call.Reworded call other) :
    Ends Eq (rendition.Abreast near far) (obey call near) (obey other far) := by
  cases reworded with
  | same =>
      exact ends_obey same (fun _ _ number _ => allowed number) fun _ _ number _ => allowed number
  | startRun kind => exact ends_startRun same (by cases kind <;> rfl)
  | startSection facts kind =>
      exact inStep_startSection anything (fun _ _ number _ => allowed number) facts kind near far
        same

end Events

section Runs

/-- What holds of the calls one by one holds of the run. -/
theorem abreast_after {agree : Call → Call → Prop}
    (step : ∀ {near far : Emitter} {call other : Call}, rendition.Match near far →
      agree call other →
      Ends Eq (rendition.Abreast near far) (obey call near) (obey other far))
    {calls others : List Call} (together : List.Forall₂ agree calls others)
    (same : rendition.Match near far) :
    rendition.Abreast near far (near.after calls) (far.after others) := by
  induction together generalizing near far with
  | nil => exact same.abreast
  | cons agreed _ ih =>
      have first := (step same agreed).leaves.2
      exact first.trans (ih first.toMatch)

/-- New emitters match, whatever they are to show. -/
theorem create_match (rendition : Rendition) {stamp : String}
    (created : create rendition.options stamp = .ok near) (comments numbers : Bool)
    (otherStamp : String) :
    ∃ far, create (rendition.options.showing comments numbers) otherStamp = .ok far ∧
      rendition.Match near far := by
  obtain ⟨accepted, target, named, rfl⟩ := create_ok.mp created
  refine ⟨_, create_ok.mpr ⟨accepted, target, named, rfl⟩, ?_⟩
  refine ⟨⟨_, _, rfl⟩, ⟨_, _, rfl⟩, rfl, rfl, rfl, rfl, rfl, ?_⟩
  simp [made, Options.cutterCommands]

end Runs

end Rendition

namespace Writer

/-- A new emitter numbers its commands from one on, and has nothing in front of what is
said to it. -/
theorem Shows.of_created {options : Options} {stamp : String} {start : Emitter} {after : Writer}
    {script : List Phrase} (created : Emitter.create options stamp = .ok start)
    (shown : start.writer.Shows after script) :
    after.written.toList = Script.lines options.showComments options.showLineNumbers 1 script ∧
      after.nextNumber =
        if options.showLineNumbers then 1 + (Script.bodies script).length else 1 := by
  obtain ⟨-, target, -, rfl⟩ := Emitter.create_ok.mp created
  exact ⟨shown.written, by rw [shown.next, Script.nextNumber_eq]; rfl⟩

end Writer

end GantryCode
