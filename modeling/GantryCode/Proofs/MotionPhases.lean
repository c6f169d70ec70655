import GantryCode.Proofs.Memory
import GantryCode.Proofs.MotionLines

namespace GantryCode

/-! The lines of startup and shutdown, and of any event that moves the tool.

Startup and shutdown are put together of few actions, each of which adds a line of one form or
an aside: a command that the options or the dialect lay down, what is shown on the display, or
a remark. So whatever was called before, a move is written in lines of its own forms.
-/

open Decimal (IsFinite)

namespace Emitter

open Emission Reading

variable {options : Options} {emitter : Emitter} {event : Event} {form : Form}

section Phases

variable {places : Option Quantity} {feed : Quantity} {note : Option String}

/-- A command with nothing in it that moves the tool. -/
theorem keeps_aside {tokens : List (Option String)} (phase : event.announces = true)
    (aside : ∀ number note, options.IsAside (.command number (commandBody tokens) note)) :
    Keeps options (Adds event) (command tokens note) := by
  intro emitter serves
  refine ⟨_, writes_command emitter tokens note, fun line member => .inr ⟨phase, ?_⟩⟩
  obtain ⟨-, made⟩ := Option.ite_none_right_eq_some.mp (Option.mem_toList.mp member)
  cases made
  rw [serves.options]
  exact aside _ _

theorem keeps_feature (phase : event.announces = true) (target : Target) {feature : Feature}
    (among : feature ∈ Feature.commands) (note : Option String) :
    Keeps options (Adds event) (command [target.code? feature] note) :=
  keeps_aside phase fun number note => .feature target among number note

theorem motion_home (axis : Axis) {feed : Option Quantity} (takes : event.Takes (.home axis))
    (rated : feed.isSome ↔ axis = .z) (finite : ∀ quantity ∈ feed, ∀ rate,
      quantity.toFloat .text = .ok rate → IsFinite rate) :
    Keeps options (Adds event) (home axis feed) := by
  intro emitter _
  have run := home_run axis feed emitter
  cases shown : feed.mapM (Quantity.toFloat .text) with
  | error fault =>
      rw [shown] at run
      rw [leaves_of_error run]
      exact .nothing ⟨⟨rfl, .inl rfl, rfl⟩, by simp⟩
  | ok rate =>
      rw [shown] at run
      rw [leaves_of_ok run]
      have makes : (Form.home axis).Makes emitter.places
          [some Feature.home.usual, some axis.name,
            (rate.map feedText).map (Letter.f.name ++ ·)] := by
        cases feed with
        | none =>
            cases shown
            have unrated : axis ≠ .z := fun same => nomatch rated.mpr same
            refine ⟨_, _, [], .home axis, ?_, rfl⟩
            rw [if_neg unrated]
            exact .nil
        | some quantity =>
            cases found : quantity.toFloat .text with
            | error fault => simp [found] at shown
            | ok number =>
                rw [Option.mapM_some, found] at shown
                cases shown
                cases rated.mp rfl
                exact ⟨_, _, _, .home .z,
                  .cons (.feedWord (finite quantity rfl number found)) .nil, rfl⟩
      obtain ⟨line, writes, shownLine⟩ := writes_move emitter
        ((emitter.slots.accept .f (rate.map feedText)).set axis.letter none) makes
        (some ("Home " ++ axis.name))
      exact .of_writes takes ⟨⟨writes.options, writes.mode, writes.precision⟩, writes.written⟩
        shownLine

theorem motion_rapidLine (takes : event.Takes .rate)
    (finite : ∀ rate, feed.toFloat .text = .ok rate →
    IsFinite rate) : Keeps options (Adds event) (rapidLine [] feed note) := by
  intro emitter _
  obtain ⟨line, writes, shown⟩ := writes_rapidLine emitter .rate [] note
    fun rate found => makes_rate emitter.places (finite rate found)
  exact .of_writes takes writes shown

/-- A move of one axis to a place of the options. -/
theorem motion_forcedMove {axis : Axis} {value : Quantity} (takes : event.Takes form)
    (makes : ∀ {places token rate}, IsWordOf places axis.letter token → IsFinite rate →
      form.Makes places [some "G0", some token, some (feedWord rate)])
    (finite : ∀ number, value.toFloat .text = .ok number → IsFinite number)
    (finiteRate : ∀ rate, feed.toFloat .text = .ok rate → IsFinite rate) :
    Keeps options (Adds event) (forcedMove axis.letter value feed note) := by
  intro emitter _
  have fraction : axis.letter.isWhole = false := by cases axis <;> rfl
  cases found : value.toFloat .text with
  | error fault =>
      have run : forcedMove axis.letter value feed note emitter = .error fault emitter :=
        bind_of_error (by rw [amount, found]; rfl)
      rw [leaves_of_error run]
      exact .nothing (.refl emitter)
  | ok place =>
      have begun : forcedMove axis.letter value feed note emitter =
          (word axis.letter (some place) true >>= fun axisWord =>
            rapidLine [axisWord] feed note) emitter :=
        bind_of_ok (by rw [amount, found]; rfl)
      have offered := word_bind axis.letter (some place) true
        (fun axisWord => rapidLine [axisWord] feed note) emitter
      rw [fraction, Option.mapM_some, Writer.valueText_places] at offered
      cases possible : emitter.writer.precisionFault? with
      | some fault =>
          rw [possible] at offered
          rw [leaves_of_error (begun.trans offered)]
          exact .nothing (.refl emitter)
      | none =>
          let text := emitter.placesText place
          have run : forcedMove axis.letter value feed note emitter =
              rapidLine [some (axis.letter.name ++ text)] feed note
                (emitter.withSlots (emitter.slots.accept axis.letter (some text))) := by
            rw [possible] at offered
            refine begun.trans (offered.trans ?_)
            change rapidLine [emitter.slots.offer axis.letter (some text) true] feed note _ = _
            rw [Slots.offer_forced]
            rfl
          have spelled : IsWordOf emitter.places axis.letter (axis.letter.name ++ text) :=
            .of_rounded fraction (finite place found)
          rw [leaves_of_eq run]
          obtain ⟨line, writes, shown⟩ := writes_rapidLine
            (emitter.withSlots (emitter.slots.accept axis.letter (some text))) form
            [some (axis.letter.name ++ text)] note
            fun rate rated => makes spelled (finiteRate rate rated)
          exact .of_writes takes (((Writes.refl emitter).withSlots _).trans writes) shown

theorem motion_drive (axis : Axis) (takes : event.Takes form)
    (makes : ∀ {places token rate}, IsWordOf places axis.letter token → IsFinite rate →
      form.Makes places [some "G0", some token, some (feedWord rate)])
    (finite : ∀ quantity ∈ places, ∀ number, quantity.toFloat .text = .ok number → IsFinite number)
    (finiteRate : ∀ rate, feed.toFloat .text = .ok rate → IsFinite rate) :
    Keeps options (Adds event) (drive axis places feed note) := by
  cases places with
  | none => exact Keeps.nothing (adds_progress event) ()
  | some place => exact motion_forcedMove takes makes (finite place rfl) finiteRate

theorem motion_endSection : Keeps options (Adds .endSection) endSection := by
  intro emitter _
  rw [leaves_of_ok (endSection_run emitter)]
  have back : Adds .endSection emitter emitter.backInXY := by
    rcases offerPlane_cases emitter.slots .xy with ⟨-, left⟩ | ⟨-, written⟩
    · let slotted := emitter.withSlots (emitter.slots.inPlane .xy)
      have writes := writes_command slotted [none] none
      have silent : slotted.writer.commandLine? [none] none = none := if_neg (by decide)
      rw [silent] at writes
      rw [backInXY, left]
      exact .nothing (((Writes.refl emitter).withSlots _).trans writes)
    · rw [backInXY, written]
      obtain ⟨line, writes, shown⟩ := writes_move emitter (emitter.slots.inPlane .xy)
        (makes_plane emitter.places) none
      exact .of_writes .usualPlane writes shown
  exact back.trans (.nothing ((Writes.refl _).withSlots _))

theorem motion_selectXY (takes : event.Takes .plane) : Keeps options (Adds event) selectXY := by
  intro emitter _
  rw [leaves_of_ok (selectXY_run emitter)]
  obtain ⟨line, writes, shown⟩ := writes_move emitter (emitter.slots.inPlane .xy)
    (makes_plane emitter.places) (some "Circular interpolation: XY plane")
  exact .of_writes takes writes shown

theorem motion_notify (notice : Notice) : Keeps options (Adds event) (notify notice) :=
  Keeps.change fun _ _ => .nothing ⟨⟨rfl, .inl rfl, rfl⟩, by simp⟩

variable (phase : event.announces = true)

include phase

theorem motion_laserOff : Keeps options (Adds event) (laserOff options) :=
  keeps_aside phase .laser

theorem motion_finishMoves : Keeps options (Adds event) finishMoves :=
  Keeps.code fun target => keeps_feature phase target (by decide) _

theorem motion_status (text : String) : Keeps options (Adds event) (status text) := by
  refine Keeps.code fun target => ?_
  cases found : target.code? .statusMessage with
  | none =>
      refine Keeps.change fun emitter _ =>
        ⟨emitter.writer.remarkLines [text], ?_, fun line member => .inr ⟨phase, ?_⟩⟩
      · dsimp only
        rw [Writer.remark_eq]
        exact ⟨⟨rfl, .inl rfl, rfl⟩, by simp⟩
      · unfold Writer.remarkLines at member
        split at member
        · rw [List.mem_singleton.mp member]
          exact .comment _
        · cases member
  | some message =>
      intro emitter _
      refine ⟨_, writes_command emitter _ none, fun line member => .inr ⟨phase, ?_⟩⟩
      obtain ⟨-, made⟩ := Option.ite_none_right_eq_some.mp (Option.mem_toList.mp member)
      cases made
      simp only [Option.bind_none, ite_self]
      exact .display found text _

theorem motion_beep : Keeps options (Adds event) beep := by
  refine Keeps.code fun target => ?_
  cases found : target.code? .beep with
  | none => exact Keeps.inspect fun _ _ => motion_notify _
  | some sound =>
      have sounds : Keeps options (Adds event) (command [target.code? .beep] (some "Beep")) :=
        keeps_feature phase target (by decide) _
      rwa [found] at sounds

theorem motion_announce (facts : Section) : Keeps options (Adds event) (announce facts) := by
  have progress := adds_progress event
  have chosen : Keeps options (Adds event) (selectMode facts.jetMode) := by
    have set : Keeps options (Adds event) (modify fun emitter =>
        { emitter with mode := cuttingMode emitter.options facts.jetMode }) :=
      Keeps.change fun emitter _ =>
        .nothing ⟨⟨rfl, .inr (cuttingMode_mem emitter.options facts.jetMode), rfl⟩, by simp⟩
    exact Keeps.chain progress (Keeps.result progress _) fun _ =>
      Keeps.optional progress (fun _ => motion_notify _) fun _ => set
  unfold announce
  refine Keeps.optional progress (fun _ => chosen) fun _ => ?_
  split
  · exact Keeps.nothing progress ()
  · exact Keeps.nothing progress ()
  · refine Keeps.code fun target => ?_
    exact Keeps.chain progress (keeps_feature phase target (by decide) none) fun _ =>
      motion_status phase _

theorem motion_powerDown : Keeps options (Adds event) (powerDown options) := by
  have progress := adds_progress event
  have ended : Keeps options (Adds event) (do
      if options.beepAtEnd then beep
      status "Finished") :=
    Keeps.optional progress (fun _ => motion_beep phase) fun _ => motion_status phase "Finished"
  refine Keeps.code fun target => ?_
  cases found : target.code? .disableMotors with
  | none => exact ended
  | some disable =>
      have disables : Keeps options (Adds event)
          (command [target.code? .disableMotors] (some "Disable motors")) :=
        keeps_feature phase target (by decide) _
      rw [found] at disables
      exact Keeps.chain progress disables fun _ => ended

end Phases

section Runs

theorem motion_startSection (finite : options.WritesFinite) (facts : Section) :
    Keeps options (Adds (.startSection facts)) (startSection facts) := by
  have progress := adds_progress (.startSection facts)
  have prepared : Keeps options (Adds (.startSection facts)) (prepare options) := by
    refine Keeps.code fun target => ?_
    refine Keeps.chain progress (keeps_feature rfl target (by decide) _) fun _ => ?_
    refine Keeps.optional progress
      (fun _ => motion_home .x (.startHome facts .x) (by simp) (by simp))
      fun _ => ?_
    exact Keeps.branch (fun _ => motion_home .y (.startHome facts .y) (by simp) (by simp))
      fun _ => Keeps.nothing progress ()
  have settled : Keeps options (Adds (.startSection facts)) (settle options) := by
    refine Keeps.code fun target => ?_
    refine Keeps.chain progress (keeps_feature rfl target (by decide) _) fun _ => ?_
    refine Keeps.chain progress (motion_rapidLine (.startRate facts) finite.level) fun _ => ?_
    refine Keeps.optional progress (fun _ => motion_home .z (.startHome facts .z) (by simp)
      (by simpa using finite.height)) fun _ => ?_
    refine motion_drive .z (.startHeight facts) makes_height (fun height held => ?_) finite.height
    exact finite height (by simp [Options.places, Option.mem_def.mp held])
  have announced : Keeps options (Adds (.startSection facts)) (announce facts) :=
    motion_announce rfl facts
  have started : Keeps options (Adds (.startSection facts)) startup := by
    refine Keeps.of_run (fun emitter serves => serves.options ▸ startup_run emitter) ?_
    exact Keeps.chain progress (motion_laserOff rfl) fun _ => Keeps.chain progress prepared fun _ =>
      Keeps.chain progress (motion_selectXY (.startPlane facts)) fun _ => settled
  cases first : facts.isFirst with
  | true =>
      rw [startSection_first first]
      exact Keeps.chain progress started fun _ => announced
  | false =>
      rw [startSection_later first]
      exact announced

theorem motion_endRun (finite : options.WritesFinite) : Keeps options (Adds .endRun) endRun := by
  have progress := adds_progress .endRun
  have leveled : Keeps options (Adds .endRun) (level options) := by
    refine Keeps.chain progress (motion_rapidLine .endRate finite.level) fun _ => ?_
    refine Keeps.optional progress
      (fun _ => motion_home .x .endHome (by simp) (by simp)) fun _ => ?_
    refine motion_drive .y .endPlace (fun {_ token _} spelled finite =>
      makes_level none (some token) rfl (by simp)
        (fun other same => Option.some.inj same ▸ spelled) finite) (fun place held => ?_)
      finite.level
    exact finite place (by simp [Options.places, Option.mem_def.mp held])
  have parked : Keeps options (Adds .endRun) (park options) := by
    rw [park_eq]
    refine Keeps.chain progress (motion_drive .z .endHeight makes_height (fun height held => ?_)
      finite.height) fun _ => leveled
    exact finite height (by simp [Options.places, Option.mem_def.mp held])
  refine Keeps.of_run (fun emitter serves => serves.options ▸ endRun_run emitter) ?_
  exact Keeps.chain progress (motion_finishMoves rfl) fun _ =>
    Keeps.chain progress (motion_laserOff rfl) fun _ =>
      Keeps.chain progress parked fun _ => motion_powerDown rfl

theorem adds_perform (serves : Serves options emitter) (finiteOptions : options.WritesFinite)
    (moves : event.movesTool = true) (fed : event.IsFed)
    (finite : ∀ value, emitter.Asks event value → IsFinite value) :
    Adds event emitter (leaves (perform event) emitter) := by
  cases event with
  | startRun _ | dwell _ | power _ => cases moves
  | startSection facts => exact motion_startSection finiteOptions facts emitter serves
  | endSection => exact motion_endSection emitter serves
  | rapid target =>
      obtain ⟨level, height, writes, shownLevel, shownHeight⟩ := writes_rapid
        (serves.options ▸ finiteOptions) fun value sent => finite value (.rapid sent)
      refine ⟨_, writes, fun line member => .inl ?_⟩
      rcases List.mem_append.mp member with low | high
      · exact ⟨_, .level target, shownLevel line (Option.mem_toList.mp low)⟩
      · exact ⟨_, .height target, shownHeight line (Option.mem_toList.mp high)⟩
  | linear target feed =>
      obtain ⟨rate, rfl⟩ := Option.isSome_iff_exists.mp fed
      obtain ⟨line, writes, shown⟩ :=
        writes_linear (fun value sent => finite value (.linear _ sent))
        (finite rate (.linearFeed target rate))
      exact .of_writes (.cut target _) writes shown
  | circular move => exact adds_circular fed finite
  | endRun => exact motion_endRun finiteOptions emitter serves

/-- Whatever was called before, every line of a move is of one of its forms, and so are the lines
with which startup and shutdown move the tool. A rapid move of the height has the last line of
its own. -/
theorem motion_after_run {stamp : String} {start : Emitter}
    (created : create options stamp = .ok start) (finiteOptions : options.WritesFinite)
    (calls : List Call) (moves : event.movesTool = true) (fed : event.IsFed)
    (finite : ∀ value, (start.after calls).Asks event value → IsFinite value) :
    let places := (start.after calls).writer.precision.toNat
    let lines := (start.after calls).added (.event event)
    (∀ line ∈ lines, (∃ form, event.Takes form ∧ form.Shows places line) ∨
      event.announces = true ∧ options.IsAside line) ∧
    ∀ target, event = .rapid target → ∃ level height : Option Line,
      lines = level.toList ++ height.toList ∧ (∀ line ∈ level, Form.level.Shows places line) ∧
      ∀ line ∈ height, Form.height.Shows places line := by
  have serves := serves_after (create_isFresh created).toServes calls
  refine ⟨?_, ?_⟩
  · obtain ⟨lines, writes, shown⟩ := adds_perform serves finiteOptions moves fed finite
    have same : (start.after calls).added (.event event) = lines := added_of_writes writes
    rw [serves.options] at shown
    rw [same]
    exact shown
  · rintro target rfl
    obtain ⟨level, height, writes, shownLevel, shownHeight⟩ := writes_rapid
      (serves.options ▸ finiteOptions) fun value sent => finite value (.rapid sent)
    exact ⟨level, height, added_of_writes writes, shownLevel, shownHeight⟩

theorem motion_of_rapid :
    let start := fresh {}
    let target : Coordinates (Option Float) := ⟨some 1.5, none, some 2⟩
    let emitter := start.after [.event .endSection]
    create {} "" = .ok start ∧ Options.WritesFinite {} ∧ Event.movesTool (.rapid target) = true ∧
      Event.IsFed (.rapid target) ∧ (∀ value, emitter.Asks (.rapid target) value → IsFinite value) ∧
      (leaves (rapid target) emitter).writer.text = "G17\nG0 X1.5 F3000\nG0 Z2 F300\n" ∧
      ∃ level height : Option Line,
        emitter.added (.event (.rapid target)) = level.toList ++ height.toList ∧
        (∀ line ∈ level, Form.level.Shows 3 line) ∧ ∀ line ∈ height, Form.height.Shows 3 line := by
  intro start target emitter
  have created : create {} "" = .ok start := create_fresh (by decide +kernel) rfl
  have finite : ∀ value, emitter.Asks (.rapid target) value → IsFinite value := by
    rintro value (_ | ⟨⟨place, axis, shifted, sent⟩⟩)
    cases shifted
    cases axis <;> cases sent <;> decide +kernel
  have moves : Event.movesTool (.rapid target) = true := rfl
  have written := motion_after_run created Options.usual_writesFinite [.event .endSection] moves
    trivial finite
  exact ⟨created, Options.usual_writesFinite, rfl, trivial, finite, by decide +kernel,
    written.2 target rfl⟩

end Runs

end Emitter

end GantryCode
