import GantryCode.Proofs.Parking
import GantryCode.Proofs.Traces

namespace GantryCode

/-! Whether the place of an axis is known.

It is known as long as a call has given it and none has sent the axis home since. A call that
fails does so only with what it did until then: a move is recorded before its words are
written, while an arc that does not set out gives nothing, and an axis is home only if the
moves in front of it could be made.
-/

/-- The axes that startup sends home. The height needs feed rates that fit into numbers. -/
def Options.HomesAtStart (options : Options) : Axis → Prop
  | .x => options.homeXStart = true
  | .y => options.homeYStart = true
  | .z => options.homeZStart = true ∧ options.FeedsInRange

namespace Emitter

open Emission

variable {options : Options} {emitter before after : Emitter} {call : Call} {axis : Axis}
  {move : ArcMove}

/-- Whether shutdown gets as far as the way home, behind the retreat of the head. -/
structure Retreats (emitter : Emitter) : Prop where
  feed : ∃ rate, emitter.options.rapidFeedXY.toFloat .text = .ok rate
  height : ∀ height, emitter.options.endZ = some height →
    (∃ text, emitter.placeText .z height = .ok text) ∧
      ∃ rate, emitter.options.rapidFeedZ.toFloat .text = .ok rate

/-- Whether a call sends an axis home. -/
def Homes (emitter : Emitter) (axis : Axis) : Call → Prop
  | .event (.startSection facts) => facts.isFirst = true ∧ emitter.options.HomesAtStart axis
  | .event .endRun => axis = .x ∧ emitter.options.homeXEnd = true ∧ emitter.Retreats
  | _ => False

/-- Whether an arc gets as far as its first line. -/
inductive SetsOut (emitter : Emitter) (move : ArcMove) : Prop where
  | planar {plane : Plane} {start : Coordinates Float} (inPlane : move.plane = some plane)
      (begun : (move.start <|> emitter.position.complete?) = some start)
  | chorded {start normal : Coordinates Float} {points : List (Coordinates Float)}
      (noPlane : move.plane = none) (turned : move.axis = some normal)
      (begun : (move.start <|> emitter.position.complete?) = some start)
      (drawn : chordPoints emitter.options move start normal = .ok points)

/-- Whether a call gives the place of an axis. -/
def Places (emitter : Emitter) (axis : Axis) : Call → Prop
  | .event (.circular move) => emitter.SetsOut move
  | .event event => (event.destination.get axis).isSome = true
  | .precision _ => False

/-- Nothing has changed that the start of an arc depends on. -/
structure Still (before after : Emitter) : Prop extends Alike before after where
  position : after.position = before.position

section Steps

theorem still_progress : Progress Still where
  refl emitter := ⟨.refl emitter, rfl⟩
  trans first second := ⟨first.toAlike.trans second.toAlike, second.position.trans first.position⟩
  serves still serves := still.toAlike.serves serves

theorem still_of_idle {α : Type} {action : Emission α} (keeps : Keeps options Idle action) :
    Keeps options Still action :=
  keeps.weaken fun _ ⟨_, idles⟩ => ⟨idles.toAlike, idles.position⟩

theorem still_commanded (emitter : Emitter) (given : List (Option String)) (note : Option String) :
    Still emitter (emitter.commanded given note) :=
  ⟨(writes_command emitter given note).toAlike, rfl⟩

theorem still_laserOff : Keeps options Still (laserOff options) :=
  fun emitter _ => still_commanded emitter _ _

theorem still_rapidLine (words : List (Option String)) (feed : Quantity) (note : Option String) :
    Keeps options Still (rapidLine words feed note) := by
  intro emitter _
  have run := rapidLine_run words feed note emitter
  cases shown : feed.toFloat .text with
  | error fault =>
      rw [shown] at run
      rw [leaves_of_error run]
      exact still_progress.refl emitter
  | ok rate =>
      rw [shown] at run
      rw [leaves_of_ok run]
      have filled : Still emitter
          (emitter.withSlots (emitter.slots.accept .f (some (feedText rate)))) :=
        ⟨(Alike.refl emitter).withSlots _, rfl⟩
      exact still_progress.trans filled (still_commanded _ _ note)

theorem forcedMove_run (value feed : Quantity) (note : Option String) (emitter : Emitter) :
    forcedMove axis.letter value feed note emitter =
      match emitter.placeText axis value with
      | .ok text => rapidLine [some (axis.letter.name ++ text)] feed note
          (emitter.withSlots (emitter.slots.accept axis.letter (some text)))
      | .error fault => .error fault emitter := by
  cases found : value.toFloat .text with
  | error fault =>
      have unplaced : emitter.placeText axis value = .error fault := by
        rw [placeText, found]
        rfl
      rw [unplaced]
      exact bind_of_error (by rw [amount, found]; rfl)
  | ok place =>
      have placed : emitter.placeText axis value =
          emitter.writer.valueText axis.letter.isWhole place := by
        rw [placeText, found]
        rfl
      have begun : forcedMove axis.letter value feed note emitter =
          (word axis.letter (some place) true >>= fun axisWord =>
            rapidLine [axisWord] feed note) emitter :=
        bind_of_ok (by rw [amount, found]; rfl)
      rw [begun, placed, word_bind, Option.mapM_some]
      cases emitter.writer.valueText axis.letter.isWhole place with
      | error fault => rfl
      | ok text =>
          change rapidLine [emitter.slots.offer axis.letter (some text) true] feed note _ = _
          rw [Slots.offer_forced]
          rfl

theorem still_drive (place : Option Quantity) (feed : Quantity) (note : Option String) :
    Keeps options Still (drive axis place feed note) := by
  cases place with
  | none => exact Keeps.nothing still_progress ()
  | some place =>
      intro emitter serves
      change Still emitter (leaves (forcedMove axis.letter place feed note) emitter)
      rw [leaves, forcedMove_run]
      cases emitter.placeText axis place with
      | error fault => exact still_progress.refl emitter
      | ok text =>
          let filled := emitter.withSlots (emitter.slots.accept axis.letter (some text))
          have still : Still emitter filled := ⟨(Alike.refl emitter).withSlots _, rfl⟩
          exact still_progress.trans still
            (still_rapidLine _ feed note filled ⟨serves.options, serves.mode⟩)

theorem rapidLine_ends (words : List (Option String)) (feed : Quantity) (note : Option String)
    (emitter : Emitter) : (∃ after, rapidLine words feed note emitter = .ok () after) ↔
      ∃ rate, feed.toFloat .text = .ok rate := by
  rw [rapidLine_run]
  cases feed.toFloat .text with
  | error fault => exact iff_of_false (by rintro ⟨_, ⟨⟩⟩) (by rintro ⟨_, ⟨⟩⟩)
  | ok rate => exact iff_of_true ⟨_, rfl⟩ ⟨rate, rfl⟩

theorem drive_ends (place : Option Quantity) (feed : Quantity) (note : Option String)
    (emitter : Emitter) :
    (∃ after, drive axis place feed note emitter = .ok () after) ↔
      ∀ there, place = some there →
        (∃ text, emitter.placeText axis there = .ok text) ∧
          ∃ rate, feed.toFloat .text = .ok rate := by
  cases place with
  | none => exact iff_of_true ⟨emitter, rfl⟩ nofun
  | some there =>
      simp only [Option.some.injEq, forall_eq']
      change (∃ after, forcedMove axis.letter there feed note emitter = .ok () after) ↔ _
      rw [forcedMove_run]
      cases emitter.placeText axis there with
      | error fault => exact iff_of_false (by rintro ⟨_, ⟨⟩⟩) (by rintro ⟨⟨_, ⟨⟩⟩, -⟩)
      | ok text =>
          exact (rapidLine_ends _ feed note _).trans
            ⟨fun rated => ⟨⟨text, rfl⟩, rated⟩, And.right⟩

end Steps

/-- From an emitter like the given one, the action makes just these axes unknown. -/
def Loses (options : Options) (base : Emitter) (action : Emission Unit) (homes : Axis → Prop) :
    Prop :=
  ∀ emitter, Serves options emitter → Alike base emitter →
    Alike emitter (leaves action emitter) ∧
      ∀ axis, (leaves action emitter).position.get axis = none ↔
        homes axis ∨ emitter.position.get axis = none

/-- The feed rate, if there is one, fits into a number. -/
def IsRated (feed : Option Quantity) : Prop :=
  ∀ amount, feed = some amount → ∃ rate, amount.toFloat .text = .ok rate

theorem isRated_iff (feed : Option Quantity) :
    IsRated feed ↔ ∃ rate, feed.mapM (Quantity.toFloat .text) = .ok rate := by
  cases feed with
  | none => exact iff_of_true nofun ⟨none, rfl⟩
  | some amount =>
      simp only [IsRated, Option.some.injEq, forall_eq', Option.mapM_some]
      cases amount.toFloat .text with
      | error fault => exact iff_of_false (by rintro ⟨_, ⟨⟩⟩) (by rintro ⟨_, ⟨⟩⟩)
      | ok rate => exact iff_of_true ⟨rate, rfl⟩ ⟨some rate, rfl⟩

theorem home_ends (axis : Axis) (feed : Option Quantity) (emitter : Emitter) :
    (∃ after, home axis feed emitter = .ok () after) ↔ IsRated feed := by
  rw [isRated_iff, home_run]
  cases feed.mapM (Quantity.toFloat .text) with
  | error fault => exact iff_of_false (by rintro ⟨_, ⟨⟩⟩) (by rintro ⟨_, ⟨⟩⟩)
  | ok rate => exact iff_of_true ⟨_, rfl⟩ ⟨rate, rfl⟩

namespace Loses

variable {base : Emitter} {action : Emission Unit} {next : Unit → Emission Unit}
  {homes further : Axis → Prop}

theorem still (keeps : Keeps options Still action) : Loses options base action fun _ => False := by
  intro emitter serves alike
  have still := keeps emitter serves
  refine ⟨still.toAlike, fun axis => ?_⟩
  rw [still.position, false_or]

theorem home (axis : Axis) (feed : Option Quantity) :
    Loses options base (home axis feed) fun other => other = axis ∧ IsRated feed := by
  intro emitter serves alike
  have run := home_run axis feed emitter
  rw [isRated_iff]
  cases shown : feed.mapM (Quantity.toFloat .text) with
  | error fault =>
      rw [shown] at run
      rw [leaves_of_error run]
      exact ⟨⟨rfl, .inl rfl, rfl⟩, fun other => by simp⟩
  | ok rate =>
      rw [shown] at run
      rw [leaves_of_ok run]
      have homed := tells_homed emitter axis fun _ => feedText_isNumberText rate
      refine ⟨homed.toAlike, fun other => ?_⟩
      change (emitter.position.set axis none).get other = none ↔ _
      by_cases same : other = axis
      · simp [same]
      · rw [Coordinates.get_set_of_ne _ _ same]
        simp [same]

/-- What comes second is done only if the first can be. -/
theorem chain {possible : Prop} (first : Loses options base action homes)
    (ends : ∀ emitter, Alike base emitter → ((∃ after, action emitter = .ok () after) ↔ possible))
    (second : ∀ done, Loses options base (next done) further) :
    Loses options base (action >>= next) fun axis => homes axis ∨ possible ∧ further axis := by
  intro emitter serves alike
  obtain ⟨kept, unknown⟩ := first emitter serves alike
  have reached := ends emitter alike
  cases ended : action emitter with
  | error fault after =>
      rw [leaves_of_error (bind_of_error ended)]
      rw [leaves_of_error ended] at kept unknown
      have impossible : ¬possible := fun possible => by
        obtain ⟨_, ok⟩ := reached.mpr possible
        cases ended.symm.trans ok
      refine ⟨kept, fun axis => (unknown axis).trans ?_⟩
      simp [impossible]
  | ok result after =>
      rw [leaves_of_ok ended] at kept unknown
      obtain ⟨later, lost⟩ := second result after (kept.serves serves) (alike.trans kept)
      rw [leaves_of_eq (bind_of_ok ended)]
      have possible := reached.mp ⟨after, ended⟩
      refine ⟨kept.trans later, fun axis => (lost axis).trans ?_⟩
      rw [unknown]
      simp only [possible, true_and]
      exact or_left_comm.trans (or_assoc.symm)

theorem weaken (loses : Loses options base action homes)
    (same : ∀ axis, homes axis ↔ further axis) : Loses options base action further := by
  intro emitter serves alike
  obtain ⟨kept, unknown⟩ := loses emitter serves alike
  exact ⟨kept, fun axis => by rw [unknown, same]⟩

theorem behind (second : ∀ done, Loses options base (next done) homes)
    (first : Keeps options Still action)
    (ends : ∀ emitter, ∃ after, action emitter = .ok () after) :
    Loses options base (action >>= next) homes :=
  ((still first).chain (fun emitter _ => iff_of_true (ends emitter) trivial) second).weaken
    fun axis => by simp

theorem code {feature : Feature} {next : Option String → Emission Unit}
    (later : ∀ code, Loses options base (next code) homes) :
    Loses options base (Emitter.code feature >>= next) homes :=
  fun emitter => later (emitter.writer.target.code? feature) emitter

theorem homeIf (flag : Bool) (axis : Axis) (feed : Option Quantity)
    (later : ∀ done, Loses options base (next done) homes) :
    Loses options base (if flag = true then Emitter.home axis feed >>= next else next ())
      fun other => flag = true ∧ other = axis ∧ IsRated feed ∨
        (flag = true → IsRated feed) ∧ homes other := by
  cases flag with
  | true =>
      refine ((Loses.home axis feed).chain
        (fun emitter _ => home_ends axis feed emitter) later).weaken
        fun other => ?_
      simp
  | false => exact (later ()).weaken fun other => by simp

theorem of_run {other : Emission Unit} (run : ∀ emitter, Serves options emitter →
    action emitter = other emitter) (loses : Loses options base other homes) :
    Loses options base action homes := by
  intro emitter serves alike
  rw [leaves_of_eq (run emitter serves)]
  exact loses emitter serves alike

/-- However the first ends, what comes after it changes no position. -/
theorem followed (first : Loses options base action homes)
    (later : ∀ done, Keeps options Still (next done)) :
    Loses options base (action >>= next) homes := by
  intro emitter serves alike
  obtain ⟨kept, unknown⟩ := first emitter serves alike
  cases ended : action emitter with
  | error fault after =>
      rw [leaves_of_error (bind_of_error ended)]
      rw [leaves_of_error ended] at kept unknown
      exact ⟨kept, unknown⟩
  | ok result after =>
      rw [leaves_of_ok ended] at kept unknown
      have still := later result after (kept.serves serves)
      rw [leaves_of_eq (bind_of_ok ended)]
      exact ⟨kept.trans still.toAlike, fun axis => by rw [still.position, unknown]⟩

end Loses

section Phases

variable {base : Emitter}

theorem isRated_none : IsRated none := nofun

theorem still_startRun (comment : Option String) : Keeps options Still (startRun comment) := by
  refine Keeps.of_run (fun emitter serves => serves.options ▸ startRun_run comment emitter) ?_
  refine Keeps.chain still_progress (still_of_idle (keeps_head comment)) fun _ => ?_
  exact Keeps.change fun emitter _ => ⟨⟨rfl, .inl rfl, rfl⟩, rfl⟩

theorem loses_prepare : Loses options base (prepare options) fun axis =>
    options.homeXStart = true ∧ axis = .x ∨ options.homeYStart = true ∧ axis = .y := by
  have last (done : Unit) : Loses options base (do if options.homeYStart then home .y)
      fun axis => options.homeYStart = true ∧ axis = .y := by
    cases options.homeYStart with
    | true => exact (Loses.home .y none).weaken fun axis => by simp [isRated_none]
    | false => exact (Loses.still (Keeps.nothing still_progress ())).weaken fun axis => by simp
  refine Loses.code fun code => Loses.behind (fun _ => ?_)
    (fun emitter _ => still_commanded emitter [code] _) fun emitter => ⟨_, rfl⟩
  exact (Loses.homeIf options.homeXStart .x none last).weaken fun axis => by simp [isRated_none]

theorem prepare_ends (emitter : Emitter) : ∃ after, prepare options emitter = .ok () after := by
  rw [prepare_run, homeAtStart]
  obtain ⟨middle, first⟩ := (home_ends .x none emitter.measured).mpr isRated_none
  cases options.homeXStart with
  | true =>
      obtain ⟨after, second⟩ := (home_ends .y none middle).mpr isRated_none
      rw [if_pos rfl, bind_of_ok first]
      cases options.homeYStart with
      | true => exact ⟨after, second⟩
      | false => exact ⟨middle, rfl⟩
  | false =>
      obtain ⟨after, second⟩ := (home_ends .y none emitter.measured).mpr isRated_none
      cases options.homeYStart with
      | true => exact ⟨after, second⟩
      | false => exact ⟨emitter.measured, rfl⟩

theorem loses_settle : Loses options base (settle options) fun axis =>
    axis = .z ∧ options.HomesAtStart .z := by
  have last (done : Unit) : Loses options base
      (drive .z options.startZ options.rapidFeedZ (some "Start height")) fun _ => False :=
    Loses.still (still_drive _ _ _)
  have raised := Loses.homeIf options.homeZStart .z (some options.rapidFeedZ) last
  refine Loses.code fun code => Loses.behind (fun _ => ?_)
    (fun emitter _ => still_commanded emitter [code] _) fun emitter => ⟨_, rfl⟩
  refine ((Loses.still (still_rapidLine _ _ _)).chain
    (fun emitter _ => rapidLine_ends _ _ _ emitter) fun _ => raised).weaken fun axis => ?_
  have feeds : options.FeedsInRange ↔ (∃ rate, options.rapidFeedXY.toFloat .text = .ok rate) ∧
      ∃ rate, options.rapidFeedZ.toFloat .text = .ok rate :=
    ⟨fun feeds => ⟨feeds.xy, feeds.z⟩, fun feeds => ⟨feeds.1, feeds.2⟩⟩
  simp only [Options.HomesAtStart, feeds, IsRated, Option.some.injEq, forall_eq']
  tauto

theorem loses_startup : Loses options base startup options.HomesAtStart := by
  have selected : Keeps options Still selectXY := by
    intro emitter _
    rw [leaves_of_ok (selectXY_run emitter)]
    have inPlane : Still emitter (emitter.withSlots (emitter.slots.inPlane .xy)) :=
      ⟨(Alike.refl emitter).withSlots _, rfl⟩
    exact still_progress.trans inPlane (still_commanded _ _ _)
  have settled (done : Unit) : Loses options base (selectXY >>= fun _ => settle options)
      fun axis => axis = .z ∧ options.HomesAtStart .z :=
    Loses.behind (fun _ => loses_settle) selected fun emitter => ⟨_, selectXY_run emitter⟩
  have prepared (done : Unit) := (@loses_prepare options base).chain
    (fun emitter _ => iff_of_true (prepare_ends emitter) trivial) settled
  refine Loses.of_run (fun emitter serves => serves.options ▸ startup_run emitter) ?_
  refine (Loses.behind prepared still_laserOff fun emitter => ⟨_, rfl⟩).weaken fun axis => ?_
  cases axis <;> simp [Options.HomesAtStart]

theorem loses_startSection (facts : Section) : Loses options base (startSection facts)
    fun axis => facts.isFirst = true ∧ options.HomesAtStart axis := by
  cases first : facts.isFirst with
  | true =>
      rw [startSection_first first]
      exact (loses_startup.followed fun _ => still_of_idle (keeps_announce facts)).weaken
        fun axis => by simp
  | false =>
      rw [startSection_later first]
      exact (Loses.still (still_of_idle (keeps_announce facts))).weaken fun axis => by simp

theorem loses_level : Loses options base (level options) fun axis =>
    (∃ rate, options.rapidFeedXY.toFloat .text = .ok rate) ∧
      options.homeXEnd = true ∧ axis = .x := by
  have last (done : Unit) : Loses options base (drive .y options.endY options.rapidFeedXY)
      fun _ => False := Loses.still (still_drive _ _ _)
  have homed := Loses.homeIf options.homeXEnd .x none last
  refine ((Loses.still (still_rapidLine _ _ _)).chain
    (fun emitter _ => rapidLine_ends _ _ _ emitter) fun _ => homed).weaken fun axis => ?_
  simp [isRated_none]

theorem loses_endRun (same : base.options = options) : Loses options base endRun fun axis =>
    axis = .x ∧ options.homeXEnd = true ∧ base.Retreats := by
  subst same
  have parked : Loses base.options base (park base.options) fun axis =>
      axis = .x ∧ base.options.homeXEnd = true ∧ base.Retreats := by
    rw [park_eq]
    have raises (emitter : Emitter) (alike : Alike base emitter) :
        (∃ after, drive .z base.options.endZ base.options.rapidFeedZ none emitter = .ok () after) ↔
          ∀ height, base.options.endZ = some height →
            (∃ text, base.placeText .z height = .ok text) ∧
              ∃ rate, base.options.rapidFeedZ.toFloat .text = .ok rate := by
      rw [drive_ends, alike.placeText]
    refine ((Loses.still (still_drive _ _ _)).chain raises fun _ => loses_level).weaken
      fun axis => ?_
    constructor
    · rintro (impossible | ⟨height, feed, homed, same⟩)
      · exact impossible.elim
      · exact ⟨same, homed, feed, height⟩
    · rintro ⟨same, homed, feed, height⟩
      exact .inr ⟨height, feed, homed, same⟩
  have off (done : Unit) : Loses base.options base
      (laserOff base.options >>= fun _ => park base.options >>= fun _ => powerDown base.options)
      fun axis => axis = .x ∧ base.options.homeXEnd = true ∧ base.Retreats :=
    Loses.behind (fun _ => Loses.followed parked fun _ => still_of_idle keeps_powerDown)
      still_laserOff fun emitter => ⟨_, rfl⟩
  refine Loses.of_run (fun emitter serves => serves.options ▸ endRun_run emitter) ?_
  exact Loses.behind off (still_of_idle keeps_finishMoves) fun emitter => ⟨_, rfl⟩

end Phases

section Moves

theorem unknown_sentTo (target : Coordinates (Option Float)) (axis : Axis) :
    (emitter.sentTo target).position.get axis = none ↔
      ¬(target.get axis).isSome = true ∧ emitter.position.get axis = none := by
  change (moved emitter.position target).get axis = none ↔ _
  rw [moved, Coordinates.get_zipWith]
  cases target.get axis <;> simp

theorem still_rapidLines (x y z : Option String) :
    Keeps options Still (rapidLines options x y z) := by
  unfold rapidLines
  refine Keeps.optional still_progress (fun _ => still_rapidLine _ _ _) fun _ => ?_
  exact Keeps.branch (fun _ => still_rapidLine _ _ _) fun _ => Keeps.nothing still_progress ()

theorem position_rapid (serves : Serves options emitter) (target : Coordinates (Option Float)) :
    (leaves (rapid target) emitter).position = (emitter.sentTo target).position := by
  rw [leaves, rapid_run]
  cases emitter.targetTexts target with
  | error fault => rfl
  | ok texts =>
      rw [serves.options]
      exact (still_rapidLines _ _ _ ((emitter.sentTo target).accepted texts Axis.all)
        ⟨serves.options, serves.mode⟩).position

theorem position_linear (target : Coordinates (Option Float)) (feed : Option Float) :
    (leaves (linear target feed) emitter).position = (emitter.sentTo target).position := by
  rcases linear_outcome target feed emitter with
    ⟨fault, -, failed⟩ | ⟨_, _, after, ended, -, -, moves, -⟩
  · rw [leaves_of_error failed]
  · rw [leaves_of_ok ended, moves.position]

/-- An arc that has set out has given all axes their places. -/
theorem SetsOut.known (serves : Serves options emitter) (sets : emitter.SetsOut move)
    (axis : Axis) :
    (leaves (circular move) emitter).position.get axis ≠ none := by
  have sent (before : Emitter) (point : Coordinates Float) :
      (before.sentTo (point.map some)).position.get axis ≠ none := by
    intro unknown
    simpa using ((unknown_sentTo _ _).mp unknown).1
  cases sets with
  | @planar plane start inPlane begun =>
      have run : circular move emitter = planarArc move start plane emitter :=
        (circular_planar inPlane emitter).trans (by rw [begun])
      rw [leaves_of_eq run]
      rcases planarArc_outcome move start plane emitter with
        ⟨_, -, failed⟩ | ⟨_, _, -, -, failed⟩ | ⟨_, _, _, _, -, -, -, ended, cuts⟩
      · rw [leaves_of_error failed]
        exact sent emitter move.finish
      · rw [leaves_of_error failed]
        exact sent emitter move.finish
      · rw [leaves_of_ok ended, cuts.moves.position]
        exact sent emitter move.finish
  | @chorded start normal points noPlane turned begun drawn =>
      cases ended : circular move emitter with
      | ok done after =>
          rw [leaves_of_ok ended]
          rcases circular_ok ended with ⟨plane, _, inPlane, -⟩ | ⟨_, _, -, cut⟩
          · cases noPlane.symm.trans inPlane
          · obtain ⟨middle, -, last⟩ := chordedArc_last serves cut
            have there := @position_linear middle (move.finish.map some) move.feed
            rw [leaves_of_ok last] at there
            rw [there]
            exact sent middle move.finish
      | error fault after =>
          rw [leaves_of_error ended]
          obtain ⟨notices, run⟩ := circular_chords noPlane turned begun
          rw [drawn] at run
          have noticed : Serves options { emitter with notices } := ⟨serves.options, serves.mode⟩
          obtain ⟨point, rest, -, rfl⟩ := cuts_failed noticed (run.symm.trans ended)
          exact sent { emitter with notices } point

/-- An arc that does not set out leaves all places as they were. -/
theorem position_of_unset (stays : ¬emitter.SetsOut move) :
    (leaves (circular move) emitter).position = emitter.position := by
  cases begun : (move.start <|> emitter.position.complete?) with
  | none =>
      obtain ⟨_, refused⟩ := circular_unplaced begun
      rw [leaves_of_error refused]
  | some start =>
      cases inside : move.plane with
      | some plane => exact absurd (.planar inside begun) stays
      | none =>
          cases turned : move.axis with
          | none => rw [leaves_of_error (circular_axisless inside turned)]
          | some normal =>
              obtain ⟨notices, run⟩ := circular_chords inside turned begun
              cases drawn : chordPoints emitter.options move start normal with
              | ok points => exact absurd (.chorded inside turned begun drawn) stays
              | error fault =>
                  rw [drawn] at run
                  rw [leaves_of_error run]

end Moves

/-- An axis is unknown behind a call that sends it home, or that does not give its place where
it was unknown before. -/
theorem unknown_obey (serves : Serves options emitter) (call : Call) (axis : Axis) :
    (leaves (obey call) emitter).position.get axis = none ↔
      emitter.Homes axis call ∨ ¬emitter.Places axis call ∧ emitter.position.get axis = none := by
  obtain rfl := serves.options
  have moved {position : Coordinates (Option Float)} {target : Coordinates (Option Float)}
      (same : position = (emitter.sentTo target).position) : position.get axis = none ↔
        False ∨ ¬(target.get axis).isSome = true ∧ emitter.position.get axis = none := by
    rw [same, unknown_sentTo, false_or]
  have kept {position : Coordinates (Option Float)} {sent : Prop}
      (same : position = emitter.position) (unsent : ¬sent) :
      position.get axis = none ↔ False ∨ ¬sent ∧ emitter.position.get axis = none := by
    rw [same, false_or, and_iff_right unsent]
  have idle {action : Emission Unit} (keeps : Keeps emitter.options Idle action) :
      (leaves action emitter).position = emitter.position :=
    (still_of_idle keeps emitter serves).position
  have unsent : ¬((⟨none, none, none⟩ : Coordinates (Option Float)).get axis).isSome = true := by
    cases axis <;> simp [Coordinates.get]
  cases call with
  | precision places => exact kept rfl not_false
  | event event =>
      cases event with
      | startRun comment =>
          exact kept (still_startRun comment emitter serves).position unsent
      | startSection facts =>
          have lost := (loses_startSection facts emitter serves (.refl emitter)).2 axis
          exact lost.trans (or_congr_right (and_iff_right unsent).symm)
      | endSection =>
          refine kept ?_ unsent
          rw [obey, perform, leaves_of_ok (endSection_run emitter)]
          rfl
      | dwell seconds => exact kept (idle (keeps_dwell seconds)) unsent
      | power on =>
          refine kept ?_ unsent
          cases on <;> rfl
      | rapid target => exact moved (position_rapid serves target)
      | linear target feed => exact moved (position_linear target feed)
      | circular move =>
          by_cases sets : emitter.SetsOut move
          · refine iff_of_false (sets.known serves axis) ?_
            exact fun lost => lost.elim id fun stays => stays.1 sets
          · exact kept (position_of_unset sets) sets
      | endRun =>
          have lost := (loses_endRun rfl emitter serves (.refl emitter)).2 axis
          exact lost.trans (or_congr_right (and_iff_right unsent).symm)

/-- Whether the place of an axis was never given in a run, or the axis was sent home whenever it
had been given. -/
def Astray (start : Emitter) (calls : List Call) (axis : Axis) : Prop :=
  ∀ earlier call later, calls = earlier ++ call :: later →
    (start.after earlier).Places axis call →
    ∃ between homing rest, later = between ++ homing :: rest ∧
      (start.after (earlier ++ call :: between)).Homes axis homing

theorem not_places_of_homes (homes : emitter.Homes axis call) : ¬emitter.Places axis call := by
  cases call with
  | precision places => exact homes.elim
  | event event =>
      cases event with
      | startSection facts => cases axis <;> exact Bool.false_ne_true
      | endRun => cases axis <;> exact Bool.false_ne_true
      | _ => exact homes.elim

theorem astray_concat {start : Emitter} {calls : List Call} :
    start.Astray (calls ++ [call]) axis ↔ (start.after calls).Homes axis call ∨
      ¬(start.after calls).Places axis call ∧ start.Astray calls axis := by
  constructor
  · intro astray
    by_cases homes : (start.after calls).Homes axis call
    · exact .inl homes
    refine .inr ⟨fun places => ?_, fun earlier given later split places => ?_⟩
    · obtain ⟨between, homing, rest, none, -⟩ := astray calls call [] rfl places
      simp at none
    · obtain ⟨between, homing, rest, found, homed⟩ :=
        astray earlier given (later ++ [call]) (by simp [split]) places
      rcases List.eq_nil_or_concat' rest with rfl | ⟨others, last, rfl⟩
      · obtain ⟨rfl, same⟩ := List.append_inj' found rfl
        cases same
        exact absurd (split ▸ homed) homes
      · refine ⟨between, homing, others, ?_, homed⟩
        have joined : later ++ [call] = (between ++ homing :: others) ++ [last] := by
          rw [found]
          simp
        exact (List.append_inj' joined rfl).1
  · intro cases earlier given later split places
    rcases List.eq_nil_or_concat' later with rfl | ⟨others, last, rfl⟩
    · obtain ⟨rfl, same⟩ := List.append_inj' split rfl
      cases same
      rcases cases with homes | ⟨unplaced, -⟩
      · exact absurd places (not_places_of_homes homes)
      · exact absurd places unplaced
    · have joined : calls ++ [call] = (earlier ++ given :: others) ++ [last] := by
        rw [split]
        simp
      obtain ⟨rfl, same⟩ := List.append_inj' joined rfl
      cases same
      rcases cases with homes | ⟨-, astray⟩
      · exact ⟨others, call, [], rfl, homes⟩
      · obtain ⟨between, homing, rest, rfl, homed⟩ := astray earlier given others rfl places
        exact ⟨between, homing, rest ++ [call], by simp, homed⟩

theorem unknown_after {start : Emitter} (fresh : IsFresh options start) (calls : List Call)
    (axis : Axis) : (start.after calls).position.get axis = none ↔ start.Astray calls axis := by
  induction calls using List.reverseRecOn with
  | nil =>
      refine iff_of_true ?_ fun earlier call later split => by simp at split
      rw [after, List.foldl_nil, fresh.position]
      cases axis <;> rfl
  | append_singleton calls call ih =>
      rw [after_concat, unknown_obey (serves_after fresh.toServes calls), ih, astray_concat]

end Emitter

end GantryCode
