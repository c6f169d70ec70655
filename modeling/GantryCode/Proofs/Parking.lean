import GantryCode.Proofs.Destinations

namespace GantryCode

/-! What the slots of the axes say of the place of the tool.

Moves that the caller asks for fill the slots and are recorded as positions. The moves
to the heights and places of the options fill the slots alone: until the axis is moved,
homed or forgotten, it stays parked where its slot says and not where its position
says.
-/

/-- The places of the options that axes were sent to, as far as the slots still say
so. -/
abbrev Parked := Axis → Option Quantity

namespace Parked

def nowhere : Parked := fun _ => none

/-- An axis that goes home is parked no more. -/
def homed (parked : Parked) (axis : Axis) (homes : Bool) : Parked :=
  if homes then Function.update parked axis none else parked

def sent (parked : Parked) (axis : Axis) : Option Quantity → Parked
  | some place => Function.update parked axis (some place)
  | none => parked

variable (parked : Parked) {axis other : Axis}

theorem homed_of_ne (different : other ≠ axis) (homes : Bool) :
    parked.homed axis homes other = parked other := by
  cases homes with
  | false => rfl
  | true => exact Function.update_of_ne different none parked

theorem sent_same (place : Quantity) : parked.sent axis (some place) axis = some place := by
  simp [sent]

theorem sent_of_ne (different : other ≠ axis) (place : Option Quantity) :
    parked.sent axis place other = parked other := by
  cases place with
  | none => rfl
  | some place => exact Function.update_of_ne different (some place) parked

/-- Axes with a target are parked no more. -/
def moved (parked : Parked) (target : Coordinates (Option Float)) : Parked :=
  fun axis => if (target.get axis).isSome then none else parked axis

end Parked

namespace Options

variable (options : Options)

def parkedByStartup (parked : Parked) : Parked :=
  (((parked.homed .x options.homeXStart).homed .y options.homeYStart).homed .z
    options.homeZStart).sent .z options.startZ

def parkedByShutdown (parked : Parked) : Parked :=
  ((parked.sent .z options.endZ).homed .x options.homeXEnd).sent .y options.endY

/-- What an event does to the parked axes. -/
def repark (parked : Parked) : Event → Parked
  | .startRun _ => .nowhere
  | .endSection => .nowhere
  | .startSection facts => if facts.isFirst then options.parkedByStartup parked else parked
  | .endRun => options.parkedByShutdown parked
  | event => parked.moved event.destination

def parked (events : List Event) : Parked :=
  events.foldl options.repark .nowhere

end Options

namespace Emitter

open Emission

variable {options : Options} {emitter before after : Emitter} {parked : Parked} {axis : Axis}

/-- The text of a place that is written as it stands in the options. -/
def placeText (emitter : Emitter) (axis : Axis) (place : Quantity) : Except Fault String := do
  emitter.writer.valueText axis.letter.isWhole (← place.toFloat .text)

/-- The text is that of the place where the axis is parked, or else that of its
position. -/
def Accounts (emitter : Emitter) (axis : Axis) (text : String) : Option Quantity → Prop
  | some place => emitter.placeText axis place = .ok text
  | none => ∀ value, emitter.position.get axis = some value → emitter.axisText axis value = .ok text

structure Tracks (options : Options) (emitter : Emitter) (parked : Parked) : Prop extends
    Serves options emitter where
  held : ∀ axis text, emitter.slots.get axis.letter = some text →
    emitter.Accounts axis text (parked axis)

theorem Alike.placeText (alike : Alike before after) : after.placeText = before.placeText := by
  funext axis place
  rw [Emitter.placeText, Emitter.placeText, alike.valueText]

theorem Alike.accounts (alike : Alike before after)
    (position : after.position.get axis = before.position.get axis) {text : String}
    {place : Option Quantity} (accounts : before.Accounts axis text place) :
    after.Accounts axis text place := by
  cases place with
  | some place =>
      change after.placeText axis place = .ok text
      rw [alike.placeText]
      exact accounts
  | none =>
      intro value known
      rw [position] at known
      rw [alike.axisText]
      exact accounts value known

/-- If it ends well, the action changes the parked axes like this. -/
def Parks (options : Options) (action : Emission Unit) (change : Parked → Parked) : Prop :=
  ∀ before after parked, Tracks options before parked → action before = .ok () after →
    Tracks options after (change parked)

section Rules

variable {action next : Emission Unit} {change later : Parked → Parked}

theorem Parks.chain (first : Parks options action change) (second : Parks options next later) :
    Parks options (action >>= fun _ => next) fun parked => later (change parked) := by
  intro before after parked tracks ended
  obtain ⟨_, middle, begun, rest⟩ := bind_ok ended
  exact second _ _ _ (first _ _ _ tracks begun) rest

theorem Parks.behind (second : Parks options next change) (first : Parks options action id) :
    Parks options (action >>= fun _ => next) change :=
  first.chain second

theorem Parks.nothing : Parks options (pure ()) id := by
  intro before after parked tracks ended
  cases ended
  exact tracks

theorem parks_still (alike : Alike before after)
    (slots : ∀ axis : Axis, after.slots.get axis.letter = before.slots.get axis.letter)
    (position : after.position = before.position) (tracks : Tracks options before parked) :
    Tracks options after parked where
  toServes := alike.serves tracks.toServes
  held := by
    intro axis text held
    rw [slots] at held
    exact alike.accounts (by rw [position]) (tracks.held axis text held)

theorem parks_idle (keeps : Keeps options Idle action) : Parks options action id := by
  intro before after parked tracks ended
  obtain ⟨lines, idles⟩ := keeps before tracks.toServes
  rw [leaves_of_ok ended] at idles
  exact parks_still idles.toAlike (fun axis => by rw [idles.slots]) idles.position tracks

theorem parks_commanded (given : List (Option String)) (note : Option String)
    (tracks : Tracks options before parked) :
    Tracks options (before.commanded given note) parked :=
  parks_still (writes_command before given note).toAlike (fun _ => by rw [slots_commanded]) rfl
    tracks

theorem parks_command (given : List (Option String)) (note : Option String) :
    Parks options (command given note) id := by
  intro before after parked tracks ended
  cases (command_run before given note).symm.trans ended
  exact parks_commanded given note tracks

end Rules

section Moves

theorem parks_home (axis : Axis) (feed : Option Quantity) :
    Parks options (home axis feed) fun parked => parked.homed axis true := by
  intro before after parked tracks ended
  have run := (home_run axis feed before).symm.trans ended
  cases shown : feed.mapM (Quantity.toFloat .text) with
  | error fault =>
      rw [shown] at run
      cases run
  | ok rate =>
      rw [shown] at run
      cases run
      have alike : Alike before (before.homed axis (rate.map feedText)) :=
        (tells_homed before axis fun _ => feedText_isNumberText _).toAlike
      change Tracks options (before.homed axis (rate.map feedText)) (parked.homed axis true)
      refine ⟨alike.serves tracks.toServes, fun other text held => ?_⟩
      rw [slots_homed] at held
      by_cases same : other = axis
      · subst same
        rw [Slots.get_set_same] at held
        cases held
      · have apart : other.letter ≠ axis.letter := fun equal => same (Axis.letter_injective equal)
        rw [Slots.get_set_of_ne _ _ apart,
          Slots.get_accept_of_ne _ _ _ (Axis.f_ne_letter other).symm] at held
        have kept : (before.homed axis (rate.map feedText)).position.get other =
            before.position.get other := Coordinates.get_set_of_ne before.position none same
        rw [parked.homed_of_ne same]
        exact alike.accounts kept (tracks.held other text held)

theorem parks_rapidLine (feed : Quantity) (note : Option String) :
    Parks options (rapidLine [] feed note) id := by
  intro before after parked tracks ended
  have run := (rapidLine_run [] feed note before).symm.trans ended
  cases shown : feed.toFloat .text with
  | error fault =>
      rw [shown] at run
      cases run
  | ok rate =>
      rw [shown] at run
      cases run
      let filled := before.withSlots (before.slots.accept .f (some (feedText rate)))
      have alike : Alike before filled := (Alike.refl before).withSlots _
      have kept : Tracks options filled parked := by
        refine parks_still alike (fun axis => ?_) rfl tracks
        rw [slots_withSlots, Slots.get_accept_of_ne _ _ _ (Axis.f_ne_letter axis).symm]
      exact parks_commanded _ note kept

theorem parks_forcedMove (axis : Axis) (value feed : Quantity) (note : Option String) :
    Parks options (forcedMove axis.letter value feed note) fun parked =>
      parked.sent axis (some value) := by
  intro before after parked tracks ended
  have fraction : axis.letter.isWhole = false := by cases axis <;> rfl
  rcases forcedMove_outcome axis value feed note before with
    ⟨fault, failed⟩ | ⟨fault, text, -, failed⟩ | ⟨place, text, rate, found, shown, moved⟩
  · cases ended.symm.trans failed
  · cases ended.symm.trans failed
  · cases ended.symm.trans moved
    change Tracks options _ (parked.sent axis (some value))
    refine parks_commanded _ note ⟨⟨tracks.options, tracks.mode⟩, fun other given held => ?_⟩
    rw [slots_withSlots, Slots.get_accept_of_ne _ _ _ (Axis.f_ne_letter other).symm] at held
    by_cases same : other = axis
    · subst same
      rw [Slots.get_accept, if_pos rfl] at held
      cases held
      rw [parked.sent_same]
      change (do before.writer.valueText other.letter.isWhole (← value.toFloat .text)) = _
      rw [found, fraction]
      exact shown
    · have apart : other.letter ≠ axis.letter := fun equal => same (Axis.letter_injective equal)
      rw [Slots.get_accept_of_ne _ _ _ apart] at held
      rw [parked.sent_of_ne same]
      exact tracks.held other given held

theorem parks_axes {target : Coordinates (Option Float)} {texts : Coordinates (Option String)}
    {lines : List Line} (shown : before.targetTexts target = .ok texts)
    (moves : MovesAxes (before.sentTo target) after texts Axis.all lines)
    (serves : Serves options before)
    (others : ∀ axis text, target.get axis = none → before.slots.get axis.letter = some text →
      before.Accounts axis text (parked axis)) : Tracks options after (parked.moved target) := by
  have alike : Alike before after :=
    (told_sentTo before target).toAlike.trans moves.tells.toAlike
  have position (axis : Axis) : after.position.get axis =
      (target.get axis <|> before.position.get axis) := by
    rw [moves.position]
    exact Coordinates.get_zipWith _ target before.position axis
  refine { alike.serves serves with held := fun axis text held => ?_ }
  rw [moves.held, Slots.get_acceptAxes, if_pos (by cases axis <;> decide)] at held
  cases sent : target.get axis with
  | none =>
      rw [targetTexts_get_none shown sent] at held
      have unparked : parked.moved target axis = parked axis := by simp [Parked.moved, sent]
      rw [unparked]
      exact alike.accounts (by rw [position, sent]; rfl) (others axis text sent held)
  | some value =>
      obtain ⟨written, rendered, given⟩ := targetTexts_get shown sent
      rw [given] at held
      cases held
      have unparked : parked.moved target axis = none := by simp [Parked.moved, sent]
      rw [unparked]
      intro known same
      rw [position, sent] at same
      cases same
      rw [alike.axisText]
      exact rendered

theorem parks_direct {event : Event} (direct : event.isDirect = true) :
    Parks options (perform event) fun parked => parked.moved event.destination := by
  intro before after parked tracks ended
  obtain ⟨texts, lines, shown, moves⟩ := direct_moves direct ended
  exact parks_axes shown moves tracks.toServes fun axis text _ held => tracks.held axis text held

theorem parks_circular (move : ArcMove) :
    Parks options (circular move) fun parked => parked.moved (Event.circular move).destination := by
  intro before after parked tracks ended
  rcases circular_ok ended with ⟨plane, start, inPlane, -, -⟩ | ⟨normal, start, -, chorded⟩
  · exact parks_direct (by simp [Event.isDirect, inPlane]) before after parked tracks ended
  · obtain ⟨middle, ⟨_, tells⟩, last⟩ := chordedArc_last tracks.toServes chorded
    obtain ⟨texts, lines, shown, moves, -⟩ := linear_moves last
    refine parks_axes shown moves (tells.serves tracks.toServes) fun axis text unsent _ => ?_
    cases (Coordinates.get_map some move.finish axis).symm.trans unsent

end Moves

section Phases

theorem parks_selectXY : Parks options selectXY id := by
  intro before after parked tracks ended
  cases (selectXY_run before).symm.trans ended
  have alike : Alike before (before.withSlots (before.slots.inPlane .xy)) :=
    (Alike.refl before).withSlots _
  refine parks_commanded _ _ (parks_still alike (fun axis => ?_) rfl tracks)
  rw [slots_withSlots, Slots.get_inPlane]

theorem parks_code {feature : Feature} {next : Option String → Emission Unit}
    {change : Parked → Parked} (later : ∀ code, Parks options (next code) change) :
    Parks options (Emitter.code feature >>= next) change := by
  intro before after parked tracks ended
  exact later (before.writer.target.code? feature) before after parked tracks ended

theorem parks_prepare : Parks options (prepare options) fun parked =>
    (parked.homed .x options.homeXStart).homed .y options.homeYStart := by
  have last : Parks options (do if options.homeYStart then home .y) fun parked =>
      parked.homed .y options.homeYStart := by
    cases options.homeYStart with
    | true => exact parks_home .y none
    | false => exact Parks.nothing
  refine parks_code fun code => Parks.behind ?_ (parks_command _ _)
  cases options.homeXStart with
  | true => exact (parks_home .x none).chain last
  | false => exact last

theorem parks_drive (axis : Axis) (place : Option Quantity) (feed : Quantity)
    (note : Option String) :
    Parks options (drive axis place feed note) fun parked => parked.sent axis place := by
  cases place with
  | none => exact Parks.nothing
  | some place => exact parks_forcedMove axis place feed note

theorem parks_settle : Parks options (settle options) fun parked =>
    (parked.homed .z options.homeZStart).sent .z options.startZ := by
  have last : Parks options
      (drive .z options.startZ options.rapidFeedZ (some "Start height")) fun parked =>
      parked.sent .z options.startZ := parks_drive .z _ _ _
  refine parks_code fun code => Parks.behind ?_ (parks_command _ _)
  refine Parks.behind ?_ (parks_rapidLine _ _)
  cases options.homeZStart with
  | true => exact (parks_home .z _).chain last
  | false => exact last

theorem parks_level : Parks options (level options) fun parked =>
    (parked.homed .x options.homeXEnd).sent .y options.endY := by
  unfold level
  refine Parks.behind ?_ (parks_rapidLine _ _)
  cases options.homeXEnd with
  | true => exact (parks_home .x none).chain (parks_drive .y _ _ _)
  | false => exact parks_drive .y _ _ _

theorem parks_park : Parks options (park options) options.parkedByShutdown := by
  rw [park_eq]
  exact (parks_drive .z options.endZ _ _).chain parks_level

theorem parks_startup : Parks options startup options.parkedByStartup := by
  intro before after parked tracks ended
  have run := (startup_run before).symm.trans ended
  rw [tracks.options] at run
  have phases : Parks options (laserOff options >>= fun _ => prepare options >>= fun _ =>
      selectXY >>= fun _ => settle options) options.parkedByStartup :=
    Parks.behind (parks_prepare.chain (Parks.behind parks_settle parks_selectXY))
      (parks_command _ _)
  exact phases before after parked tracks run

theorem parks_endRun : Parks options endRun options.parkedByShutdown := by
  intro before after parked tracks ended
  have run := (endRun_run before).symm.trans ended
  rw [tracks.options] at run
  have parked' : Parks options (park options >>= fun _ => powerDown options)
      options.parkedByShutdown := parks_park.chain (parks_idle keeps_powerDown)
  have phases : Parks options (finishMoves >>= fun _ => laserOff options >>= fun _ =>
      park options >>= fun _ => powerDown options) options.parkedByShutdown :=
    Parks.behind (Parks.behind parked' (parks_command _ _)) (parks_idle keeps_finishMoves)
  exact phases before after parked tracks run

/-- Where the slots of the axes are emptied, nothing is parked. -/
theorem tracks_nowhere (alike : Alike before after)
    (empty : ∀ axis : Axis, after.slots.get axis.letter = none) (serves : Serves options before) :
    Tracks options after .nowhere where
  toServes := alike.serves serves
  held := by
    intro axis text held
    rw [empty] at held
    cases held

theorem parks_startRun (comment : Option String) :
    Parks options (startRun comment) fun _ => .nowhere := by
  intro before after parked tracks ended
  have run := (startRun_run comment before).symm.trans ended
  rw [tracks.options] at run
  obtain ⟨_, headed, begun, forgotten⟩ := bind_ok run
  obtain ⟨_, idles⟩ := keeps_head comment before tracks.toServes
  rw [leaves_of_ok begun] at idles
  cases forgotten
  exact tracks_nowhere (idles.toAlike.withSlots _) (fun axis => by cases axis <;> rfl)
    tracks.toServes

theorem parks_endSection : Parks options endSection fun _ => .nowhere := by
  intro before after parked tracks ended
  cases (endSection_run before).symm.trans ended
  have back : Alike before before.backInXY := (tells_backInXY before).1.toAlike
  refine tracks_nowhere (back.withSlots _) (fun axis => ?_) tracks.toServes
  rw [slots_withSlots, Slots.get_forget]
  exact if_pos (by cases axis <;> decide)

theorem parks_startSection (facts : Section) :
    Parks options (startSection facts) fun parked =>
      if facts.isFirst then options.parkedByStartup parked else parked := by
  have announced : Parks options (announce facts) id := parks_idle (keeps_announce facts)
  cases first : facts.isFirst with
  | true =>
      rw [startSection_first first]
      exact parks_startup.chain announced
  | false =>
      rw [startSection_later first]
      exact announced

theorem parks_power (on : Bool) : Parks options (power on) id := by
  intro before after parked tracks ended
  cases on with
  | true => exact parks_command _ _ before after parked tracks ended
  | false => exact parks_command _ _ before after parked tracks ended

theorem parks_perform (event : Event) :
    Parks options (perform event) fun parked => options.repark parked event := by
  cases event with
  | startRun comment => exact parks_startRun comment
  | startSection facts => exact parks_startSection facts
  | endSection => exact parks_endSection
  | dwell seconds =>
      have unmoved (parked : Parked) : options.repark parked (.dwell seconds) = parked := by
        funext axis
        cases axis <;> rfl
      simp only [unmoved]
      exact parks_idle (keeps_dwell seconds)
  | power on =>
      have unmoved (parked : Parked) : options.repark parked (.power on) = parked := by
        funext axis
        cases axis <;> rfl
      simp only [unmoved]
      exact parks_power on
  | rapid target => exact parks_direct rfl
  | linear target feed => exact parks_direct rfl
  | circular move => exact parks_circular move
  | endRun => exact parks_endRun

end Phases

end Emitter

end GantryCode
