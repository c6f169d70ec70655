import GantryCode.Proofs.Calls

namespace GantryCode

/-! Where the events send the tool.

An event that is one move tells of every axis that it has a target for, be it by a word
or by leaving the word out. An arc in chords ends with the move of its last chord.
-/

namespace Event

/-- Where an event sends the tool, axis by axis. -/
def destination : Event → Coordinates (Option Float)
  | .rapid target => target
  | .linear target _ => target
  | .circular move => move.finish.map some
  | _ => ⟨none, none, none⟩

def feed : Event → Option Float
  | .linear _ feed => feed
  | .circular move => move.feed
  | _ => none

/-- Whether an event is a single move of the controller. -/
def isDirect : Event → Bool
  | .rapid _ => true
  | .linear _ _ => true
  | .circular move => move.plane.isSome
  | _ => false

end Event

namespace Emitter

open Emission Reading

variable {options : Options}

section Direct

variable {emitter after : Emitter} {event : Event} {axis : Axis} {value : Float}

theorem direct_moves (direct : event.isDirect = true)
    (returned : perform event emitter = .ok () after) :
    ∃ texts lines, emitter.targetTexts event.destination = .ok texts ∧
      MovesAxes (emitter.sentTo event.destination) after texts Axis.all lines := by
  cases event with
  | rapid target => exact rapid_moves returned
  | linear target feed =>
      obtain ⟨texts, lines, shown, moves, -⟩ := linear_moves returned
      exact ⟨texts, lines, shown, moves⟩
  | circular move =>
      obtain ⟨plane, inPlane⟩ := Option.isSome_iff_exists.mp direct
      obtain ⟨_, _, finish, line, -, -, -, shown, cuts⟩ := circular_cuts inPlane returned
      exact ⟨emitter.arcTexts finish, [line], shown, cuts.moves⟩
  | _ => cases direct

theorem direct_held (direct : event.isDirect = true)
    (returned : perform event emitter = .ok () after)
    (sent : event.destination.get axis = some value) :
    ∃ text, emitter.axisText axis value = .ok text ∧ after.slots.get axis.letter = some text := by
  obtain ⟨texts, lines, shown, moves⟩ := direct_moves direct returned
  obtain ⟨text, rendered, given⟩ := targetTexts_get shown sent
  refine ⟨text, rendered, ?_⟩
  rw [moves.held, Slots.get_acceptAxes, given, if_pos (by cases axis <;> decide)]
  rfl

theorem linear_fed {target : Coordinates (Option Float)} {rate : Float}
    (returned : linear target (some rate) emitter = .ok () after) :
    after.slots.get .f = some (feedText rate) := by
  obtain ⟨texts, lines, shown, moves, fed, -⟩ := linear_moves returned
  exact fed

end Direct

section Chords

theorem between_finish {geometry : Geometry Float} {start center finish axis : Coordinates Float}
    {clockwise : Bool} {arc : Arc Float}
    (found : Arc.between geometry start center finish axis clockwise = .ok arc) :
    arc.finish = finish := by
  unfold Arc.between at found
  dsimp only at found
  split at found
  · cases found
  · split at found
    · cases found
    · cases found
      rfl

theorem chords_last {geometry : Geometry Float} {start center finish axis : Coordinates Float}
    {clockwise : Bool} {tolerance : Quantity} {limit : Int} {before after : Array Notice}
    {points : List (Coordinates Float)}
    (divided : chords geometry start center finish axis clockwise tolerance limit before =
      .ok points after) : ∃ others, points = others ++ [finish] := by
  obtain ⟨arc, _, found, divided⟩ := bind_ok divided
  have ends := between_finish (ofExcept_ok found).1
  have pointed : ∃ count : Nat, points = arc.points geometry count := by
    dsimp only at divided
    split at divided
    · obtain ⟨_, _, -, divided⟩ := bind_ok divided
      obtain ⟨count, _, -, divided⟩ := bind_ok divided
      obtain ⟨_, _, -, divided⟩ := bind_ok divided
      cases divided
      exact ⟨_, rfl⟩
    · obtain ⟨count, _, -, divided⟩ := bind_ok divided
      obtain ⟨_, _, -, divided⟩ := bind_ok divided
      cases divided
      exact ⟨_, rfl⟩
  obtain ⟨count, rfl⟩ := pointed
  rw [Arc.points, ends]
  exact ⟨_, rfl⟩

theorem linearThrough_last {feed : Option Float} {point : Coordinates Float}
    {others : List (Coordinates Float)} {emitter after : Emitter} (serves : Serves options emitter)
    (returned : linearThrough feed (others ++ [point]) emitter = .ok () after) :
    ∃ middle, ToldInPlane emitter middle ∧ linear (point.map some) feed middle = .ok () after := by
  induction others generalizing emitter with
  | nil =>
      obtain ⟨_, reached, ended, rest⟩ := bind_ok returned
      cases rest
      exact ⟨emitter, toldInPlane_progress.refl emitter, ended⟩
  | cons first rest ih =>
      obtain ⟨_, reached, ended, later⟩ := bind_ok returned
      have told := keeps_linear (first.map some) feed emitter serves
      rw [leaves_of_ok ended] at told
      obtain ⟨middle, further, last⟩ := ih (toldInPlane_progress.serves told serves) later
      exact ⟨middle, toldInPlane_progress.trans told further, last⟩

theorem noticing_ok {α : Type} {action : EStateM Fault (Array Notice) α} {result : α}
    {emitter after : Emitter} (ended : noticing action emitter = .ok result after) :
    ∃ notices, action emitter.notices = .ok result notices ∧ after = { emitter with notices } := by
  unfold noticing at ended
  cases found : action emitter.notices with
  | error fault notices => simp [found] at ended
  | ok value notices =>
      rw [found] at ended
      cases ended
      exact ⟨notices, rfl, rfl⟩

theorem chordedArc_last {move : ArcMove} {start axis : Coordinates Float} {emitter after : Emitter}
    (serves : Serves options emitter)
    (returned : chordedArc move start axis emitter = .ok () after) :
    ∃ middle, ToldInPlane emitter middle ∧
      linear (move.finish.map some) move.feed middle = .ok () after := by
  have progress := toldInPlane_progress
  rw [chordedArc, get_bind_apply] at returned
  obtain ⟨points, _, divided, returned⟩ := bind_ok returned
  obtain ⟨notices, found, rfl⟩ := noticing_ok divided
  obtain ⟨others, rfl⟩ := chords_last found
  obtain ⟨_, noted, noticed, returned⟩ := bind_ok returned
  cases noticed
  have told : ToldInPlane emitter
      { emitter with
        notices := notices.push (.arcOutsidePlanes (others ++ [move.finish]).length) } :=
    ⟨[], tells_of_writer_eq rfl (.inl rfl) rfl⟩
  obtain ⟨middle, further, last⟩ := linearThrough_last (progress.serves told serves) returned
  exact ⟨middle, progress.trans told further, last⟩

end Chords

section Events

variable {emitter after : Emitter} {axis : Axis} {value : Float}

theorem circular_held {move : ArcMove} (serves : Serves options emitter)
    (returned : circular move emitter = .ok () after) :
    ∃ text, emitter.axisText axis (move.finish.get axis) = .ok text ∧
      after.slots.get axis.letter = some text := by
  have sent := Coordinates.get_map some move.finish axis
  rcases circular_ok returned with ⟨plane, start, inPlane, -, -⟩ | ⟨normal, start, -, chorded⟩
  · have direct : (Event.circular move).isDirect = true := by simp [Event.isDirect, inPlane]
    exact direct_held direct returned sent
  · obtain ⟨middle, ⟨_, tells⟩, last⟩ := chordedArc_last serves chorded
    obtain ⟨text, rendered, held⟩ := direct_held
      (rfl : (Event.linear (move.finish.map some) move.feed).isDirect = true) last sent
    rw [tells.toAlike.axisText] at rendered
    exact ⟨text, rendered, held⟩

theorem circular_fed {move : ArcMove} {rate : Float} (serves : Serves options emitter)
    (returned : circular move emitter = .ok () after) (fed : move.feed = some rate) :
    after.slots.get .f = some (feedText rate) := by
  rcases circular_ok returned with ⟨plane, start, inPlane, -, -⟩ | ⟨normal, start, -, chorded⟩
  · obtain ⟨_, _, _, _, -, -, -, -, cuts⟩ := circular_cuts inPlane returned
    rw [cuts.fed, fed]
    rfl
  · obtain ⟨middle, -, last⟩ := chordedArc_last serves chorded
    rw [fed] at last
    exact linear_fed last

/-- Behind an event that ends well the slots hold the texts of where it sent the tool. -/
theorem perform_held {event : Event} (serves : Serves options emitter)
    (returned : perform event emitter = .ok () after)
    (sent : event.destination.get axis = some value) :
    ∃ text, emitter.axisText axis value = .ok text ∧ after.slots.get axis.letter = some text := by
  cases event with
  | rapid target => exact direct_held rfl returned sent
  | linear target feed => exact direct_held rfl returned sent
  | circular move =>
      have place : move.finish.get axis = value := by
        simpa [Event.destination] using sent
      subst place
      exact circular_held serves returned
  | _ => cases axis <;> cases sent

theorem perform_fed {event : Event} {rate : Float} (serves : Serves options emitter)
    (returned : perform event emitter = .ok () after) (fed : event.feed = some rate) :
    after.slots.get .f = some (feedText rate) := by
  cases event with
  | linear target feed =>
      cases fed
      exact linear_fed returned
  | circular move => exact circular_fed serves returned fed
  | _ => cases fed

end Events

end Emitter

end GantryCode
