import GantryCode.Proofs.Chords
import GantryCode.Proofs.Destinations
import GantryCode.Proofs.Memory
import Mathlib.Algebra.Group.Int.Defs

namespace GantryCode

/-! Which words are written.

A move has a word for an axis just if its text is another than the one last written
for the axis. What does not move the tool has no part in this; nor has a call that
fails, unless it failed behind lines that it had written, which only the start of the
first section and the end of a run can do.
-/

namespace Event

/-- Whether an event neither moves the tool nor begins or ends anything. -/
def isAside : Event → Bool
  | .dwell _ => true
  | .power _ => true
  | .startSection facts => !facts.isFirst
  | _ => false

end Event

namespace Emitter

open Emission Reading

variable {options : Options} {emitter after : Emitter} {event : Event} {fault : Fault}

section Words

variable {texts : Coordinates (Option String)} {axis : Axis} {value : Float} {text : String}

theorem offerAxis_isSome (slots : Slots) (given : texts.get axis = some text) :
    (slots.offerAxis texts axis).isSome ↔ slots.get axis.letter ≠ some text := by
  rw [Slots.offerAxis, Slots.offer, given, Option.bind_some]
  by_cases held : slots.get axis.letter = some text
  · simp [held]
  · simp [held]

/-- The lines of a move have a word for an axis just if its slot held another text. -/
theorem gives_direct (direct : event.isDirect = true)
    (returned : perform event emitter = .ok () after)
    (sent : event.destination.get axis = some value) :
    ∃ text, emitter.axisText axis value = .ok text ∧
      (Gives (emitter.added (.event event)) axis.letter ↔
        emitter.slots.get axis.letter ≠ some text) := by
  obtain ⟨texts, lines, shown, moves⟩ := direct_moves direct returned
  obtain ⟨text, rendered, given⟩ := targetTexts_get shown sent
  have writes := (told_sentTo emitter event.destination).toWrites.trans moves.tells.toWrites
  have same : leaves (obey (.event event)) emitter = after := leaves_of_ok returned
  have written : emitter.added (.event event) = lines :=
    added_of_writes (by rw [same]; exact writes)
  refine ⟨text, rendered, ?_⟩
  rw [written, moves.gives, ← offerAxis_isSome _ given]
  exact and_iff_right (by cases axis <;> decide)

end Words

section Feed

end Feed

section Asides

theorem slots_aside (event : Event) (serves : Serves options emitter)
    (aside : event.isAside = true) :
    (leaves (perform event) emitter).slots = emitter.slots := by
  cases event with
  | dwell seconds =>
      obtain ⟨_, idles⟩ := keeps_dwell seconds emitter serves
      exact idles.slots
  | power on => cases on <;> exact slots_commanded _
  | startSection facts =>
      have later : facts.isFirst = false := by simpa [Event.isAside] using aside
      obtain ⟨_, idles⟩ := keeps_announce facts emitter serves
      rw [perform, startSection_later later]
      exact idles.slots
  | _ => cases aside

end Asides

section Failures

/-- Places can be written at all. Whether they can does not depend on the place. -/
structure CanPlace (emitter : Emitter) : Prop where
  shifted : ∀ (axis : Axis) (value : Float), ∃ place,
    (emitter.options.toolOffset.get axis).shift value = .ok place
  possible : emitter.writer.precisionFault? = none

theorem shift_ok_of_ok {offset : Quantity} {value place : Float}
    (moved : offset.shift value = .ok place) (other : Float) :
    ∃ place, offset.shift other = .ok place := by
  unfold Quantity.shift at moved ⊢
  cases found : offset.toFloat .sum with
  | error fault => simp [found, Except.map] at moved
  | ok amount => exact ⟨other + amount, rfl⟩

theorem canPlace_of_placed {point : Coordinates Float} {texts : Coordinates (Option String)}
    (shown : emitter.targetTexts (point.map some) = .ok texts) : emitter.CanPlace := by
  obtain ⟨places, shifted, written⟩ := targetTexts_point shown
  refine ⟨fun axis value => ?_, ?_⟩
  · have placed := shiftedTarget_get shifted axis
    rw [Coordinates.get_map, Option.mapM_some] at placed
    cases moved : (emitter.options.toolOffset.get axis).shift (point.get axis) with
    | error fault => simp [moved] at placed
    | ok place => exact shift_ok_of_ok moved value
  · cases possible : emitter.writer.precisionFault? with
    | none => rfl
    | some fault =>
        obtain ⟨text, rendered, -⟩ := targetTexts_get shown (Coordinates.get_map some point .x)
        unfold axisText at rendered
        cases moved : (emitter.options.toolOffset.get .x).shift (point.get .x) with
        | error fault => simp [moved, bind, Except.bind] at rendered
        | ok place =>
            have refused : emitter.writer.valueText Axis.x.letter.isWhole place = .ok text := by
              simpa [moved, bind, Except.bind] using rendered
            have fraction : Axis.x.letter.isWhole = false := rfl
            rw [fraction, Writer.valueText_places, possible] at refused
            cases refused

theorem CanPlace.placed (can : emitter.CanPlace) (point : Coordinates Float) :
    ∃ texts, emitter.targetTexts (point.map some) = .ok texts := by
  obtain ⟨x, movedX⟩ := can.shifted .x point.x
  obtain ⟨y, movedY⟩ := can.shifted .y point.y
  obtain ⟨z, movedZ⟩ := can.shifted .z point.z
  have shifted : Emitter.shifted emitter.options.toolOffset point = .ok ⟨x, y, z⟩ := by
    have each : emitter.options.toolOffset.x.shift point.x = .ok x ∧
      emitter.options.toolOffset.y.shift point.y = .ok y ∧
      emitter.options.toolOffset.z.shift point.z = .ok z := ⟨movedX, movedY, movedZ⟩
    rw [Emitter.shifted, each.1, each.2.1, each.2.2]
    rfl
  refine ⟨emitter.arcTexts ⟨x, y, z⟩, ?_⟩
  rw [targetTexts, shiftedTarget_some, shifted]
  exact axisTexts_of_possible can.possible ⟨x, y, z⟩

theorem CanPlace.told {before : Emitter} (can : before.CanPlace) (told : ToldInPlane before after) :
    after.CanPlace := by
  obtain ⟨lines, tells⟩ := told
  refine ⟨fun axis value => ?_, ?_⟩
  · rw [tells.options]
    exact can.shifted axis value
  · rw [Writer.precisionFault?, tells.precision]
    exact can.possible

theorem CanPlace.cuts {feed : Option Float} (can : emitter.CanPlace)
    (serves : Serves options emitter) (points : List (Coordinates Float)) :
    ∃ after, linearThrough feed points emitter = .ok () after := by
  induction points generalizing emitter with
  | nil => exact ⟨emitter, rfl⟩
  | cons point rest ih =>
      obtain ⟨texts, shown⟩ := can.placed point
      have told := keeps_linear (point.map some) feed emitter serves
      rcases linear_outcome (point.map some) feed emitter with
        ⟨fault, refused, -⟩ | ⟨_, _, middle, ended, -⟩
      · cases shown.symm.trans refused
      · rw [leaves_of_ok ended] at told
        obtain ⟨after, later⟩ := ih (can.told told) (toldInPlane_progress.serves told serves)
        exact ⟨after, (bind_of_ok ended).trans later⟩

/-- Cuts that fail have failed at the first of them, which was recorded all the same. -/
theorem cuts_failed {feed : Option Float} {points : List (Coordinates Float)}
    (serves : Serves options emitter)
    (failed : linearThrough feed points emitter = .error fault after) :
    ∃ point rest, points = point :: rest ∧ after = emitter.sentTo (point.map some) := by
  cases points with
  | nil => cases failed
  | cons point rest =>
      have told := keeps_linear (point.map some) feed emitter serves
      rcases linear_outcome (point.map some) feed emitter with
        ⟨other, -, refused⟩ | ⟨_, _, middle, ended, shown, -⟩
      · cases failed.symm.trans (bind_of_error refused)
        exact ⟨point, rest, rfl, rfl⟩
      · rw [leaves_of_ok ended] at told
        obtain ⟨reached, later⟩ := ((canPlace_of_placed shown).told told).cuts
          (toldInPlane_progress.serves told serves) rest
        cases failed.symm.trans ((bind_of_ok ended).trans later)

end Failures

end Emitter

end GantryCode
