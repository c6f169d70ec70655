import GantryCode.Proofs.ArcPlanes
import GantryCode.Proofs.ExactEmission
import GantryCode.Proofs.ExactValue
import GantryCode.Proofs.TrackedPosition
import GantryCode.Proofs.Whereabouts

namespace GantryCode

/-! Arcs without a word for either axis of their plane.

The controller ends such an arc where it begins, after a full circle. The words are left out
if the texts of the end are those that were written last, so it takes no full circle but only
an end that is rounded to the same places as the start.
-/

namespace Emitter

open Emission Reading
open Binary64 (exactValue)
open Decimal (IsFinite IsNearest)

variable {options : Options} {start emitter after : Emitter} {event : Event} {calls : List Call}
  {axis : Axis} {value place : Float} {places : Int} {move : ArcMove} {plane : Plane}

/-- Both the slot of an axis and its position are left by a move that ended well, which wrote
this many decimal places. -/
inductive LastSent (start : Emitter) (axis : Axis) : List Call → Int → Prop where
  | sent {calls : List Call} {event : Event} {after : Emitter} {value : Float}
      (returned : perform event (start.after calls) = .ok () after)
      (given : event.destination.get axis = some value) :
      LastSent start axis (calls ++ [.event event]) (start.after calls).writer.precision
  | kept {calls : List Call} {places : Int} (earlier : LastSent start axis calls places)
      (call : Call)
      (slot : (leaves (obey call) (start.after calls)).slots.get axis.letter =
        (start.after calls).slots.get axis.letter)
      (position : (leaves (obey call) (start.after calls)).position.get axis =
        (start.after calls).position.get axis) :
      LastSent start axis (calls ++ [call]) places

section Texts

/-- The text of an axis with this many decimal places. -/
def axisTextAt (emitter : Emitter) (places : Int) : Axis → Float → Except Fault String :=
  (leaves (setPrecision places) emitter).axisText

theorem axisTextAt_congr (places : Int) (same : after.options = emitter.options) :
    after.axisTextAt places = emitter.axisTextAt places := by
  funext axis value
  change (after.options.toolOffset.get axis).shift value >>= _ =
    (emitter.options.toolOffset.get axis).shift value >>= _
  rw [same]
  rfl

theorem axisTextAt_current : emitter.axisTextAt emitter.writer.precision = emitter.axisText := rfl

theorem axisText_shifted (possible : emitter.writer.precisionFault? = none)
    (shifted : (emitter.options.toolOffset.get axis).shift value = .ok place) :
    emitter.axisText axis value = .ok (emitter.placesText place) := by
  have fraction : axis.letter.isWhole = false := by cases axis <;> rfl
  rw [axisText, shifted, fraction]
  exact valueText_of_possible possible place

theorem shifted_get {offset : Coordinates Quantity} {point moved : Coordinates Float}
    (shifted : shifted offset point = .ok moved) (axis : Axis) :
    (offset.get axis).shift (point.get axis) = .ok (moved.get axis) := by
  have each : shiftedTarget offset (point.map some) = .ok (moved.map some) := by
    rw [shiftedTarget_some, shifted]
    rfl
  have placed := shiftedTarget_get each axis
  rw [Coordinates.get_map, Coordinates.get_map, Option.mapM_some] at placed
  cases found : (offset.get axis).shift (point.get axis) with
  | error fault => simp [found] at placed
  | ok place =>
      rw [found] at placed
      cases placed
      rfl

end Texts

section Positions

theorem get_sentTo {target : Coordinates (Option Float)} (sent : target.get axis = some value) :
    (emitter.sentTo target).position.get axis = some value := by
  change (moved emitter.position target).get axis = some value
  rw [moved, Coordinates.get_zipWith, sent]
  rfl

/-- Behind an event that ends well the position of an axis is where it sent the tool. -/
theorem perform_placed (serves : Serves options emitter)
    (returned : perform event emitter = .ok () after)
    (sent : event.destination.get axis = some value) :
    after.position.get axis = some value := by
  have direct (single : event.isDirect = true) : after.position.get axis = some value := by
    obtain ⟨_, _, -, moves⟩ := direct_moves single returned
    rw [moves.position]
    exact get_sentTo sent
  cases event with
  | rapid target => exact direct rfl
  | linear target feed => exact direct rfl
  | circular move =>
      rcases circular_ok returned with ⟨plane, _, inPlane, -⟩ | ⟨normal, _, -, chorded⟩
      · exact direct (by simp [Event.isDirect, inPlane])
      · obtain ⟨middle, -, last⟩ := chordedArc_last serves chorded
        have there := @position_linear middle (move.finish.map some) move.feed
        rw [leaves_of_ok last] at there
        rw [there]
        exact get_sentTo sent
  | _ => cases axis <;> cases sent

/-- The slot of the axis has the text of its position at the places of that move. -/
theorem LastSent.held (serves : Serves options start) (sent : start.LastSent axis calls places) :
    ∃ value text, (start.after calls).position.get axis = some value ∧
      (start.after calls).slots.get axis.letter = some text ∧
      (start.after calls).axisTextAt places axis value = .ok text := by
  have optioned (calls : List Call) : (start.after calls).options = options :=
    (serves_after serves calls).options
  induction sent with
  | @sent calls event after value returned given =>
      have served := serves_after serves calls
      obtain ⟨text, rendered, held⟩ := perform_held served returned given
      have placed := perform_placed served returned given
      have reached : start.after (calls ++ [.event event]) = after := by
        rw [after_concat, obey, leaves_of_ok returned]
      rw [← axisTextAt_current, ← axisTextAt_congr _ ((optioned _).trans (optioned _).symm),
        reached] at rendered
      rw [reached]
      exact ⟨value, text, placed, held, rendered⟩
  | @kept calls places earlier call slot position ih =>
      obtain ⟨value, text, placed, held, rendered⟩ := ih
      rw [← axisTextAt_congr places ((optioned (calls ++ [call])).trans (optioned calls).symm)]
        at rendered
      refine ⟨value, text, ?_, ?_, rendered⟩
      · rw [after_concat]
        exact position.trans placed
      · rw [after_concat]
        exact slot.trans held

theorem position_aside (serves : Serves options emitter) (aside : event.isAside = true) :
    (leaves (perform event) emitter).position = emitter.position := by
  cases event with
  | dwell seconds =>
      obtain ⟨_, idles⟩ := keeps_dwell seconds emitter serves
      exact idles.position
  | power on => cases on <;> rfl
  | startSection facts =>
      have later : facts.isFirst = false := by simpa [Event.isAside] using aside
      obtain ⟨_, idles⟩ := keeps_announce facts emitter serves
      rw [perform, startSection_later later]
      exact idles.position
  | _ => cases aside

/-- A dwell, a switch of the laser and a section behind the first make no difference. -/
theorem LastSent.aside (serves : Serves options start) (sent : start.LastSent axis calls places)
    (event : Event) (aside : event.isAside = true) :
    start.LastSent axis (calls ++ [.event event]) places := by
  have served := serves_after serves calls
  refine sent.kept (.event event) ?_ ?_
  · exact congrArg (·.get axis.letter) (slots_aside event served aside)
  · exact congrArg (·.get axis) (position_aside served aside)

end Positions

section Words

/-- The line of an arc has no words for some axes just if these hold the texts of its end. -/
theorem wordless_circular (inPlane : move.plane = some plane)
    (returned : perform (.circular move) emitter = .ok () after) (axes : List Axis) :
    (∀ axis ∈ axes, ¬Gives (emitter.added (.event (.circular move))) axis.letter) ↔
      ∀ axis ∈ axes, ∃ text, emitter.axisText axis (move.finish.get axis) = .ok text ∧
        emitter.slots.get axis.letter = some text := by
  have direct : (Event.circular move).isDirect = true := by simp [Event.isDirect, inPlane]
  refine forall₂_congr fun axis _ => ?_
  obtain ⟨text, rendered, gives⟩ :=
    gives_direct direct returned (Coordinates.get_map some move.finish axis)
  rw [gives, not_not, rendered]
  simp only [Except.ok.injEq, exists_eq_left']

theorem placesText_eq_iff {other : Float} (finite : IsFinite value) (also : IsFinite other) :
    emitter.placesText value = emitter.placesText other ↔
      ∃ units, IsNearest (exactValue value * 10 ^ emitter.writer.precision.toNat) units ∧
        IsNearest (exactValue other * 10 ^ emitter.writer.precision.toNat) units :=
  Decimal.rounded_eq_iff _ finite also

/-- In any run an arc that starts where the tool is and ends well is one line. It has no word
for either axis of its plane just if both slots hold the texts of its end. A slot holds the
text that its axis had at the start of the arc, if a move that ended well has left it. So at
one precision it takes a start and an end that are rounded to the same multiples. -/
theorem wordless_arcs_after_run {options : Options} {stamp : String} {start : Emitter}
    (created : create options stamp = .ok start) (calls : List Call)
    (inPlane : move.plane = some plane) (unstarted : move.start = none)
    (returned : perform (.circular move) (start.after calls) = .ok () after) :
    let before := start.after calls
    let places := before.writer.precision
    ∃ line begin here there, before.added (.event (.circular move)) = [line] ∧
      (words line.chars).filter isMove = [(if move.clockwise then "G2" else "G3").toList] ∧
      before.position.complete? = some begin ∧
      shifted options.toolOffset begin = .ok here ∧
      shifted options.toolOffset move.finish = .ok there ∧
      ((∀ axis ∈ plane.axes, ¬Gives [line] axis.letter) ↔
        ∀ axis ∈ plane.axes, ∃ text, before.axisText axis (move.finish.get axis) = .ok text ∧
          before.slots.get axis.letter = some text) ∧
      (∀ axis earlier, start.LastSent axis calls earlier →
        ∃ text, before.slots.get axis.letter = some text ∧
          before.axisTextAt earlier axis (begin.get axis) = .ok text) ∧
      ((∀ axis ∈ plane.axes, start.LastSent axis calls places ∧
          IsFinite (here.get axis) ∧ IsFinite (there.get axis)) →
        ((∀ axis ∈ plane.axes, ¬Gives [line] axis.letter) ↔
          ∀ axis ∈ plane.axes, ∃ units,
            IsNearest (exactValue (here.get axis) * 10 ^ places.toNat) units ∧
            IsNearest (exactValue (there.get axis) * 10 ^ places.toNat) units)) := by
  intro before places
  have fresh := create_isFresh created
  have serves : Serves options before := serves_after fresh.toServes calls
  obtain ⟨line, _, _, _, _, written, -, -, -, -, code, -⟩ := circular_words serves inPlane returned
  obtain ⟨begin, _, there, _, known, figures, possible, -, -⟩ := circular_cuts inPlane returned
  obtain ⟨_, here, -, begun, ends, -⟩ := arcFigures_ok figures
  rw [unstarted] at known
  have complete : before.position.complete? = some begin := known
  have wordless := wordless_circular inPlane returned plane.axes
  rw [written] at wordless
  have held (axis : Axis) (earlier : Int) (sent : start.LastSent axis calls earlier) :
      ∃ text, before.slots.get axis.letter = some text ∧
        before.axisTextAt earlier axis (begin.get axis) = .ok text := by
    obtain ⟨value, text, placed, slot, rendered⟩ := sent.held fresh.toServes
    cases (Coordinates.get_of_complete? complete axis).symm.trans placed
    exact ⟨text, slot, rendered⟩
  refine ⟨line, begin, here, there, written, code, complete,
    serves.options ▸ begun, serves.options ▸ ends, wordless, held, fun sent => ?_⟩
  rw [wordless]
  refine forall₂_congr fun axis among => ?_
  obtain ⟨last, finite, also⟩ := sent axis among
  obtain ⟨text, slot, rendered⟩ := held axis places last
  have begins : text = before.placesText (here.get axis) := by
    rw [axisTextAt_current, axisText_shifted possible (shifted_get begun axis)] at rendered
    exact (Except.ok.inj rendered).symm
  rw [axisText_shifted possible (shifted_get ends axis), slot, begins,
    ← placesText_eq_iff finite also]
  simp only [Except.ok.injEq, exists_eq_left', Option.some.injEq]
  rfl

/-- The laser waits in front of an arc that ends a little further than it starts. -/
theorem wordless_arc_behind_dwell :
    let there := Event.rapid ⟨some 1, some 0, some 0⟩
    let calls := [Call.event there, .event (.dwell 1)]
    let move : ArcMove :=
      { center := ⟨0, 0, 0⟩, finish := ⟨1.0004, 0, 0⟩, feed := some 600, plane := some .xy }
    create {} "" = .ok (fresh {}) ∧ move.plane = some .xy ∧ move.start = none ∧
      endsWell (perform (.circular move)) ((fresh {}).after calls) = true ∧
      ((fresh {}).after calls).writer.precision = 3 ∧
      (∀ axis ∈ Plane.xy.axes,
        ¬Gives (((fresh {}).after calls).added (.event (.circular move))) axis.letter) ∧
      ∃ units, IsNearest (exactValue 1 * 10 ^ 3) units ∧
        IsNearest (exactValue 1.0004 * 10 ^ 3) units := by
  intro there calls move
  have created : create {} "" = .ok (fresh {}) := create_fresh (by decide +kernel) rfl
  have ended : endsWell (perform (.circular move)) ((fresh {}).after calls) = true := by
    decide +kernel
  have places : ((fresh {}).after calls).writer.precision = 3 := by decide +kernel
  have sent : ∀ axis ∈ Plane.xy.axes, (fresh {}).LastSent axis calls 3 := by
    have moved : perform there ((fresh {}).after []) = .ok () _ :=
      ok_of_endsWell (by decide +kernel)
    have begun (axis : Axis) (value : Float) (given : there.destination.get axis = some value) :=
      (@LastSent.sent (fresh {}) axis [] there _ value moved given).aside
        (create_isFresh created).toServes (.dwell 1) rfl
    intro axis among
    cases axis with
    | x => exact begun .x 1 rfl
    | y => exact begun .y 0 rfl
    | z => cases among with | tail _ rest => cases rest with | tail _ none => cases none
  obtain ⟨line, begin, here, finish, written, -, known, begun, reached, -, -, wordless⟩ :=
    @wordless_arcs_after_run _ move .xy {} "" (fresh {}) created calls rfl rfl
      (ok_of_endsWell ended)
  have starts : ((fresh {}).after calls).position.complete? = some ⟨1, 0, 0⟩ := by decide +kernel
  have unmoved : shifted ({} : Options).toolOffset ⟨1, 0, 0⟩ = .ok ⟨1, 0, 0⟩ := by decide +kernel
  have further : shifted ({} : Options).toolOffset ⟨1.0004, 0, 0⟩ = .ok ⟨1.0004, 0, 0⟩ := by
    decide +kernel
  cases starts.symm.trans known
  cases unmoved.symm.trans begun
  cases further.symm.trans reached
  have finite : ∀ axis ∈ Plane.xy.axes, IsFinite (Coordinates.get ⟨1, 0, 0⟩ axis) ∧
      IsFinite (Coordinates.get ⟨1.0004, 0, 0⟩ axis) := by decide +kernel
  have none : ∀ axis ∈ Plane.xy.axes,
      ¬Gives (((fresh {}).after calls).added (.event (.circular move))) axis.letter := by
    decide +kernel
  have closes : ∀ axis ∈ Plane.xy.axes, ¬Gives [line] axis.letter := written ▸ none
  rw [places, (rfl : (3 : Int).toNat = 3)] at wordless
  have near := (wordless fun axis among => ⟨sent axis among, finite axis among⟩).mp closes
  exact ⟨created, rfl, rfl, ended, places, none, near .x (.head _)⟩

/-- The start and the end differ by less than the last decimal place. -/
theorem short_arc_closes :
    let before := (fresh {}).after [.event (.rapid ⟨some 0, some 0, some 0⟩)]
    let move : ArcMove :=
      { center := ⟨1, 0, 0⟩, finish := ⟨0, -0.0001, 0⟩, feed := some 600, plane := some .xy }
    create {} "" = .ok (fresh {}) ∧ 0 ≤ before.writer.precision ∧
      (∀ axis, before.position.get axis ≠ none) ∧ move.plane = some .xy ∧ move.start = none ∧
      endsWell (perform (.circular move)) before = true ∧
      before.added (.event (.circular move)) = [.command none "G17 G3 I1 J0 F600" none] ∧
      (∀ axis ∈ Plane.xy.axes, ¬Gives (before.added (.event (.circular move))) axis.letter) ∧
      before.position.get .y ≠ some (move.finish.get .y) := by
  intro before move
  refine ⟨create_fresh (by decide +kernel) rfl, by decide +kernel, ?_, rfl, rfl, ?_, ?_, ?_, ?_⟩
  · intro axis
    cases axis <;> decide +kernel
  all_goals decide +kernel

end Words

end Emitter

end GantryCode
