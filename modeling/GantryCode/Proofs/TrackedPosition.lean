import GantryCode.Proofs.Parking

namespace GantryCode

/-! Where the emitter takes the tool to be.

The position that the emitter reports for an axis is the place that the last word for
the axis sent it to, unless the axis is parked: then it is so only if the place of the
options happens to have the same text. An arc without a start begins at this position.
-/

namespace Coordinates

theorem get_of_complete? {α : Type u} {coordinates : Coordinates (Option α)} {whole : Coordinates α}
    (complete : coordinates.complete? = some whole) (axis : Axis) :
    coordinates.get axis = some (whole.get axis) := by
  obtain ⟨x, y, z⟩ := coordinates
  cases x <;> cases y <;> cases z <;> cases complete
  cases axis <;> rfl

end Coordinates

namespace Emitter

open Emission

variable {options : Options} {before after : Emitter} {parked : Parked}

theorem IsFresh.tracks {start : Emitter} (fresh : IsFresh options start) :
    Tracks options start .nowhere where
  toServes := fresh.toServes
  held := by
    intro axis text held
    rw [fresh.slots] at held
    cases axis <;> cases held

theorem tracks_setPrecision (places : Int) (tracks : Tracks options before .nowhere)
    (empty : ∀ axis : Axis, before.slots.get axis.letter = none) :
    Tracks options (leaves (setPrecision places) before) .nowhere where
  toServes := ⟨tracks.options, tracks.mode⟩
  held := by
    intro axis text held
    cases (empty axis).symm.trans held

theorem tracks_events {events : List Event} (tracks : Tracks options before parked)
    (returned : events.forM perform before = .ok () after) :
    Tracks options after (events.foldl options.repark parked) := by
  induction events generalizing before parked with
  | nil =>
      cases returned
      exact tracks
  | cons event rest ih =>
      obtain ⟨_, middle, ended, later⟩ := bind_ok returned
      exact ih (parks_perform event before middle parked tracks ended) later

theorem accounts_iff {axis : Axis} {value : Float} {text : String} {place : Option Quantity}
    (accounts : after.Accounts axis text place) (known : after.position.get axis = some value) :
    after.axisText axis value = .ok text ↔
      ∀ there, place = some there → after.placeText axis there = after.axisText axis value := by
  cases place with
  | none =>
      constructor
      · intro _ there absent
        cases absent
      · intro _
        exact accounts value known
  | some there =>
      have written : after.placeText axis there = .ok text := accounts
      constructor
      · intro same other equal
        cases equal
        rw [written, same]
      · intro same
        rw [← same there rfl, written]

/-- After any run of calls that all end well, at one precision, the text in the slot of
an axis is that of its position just if the axis is not parked, or parked at a place
with the same text. So it is of the place where an arc without a start begins. -/
theorem position_after_run {options : Options} {stamp : String} {start : Emitter}
    (created : create options stamp = .ok start) (places : Int) (events : List Event)
    {after : Emitter}
    (returned : events.forM perform (leaves (setPrecision places) start) = .ok () after)
    {axis : Axis} {text : String} (held : after.slots.get axis.letter = some text) :
    (∀ value, after.position.get axis = some value →
      (after.axisText axis value = .ok text ↔ ∀ place, options.parked events axis = some place →
        after.placeText axis place = after.axisText axis value)) ∧
    (∀ begin, startPoint none after = .ok begin after →
      (after.axisText axis (begin.get axis) = .ok text ↔
        ∀ place, options.parked events axis = some place →
          after.placeText axis place = after.axisText axis (begin.get axis))) := by
  have fresh := create_isFresh created
  have empty : ∀ axis : Axis, start.slots.get axis.letter = none := by
    intro axis
    rw [fresh.slots]
    cases axis <;> rfl
  have tracks := tracks_events (tracks_setPrecision places fresh.tracks empty) returned
  have accounts : after.Accounts axis text (options.parked events axis) :=
    tracks.held axis text held
  refine ⟨fun value known => accounts_iff accounts known, fun begin begun => ?_⟩
  obtain ⟨complete, -⟩ := startPoint_ok begun
  exact accounts_iff accounts (Coordinates.get_of_complete? complete axis)

theorem position_of_rapid :
    let events := [Event.rapid ⟨none, none, some 1⟩]
    let start := leaves (setPrecision 3) (fresh {})
    let after := leaves (events.forM perform) start
    create {} "" = .ok (fresh {}) ∧ events.forM perform start = .ok () after ∧
      after.slots.get Axis.z.letter = some "1" ∧ after.position.get .z = some 1 ∧
      after.axisText .z 1 = .ok "1" := by
  intro events start after
  have created : create {} "" = .ok (fresh {}) := create_fresh (by decide +kernel) rfl
  have returned : events.forM perform start = .ok () after :=
    ok_of_endsWell (by decide +kernel : endsWell (events.forM perform) start = true)
  have held : after.slots.get Axis.z.letter = some "1" := by decide +kernel
  have known : after.position.get .z = some 1 := by decide +kernel
  refine ⟨created, returned, held, known, ?_⟩
  refine ((position_after_run created 3 events returned held).1 1 known).mpr fun place parked => ?_
  cases parked

/-- The end of a run has raised the head, and the position has not heard of it. -/
theorem position_behind_shutdown :
    let options : Options := { endZ := some (.real 50) }
    let events := [Event.rapid ⟨none, none, some 1⟩, Event.endRun]
    let start := leaves (setPrecision 3) (fresh options)
    let after := leaves (events.forM perform) start
    create options "" = .ok (fresh options) ∧ endsWell (events.forM perform) start = true ∧
      after.slots.get Axis.z.letter = some "50" ∧ after.position.get .z = some 1 ∧
      after.axisText .z 1 ≠ .ok "50" := by
  intro options events start after
  refine ⟨create_fresh (by decide +kernel) rfl, ?_, ?_, ?_, ?_⟩ <;> decide +kernel

end Emitter

end GantryCode
