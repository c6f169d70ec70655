import GantryCode.Proofs.TrackedPosition
import GantryCode.Proofs.Whereabouts

namespace GantryCode

/-! Arcs that start where the tool is.

Such an arc in a principal plane is refused if the place of any axis is not known. Its center
is only given along the two axes of its plane, so that it could do without the third.
-/

/-- The faults that G code has names for: its machines, its parameters and its arcs. -/
def Fault.isOfCode : Fault → Bool
  | .unknownTarget _ | .undefinedParameter _ | .undefinedGroup _ | .zeroAxis | .startOnAxis
  | .missingAxis | .unknownPosition => true
  | _ => false

theorem Coordinates.complete?_eq_none {α : Type} {coordinates : Coordinates (Option α)} :
    coordinates.complete? = none ↔ ∃ axis, coordinates.get axis = none := by
  constructor
  · intro incomplete
    obtain ⟨x, y, z⟩ := coordinates
    cases x with
    | none => exact ⟨.x, rfl⟩
    | some x =>
        cases y with
        | none => exact ⟨.y, rfl⟩
        | some y =>
            cases z with
            | none => exact ⟨.z, rfl⟩
            | some z => cases incomplete
  · rintro ⟨axis, unknown⟩
    cases complete : coordinates.complete? with
    | none => rfl
    | some whole => cases unknown.symm.trans (get_of_complete? complete axis)

namespace Emitter

open Emission

variable {options : Options} {emitter : Emitter} {move : ArcMove} {plane : Plane}

/-- The arc fails for a reason of the G code. -/
def RejectsArc (emitter : Emitter) (move : ArcMove) : Prop :=
  ∃ fault after, circular move emitter = .error fault after ∧ fault.isOfCode = true

/-- No number has a fault of the G code. -/
def IsPlainFault (fault : Fault) : Prop :=
  fault.isOfCode = false

theorem arcFigures_fails (emitter : Emitter) (move : ArcMove) (start : Coordinates Float) :
    FailsOnly IsPlainFault (emitter.arcFigures move start) := by
  have points (point : Coordinates Float) :
      FailsOnly IsPlainFault (shifted emitter.options.toolOffset point) :=
    (shifted_unfit _ point).weaken fun _ unfit => by cases unfit <;> rfl
  exact (points _).chain fun _ => (points _).chain fun _ => (points _).chain fun _ => .ok _

theorem precisionFault?_plain {fault : Fault}
    (impossible : emitter.writer.precisionFault? = some fault) : IsPlainFault fault := by
  unfold Writer.precisionFault? at impossible
  repeat' split at impossible
  all_goals cases impossible
  all_goals rfl

/-- An arc in a principal plane is refused just for its start. -/
theorem rejectsArc_iff_unknown (inPlane : move.plane = some plane) (unstarted : move.start = none) :
    emitter.RejectsArc move ↔ ∃ axis, emitter.position.get axis = none := by
  have run := circular_planar inPlane emitter
  rw [unstarted] at run
  rw [← Coordinates.complete?_eq_none]
  cases known : emitter.position.complete? with
  | none =>
      refine iff_of_true ⟨.unknownPosition, emitter, ?_, rfl⟩ rfl
      rw [run, known]
      rfl
  | some start =>
      refine iff_of_false ?_ nofun
      rintro ⟨fault, after, failed, ofCode⟩
      have cut : planarArc move start plane emitter = .error fault after := by
        rw [← failed, run, known]
        rfl
      have plain : IsPlainFault fault := by
        rcases planarArc_outcome move start plane emitter with
          ⟨_, unshifted, refused⟩ | ⟨_, _, -, impossible, refused⟩ |
          ⟨_, _, _, _, -, -, -, ended, -⟩
        · cases cut.symm.trans refused
          exact arcFigures_fails emitter move start _ unshifted
        · cases cut.symm.trans refused
          exact precisionFault?_plain impossible
        · cases cut.symm.trans ended
      cases plain.symm.trans ofCode

/-- In any run an arc without a start is refused just if the place of some axis is not known:
it was never given, or the axis was sent home since. So it is refused for the axes of its plane
alone, unless both are known and the third is not. -/
theorem arcs_after_run {options : Options} {stamp : String} {start : Emitter}
    (created : create options stamp = .ok start) (calls : List Call)
    (inPlane : move.plane = some plane) (unstarted : move.start = none) :
    let before := start.after calls
    (before.RejectsArc move ↔ ∃ axis, before.position.get axis = none) ∧
    (∀ axis, before.position.get axis = none ↔ start.Astray calls axis) ∧
    ((before.RejectsArc move ↔ ∃ axis ∈ plane.axes, before.position.get axis = none) ↔
      ¬((∀ axis ∈ plane.axes, before.position.get axis ≠ none) ∧
        ∃ axis ∉ plane.axes, before.position.get axis = none)) := by
  intro before
  have refused := @rejectsArc_iff_unknown before move plane inPlane unstarted
  refine ⟨refused, fun axis => unknown_after (create_isFresh created) calls axis, ?_⟩
  rw [refused]
  constructor
  · rintro same ⟨known, axis, -, unknown⟩
    obtain ⟨inside, among, unknownToo⟩ := same.mp ⟨axis, unknown⟩
    exact known inside among unknownToo
  · intro exempt
    refine ⟨fun ⟨axis, unknown⟩ => ?_, fun ⟨axis, _, unknown⟩ => ⟨axis, unknown⟩⟩
    by_cases among : axis ∈ plane.axes
    · exact ⟨axis, among, unknown⟩
    · by_contra known
      exact exempt ⟨fun other inside lost => known ⟨other, inside, lost⟩, axis, among, unknown⟩

/-- Startup sends X home, which had been given with Y and Z. -/
theorem arc_refused_behind_homing :
    let calls : List Call := [.event (.rapid ⟨some 1, some 0, some 0⟩),
      .event (.startSection { isFirst := true })]
    let move : ArcMove :=
      { center := ⟨0, 0, 0⟩, finish := ⟨0, 1, 0⟩, feed := some 600, plane := some .xy }
    create {} "" = .ok (fresh {}) ∧ move.plane = some .xy ∧ move.start = none ∧
      ((fresh {}).after calls).position.get .x = none ∧ (fresh {}).Astray calls .x ∧
      ((fresh {}).after calls).RejectsArc move := by
  intro calls move
  have created : create {} "" = .ok (fresh {}) := create_fresh (by decide +kernel) rfl
  have unknown : ((fresh {}).after calls).position.get .x = none := by decide +kernel
  obtain ⟨refused, places, -⟩ := @arcs_after_run move .xy {} "" (fresh {}) created calls rfl rfl
  exact ⟨created, rfl, rfl, unknown, (places .x).mp unknown, refused.mpr ⟨.x, unknown⟩⟩

/-- A job that cuts an arc in the plane of X and Y, and never says anything of the height. -/
def flatJob : List String :=
  ["\x7b\"event\": \"start_run\", \"comment\": \"Box lid\"\x7d",
    "\x7b\"event\": \"start_section\", \"is_first\": true, \"jet_mode\": 1\x7d",
    "\x7b\"event\": \"rapid\", \"x\": 10, \"y\": 5\x7d",
    "\x7b\"event\": \"power\", \"on\": true\x7d",
    "\x7b\"event\": \"linear\", \"x\": 20, \"y\": 5, \"feed\": 600\x7d",
    "\x7b\"event\": \"circular\", \"clockwise\": false, \"center\": [20, 10, 0], " ++
      "\"end\": [25, 10, 0], \"feed\": 600, \"plane\": \"XY\"\x7d",
    "\x7b\"event\": \"power\", \"on\": false\x7d",
    "\x7b\"event\": \"end_section\"\x7d",
    "\x7b\"event\": \"end_run\"\x7d"]

/-- The job ends at its arc, although X and Y are known there. -/
theorem flat_arc_refused :
    let job := leaves (replay flatJob) (fresh {})
    let move : ArcMove :=
      { center := ⟨20, 10, 0⟩, finish := ⟨25, 10, 0⟩, feed := some 600, plane := some .xy }
    create {} "" = .ok (fresh {}) ∧
      fault? (replay flatJob) (fresh {}) = some .unknownPosition ∧
      0 ≤ job.writer.precision ∧ (∀ axis ∈ Plane.xy.axes, job.position.get axis ≠ none) ∧
      job.RejectsArc move := by
  intro job move
  -- The job is run once for all that is read off its end.
  have ended : fault? (replay flatJob) (fresh {}) = some .unknownPosition ∧
      0 ≤ job.writer.precision ∧ (∀ axis ∈ Plane.xy.axes, job.position.get axis ≠ none) ∧
      job.position.get .z = none := by decide +kernel
  obtain ⟨failed, possible, known, unknown⟩ := ended
  exact ⟨create_fresh (by decide +kernel) rfl, failed, possible, known,
    (rejectsArc_iff_unknown rfl rfl).mpr ⟨.z, unknown⟩⟩

end Emitter

end GantryCode
