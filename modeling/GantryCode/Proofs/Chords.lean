import GantryCode.Proofs.Emission

namespace GantryCode.Emitter

/-! Arcs in no principal plane.

Such an arc is a row of straight cuts. Where they end is a matter of the arc and of the
options alone; what is noticed on the way makes no difference to it. Once the figure is
found to be possible, nothing but the cuts is left to do.
-/

open Emission

/-- The ends of the chords that an arc is divided into. -/
def chordPoints (options : Options) (move : ArcMove) (start axis : Coordinates Float) :
    Except Fault (List (Coordinates Float)) := do
  let arc ← Arc.between options.platform.geometry start move.center move.finish axis
    move.clockwise
  return arc.points options.platform.geometry
    (← segments arc options.tolerance options.arcMaxSegments).toNat

theorem startPoint_run (given : Option (Coordinates Float)) (emitter : Emitter) :
    startPoint given emitter =
      match given <|> emitter.position.complete? with
      | some start => .ok start emitter
      | none => .error .unknownPosition emitter := by
  rw [startPoint, get_bind_apply]
  cases given <|> emitter.position.complete? <;> rfl

variable (move : ArcMove) (start axis : Coordinates Float)

theorem chords_run (options : Options) (before : Array Notice) :
    ∃ after, chords options.platform.geometry start move.center move.finish axis move.clockwise
        options.tolerance options.arcMaxSegments before =
      match chordPoints options move start axis with
      | .ok points => .ok points after
      | .error fault => .error fault after := by
  unfold chordPoints
  generalize options.platform.geometry = geometry
  cases found : Arc.between geometry start move.center move.finish axis move.clockwise with
  | error fault => exact ⟨before, by rw [chords, found]; rfl⟩
  | ok arc =>
      let told :=
        if arc.radiiDiffer geometry then before.push (.radiiDiffer arc.radius arc.endRadius)
        else before
      have begun : chords geometry start move.center move.finish axis move.clockwise
          options.tolerance options.arcMaxSegments before =
          (do
            let count ← MonadExcept.ofExcept (segments arc options.tolerance options.arcMaxSegments)
            modify (·.push (.arcDivided arc.radius (Scalar.toDegrees arc.sweep) count.toNat))
            return arc.points geometry count.toNat :
            EStateM Fault (Array Notice) (List (Coordinates Float))) told := by
        rw [chords, found, ofExcept_bind_apply]
        cases differs : arc.radiiDiffer geometry with
        | false => simp only [told, differs, Bool.false_eq_true, if_false]
        | true => simp only [told, differs, if_true]; rfl
      rw [begun]
      cases divided : segments arc options.tolerance options.arcMaxSegments with
      | error fault => exact ⟨told, by simp only [bind, Except.bind, divided]; rfl⟩
      | ok count =>
          refine ⟨told.push
            (.arcDivided arc.radius (Scalar.toDegrees arc.sweep) count.toNat), ?_⟩
          simp only [bind, Except.bind, divided]
          rfl

theorem chordedArc_run (emitter : Emitter) :
    ∃ notices, chordedArc move start axis emitter =
      match chordPoints emitter.options move start axis with
      | .ok points => linearThrough move.feed points { emitter with notices }
      | .error fault => .error fault { emitter with notices } := by
  obtain ⟨told, figured⟩ := chords_run move start axis emitter.options emitter.notices
  have begun : chordedArc move start axis emitter =
      (noticing (chords emitter.options.platform.geometry start move.center move.finish axis
          move.clockwise emitter.options.tolerance emitter.options.arcMaxSegments) >>= fun points =>
        notify (.arcOutsidePlanes points.length) >>= fun _ =>
          linearThrough move.feed points) emitter := rfl
  rw [begun]
  cases found : chordPoints emitter.options move start axis with
  | error fault =>
      rw [found] at figured
      exact ⟨told, bind_of_error (by rw [noticing, figured])⟩
  | ok points =>
      rw [found] at figured
      exact ⟨told.push (.arcOutsidePlanes points.length),
        (bind_of_ok (by rw [noticing, figured])).trans rfl⟩

section Circular

variable {move} {start axis} {emitter : Emitter}

theorem startPoint_known (begun : (move.start <|> emitter.position.complete?) = some start) :
    startPoint move.start emitter = .ok start emitter := by
  rw [startPoint_run, begun]

theorem startPoint_unknown (unknown : (move.start <|> emitter.position.complete?) = none) :
    startPoint move.start emitter = .error .unknownPosition emitter := by
  rw [startPoint_run, unknown]

theorem circular_axisless (noPlane : move.plane = none) (noAxis : move.axis = none) :
    circular move emitter = .error .missingAxis emitter := by
  rw [circular, noPlane, noAxis]
  rfl

/-- An arc whose start is not known fails before anything is done. -/
theorem circular_unplaced (unknown : (move.start <|> emitter.position.complete?) = none) :
    ∃ fault, circular move emitter = .error fault emitter := by
  have stopped := startPoint_unknown unknown
  cases inside : move.plane with
  | some plane =>
      rw [circular, inside]
      exact ⟨_, bind_of_error stopped⟩
  | none =>
      cases turned : move.axis with
      | none => exact ⟨_, circular_axisless inside turned⟩
      | some normal =>
          rw [circular, inside, turned]
          exact ⟨_, bind_of_error stopped⟩

/-- An arc in no principal plane is cut in chords, if it has some. -/
theorem circular_chords (noPlane : move.plane = none) (turned : move.axis = some axis)
    (begun : (move.start <|> emitter.position.complete?) = some start) :
    ∃ notices, circular move emitter =
      match chordPoints emitter.options move start axis with
      | .ok points => linearThrough move.feed points { emitter with notices }
      | .error fault => .error fault { emitter with notices } := by
  obtain ⟨notices, run⟩ := chordedArc_run move start axis emitter
  refine ⟨notices, ?_⟩
  rw [circular, noPlane, turned]
  exact (bind_of_ok (startPoint_known begun)).trans run

end Circular

end GantryCode.Emitter
