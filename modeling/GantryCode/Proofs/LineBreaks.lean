import GantryCode.Proofs.EventFaults
import GantryCode.Proofs.ReplayParts
import GantryCode.Proofs.WrittenNumbers
import GantryCode.Run

namespace GantryCode

/-! Lines that break a run.

Most of what a line can fail with is told to the user, and the run is given up. Some faults of
the reading and of the arithmetic are not expected, and there is no handler for them: each comes
from values inside of too many others, from the name of the event, from a number that is too
large, from an arc that cannot be divided into chords, or from an option that is no number.
-/

namespace Emitter

open Emission

/-- The line of an event fails with a fault that no handler is there for: its values are inside
of too many others; or the event has no name that could be looked up, or a number that is too
large; or the chords of its arc cannot be counted; or an option is no number that it could be
written with. -/
inductive LineBreaks (emitter : Emitter) (line : String) : Fault → Prop
  | depth {nest : Json.Nest} (unread : emitter.reads line = .error (.nestedTooDeep nest)) :
      LineBreaks emitter line (.nestedTooDeep nest)
  | slip {value : Value} {fault : Fault} (read : emitter.reads line = .ok (some value))
      (slip : Event.Slip emitter.options.platform value fault)
      (unreported : fault.isReported = false) : LineBreaks emitter line fault
  | arc {value : Value} {move : ArcMove} {fault : Fault}
      (read : emitter.reads line = .ok (some value))
      (described : Event.Describes value (.circular move))
      (undivided : emitter.Undivided move fault) (unreported : fault.isReported = false) :
      LineBreaks emitter line fault
  | option {value : Value} {event : Event} {fault : Fault}
      (read : emitter.reads line = .ok (some value)) (described : Event.Describes value event)
      (unusable : ¬emitter.options.AreNumbers)
      (failed : fault? (perform event) emitter = some fault)
      (unreported : fault.isReported = false) : LineBreaks emitter line fault

variable {emitter after : Emitter} {line : String} {fault : Fault} {number count : Nat}

theorem reported_of_announced (announced : fault.isAnnounced = true) : fault.isReported = true := by
  cases fault with
  | event | unknownPosition | missingAxis | zeroAxis | startOnAxis => rfl
  | _ => cases announced

theorem atLine_unreported (unreported : fault.isReported = false) (number : Nat) :
    fault.atLine number = fault := by
  cases fault with
  | event => cases unreported
  | _ => rfl

theorem atLine_of_error {α : Type} {action : Emission α}
    (ended : action emitter = .error fault after) :
    atLine number action emitter = .error (fault.atLine number) after := by
  rw [atLine, ended]

theorem isReported_atLine (fault : Fault) (number : Nat) :
    (fault.atLine number).isReported = fault.isReported := by
  cases fault <;> rfl

theorem reads_unreported (failed : emitter.reads line = .error fault)
    (unreported : fault.isReported = false) : LineBreaks emitter line fault := by
  have read := failed
  unfold reads Event.readLine at failed
  dsimp only at failed
  split at failed
  · cases failed
  · split at failed
    · cases failed
    · next cause _ =>
        cases failed
        cases cause with
        | tooDeep nest => exact .depth read
        | _ => cases unreported

namespace LineBreaks

theorem unreported (breaks : LineBreaks emitter line fault) : fault.isReported = false := by
  cases breaks with
  | depth => rfl
  | slip _ _ unreported | arc _ _ _ unreported | option _ _ _ _ unreported => exact unreported

theorem of_leaks {value : Value} (read : emitter.reads line = .ok (some value))
    (leaks : emitter.Leaks value fault) (unreported : fault.isReported = false) :
    LineBreaks emitter line fault := by
  cases leaks with
  | slip slip => exact .slip read slip unreported
  | arc described undivided => exact .arc read described undivided unreported
  | mode described untold => exact absurd (Event.isTellable_of_read read described) untold

/-- A line that breaks is replayed up to the fault. -/
theorem replayLine (breaks : LineBreaks emitter line fault) (number count : Nat) :
    ∃ after, replayLine number count line emitter = .error fault after := by
  have stopped {value : Value} (read : emitter.reads line = .ok (some value))
      (failed : fault? (dispatch value) emitter = some fault) :
      ∃ after, Emitter.replayLine number count line emitter = .error fault after := by
    refine ⟨leaves (dispatch value) emitter, ?_⟩
    rw [replayLine_event read, ← atLine_unreported breaks.unreported number]
    exact atLine_of_error (bind_of_error (error_of_fault? failed))
  cases breaks with
  | depth unread =>
      refine ⟨emitter, ?_⟩
      rw [replayLine_run, ← reads, unread]
      rfl
  | slip read slip => exact stopped read (fault?_of_error (dispatch_of_error slip.ofValue))
  | arc read described undivided =>
      exact stopped read (by rw [fault?, dispatch_of_described described]; exact undivided.fails)
  | option read described _ failed =>
      exact stopped read (by rw [fault?, dispatch_of_described described, ← fault?, failed])

end LineBreaks

/-- What a line fails with that no handler is there for is one of these. -/
theorem lineBreaks_of_error (precise : emitter.IsPrecise)
    (failed : replayLine number count line emitter = .error fault after)
    (unreported : fault.isReported = false) : LineBreaks emitter line fault := by
  rw [replayLine_run] at failed
  obtain ⟨cause, ended, rfl⟩ := atLine_error failed
  have hidden := (isReported_atLine cause number).symm.trans unreported
  rw [atLine_unreported hidden]
  cases read : emitter.reads line with
  | error reason =>
      rw [← reads, read] at ended
      cases ended
      exact reads_unreported read hidden
  | ok found =>
      rw [← reads, read] at ended
      cases found with
      | none => cases ended
      | some value =>
          cases performed : dispatch value emitter with
          | ok done reached => cases (bind_of_ok performed).symm.trans ended
          | error reason reached =>
              cases (bind_of_error performed).symm.trans ended
              have failing := fault?_of_error performed
              by_cases described : ∃ event, Event.Describes value event
              · obtain ⟨event, described⟩ := described
                by_cases numbers : emitter.options.AreNumbers
                · rcases dispatch_described_fault ⟨precise, rfl⟩ numbers described failing with
                    ⟨move, -, degenerate⟩ | leaks
                  · have told := reported_of_announced degenerate.announced
                    cases told.symm.trans hidden
                  · exact .of_leaks read leaks hidden
                · rw [fault?, dispatch_of_described described, ← fault?] at failing
                  exact .option read described numbers failing hidden
              · obtain ⟨reason, refused, known⟩ :=
                  dispatch_undescribed emitter (not_exists.mp described)
                cases refused.symm.trans performed
                rcases known with ⟨reason, rfl⟩ | leaks
                · cases hidden
                · exact .of_leaks read leaks hidden

theorem writes_writerly {options : Options} :
    Writerly options fun before after => ∃ lines, Writes before after lines where
  progress :=
    { refl := fun emitter => ⟨[], .refl emitter⟩
      trans := fun ⟨_, start⟩ ⟨_, later⟩ => ⟨_, start.trans later⟩
      serves := fun ⟨_, writes⟩ serves => writes.serves serves }
  told := fun ⟨lines, tells⟩ => ⟨lines, tells.toWrites⟩
  laser := fun before _ note _ _ => ⟨_, writes_command before _ note⟩
  forgotten := fun before slots _ => ⟨[], (Writes.refl before).withSlots slots⟩

/-- A line of events writes on behind what was written, however it ends. -/
theorem writes_replayLine {options : Options} (serves : Serves options emitter)
    (number count : Nat) (line : String) :
    ∃ lines, Writes emitter (leaves (replayLine number count line) emitter) lines := by
  have located {α : Type} (action : Emission α) :
      leaves (atLine number action) emitter = leaves action emitter := by
    cases ended : action emitter with
    | ok result after => rw [leaves_of_ok ended, leaves_of_ok (atLine_ok.mpr ended)]
    | error fault after => rw [leaves_of_error ended, leaves_of_error (atLine_of_error ended)]
  have same := leaves_of_eq (replayLine_run number count line emitter)
  rw [same, located]
  cases Event.readLine emitter.options.platform line with
  | error fault => exact ⟨[], .refl emitter⟩
  | ok found =>
      cases found with
      | none => exact ⟨[], .refl emitter⟩
      | some value =>
          have counted : leaves (dispatch value >>= fun _ => pure (count + 1)) emitter =
              leaves (dispatch value) emitter := by
            cases performed : dispatch value emitter with
            | ok done after =>
                rw [leaves_of_ok performed]
                exact leaves_of_ok (bind_of_ok performed)
            | error fault after =>
                rw [leaves_of_error performed]
                exact leaves_of_error (bind_of_error performed)
          refine counted ▸ ?_
          rw [leaves, dispatch_run]
          cases Event.ofValue emitter.options.platform value with
          | error fault => exact ⟨[], .refl emitter⟩
          | ok event => exact writes_writerly.keeps_perform event emitter serves

theorem alike_replayFrom {options : Options} {lines : List String} {reached : Nat}
    (serves : Serves options emitter)
    (replayed : replayFrom number count lines emitter = .ok reached after) :
    Alike emitter after := by
  induction lines generalizing number count emitter with
  | nil =>
      cases replayed
      exact .refl _
  | cons line rest ih =>
      obtain ⟨_, middle, first, later⟩ := bind_ok replayed
      obtain ⟨_, writes⟩ := writes_replayLine serves number count line
      rw [leaves_of_ok first] at writes
      exact writes.toAlike.trans (ih (writes.serves serves) later)

/-- With the usual number of places, numbers can be written up to the line where replay is. -/
theorem canWrite_of_created {options : Options} {stamp : String} {start before : Emitter}
    {lines : List String} {reached : Nat} (created : create options stamp = .ok start)
    (replayed : replayFrom number count lines start = .ok reached before) :
    CanWrite options before := by
  have alike := alike_replayFrom (create_isFresh created).toServes replayed
  obtain ⟨-, target, -, rfl⟩ := create_ok.mp created
  have usual : (made options stamp target).writer.precision = 3 := rfl
  exact CanWrite.alike ⟨⟨by rw [usual]; decide, by rw [usual]; decide⟩, rfl⟩ alike

end Emitter

end GantryCode
