import GantryCode.Proofs.ExactEmission
import GantryCode.Proofs.LineBreaks

namespace GantryCode

/-! What a line has written that a run is given up for.

Where numbers can be written, an operation of several lines only breaks on the way, for an option
that is no number. A fault that the user is told of comes before anything is written.
-/

theorem Quantity.Unfit.unreported {fault : Fault} (unfit : Unfit fault) :
    fault.isReported = false := by
  cases unfit <;> rfl

namespace Emitter

open Emission
open Quantity (Unfit)

variable {α β : Type} {options : Options} {emitter after : Emitter} {fault : Fault}

section Numbers

end Numbers

/-- Wherever numbers can be written, the action ends well and they still can behind it, or it
fails with a fault that no handler is there for. -/
def EndsOrBreaks (options : Options) (action : Emission α) : Prop :=
  ∀ emitter, CanWrite options emitter →
    (∃ result after, action emitter = .ok result after ∧ CanWrite options after) ∨
    ∃ fault after, action emitter = .error fault after ∧ fault.isReported = false

namespace EndsOrBreaks

variable {action : Emission α} {next : α → Emission β}

theorem follow (first : EndsOrBreaks options action)
    (later : ∀ result, Returns action result → EndsOrBreaks options (next result)) :
    EndsOrBreaks options (action >>= next) := by
  intro emitter can
  rcases first emitter can with ⟨result, middle, ended, still⟩ | ⟨fault, after, failed, breaks⟩
  · rw [bind_of_ok ended]
    exact later result ⟨emitter, middle, ended⟩ middle still
  · exact .inr ⟨fault, after, bind_of_error failed, breaks⟩

theorem given {given : Except Fault α} (fails : FailsOnly Unfit given) :
    EndsOrBreaks options (fromResult given) := by
  intro emitter can
  cases given with
  | error fault => exact .inr ⟨fault, emitter, rfl, (fails fault rfl).unreported⟩
  | ok result => exact .inl ⟨result, emitter, rfl, can⟩

theorem inspect {next : Emitter → Emission β}
    (later : ∀ emitter, CanWrite options emitter → EndsOrBreaks options (next emitter)) :
    EndsOrBreaks options ((get : Emission Emitter) >>= next) :=
  fun emitter can => later emitter can emitter can

theorem of_run {action other : Emission α}
    (run : ∀ emitter, emitter.options = options → action emitter = other emitter)
    (ends : EndsOrBreaks options other) : EndsOrBreaks options action := by
  intro emitter can
  rw [run emitter can.options]
  exact ends emitter can

end EndsOrBreaks

section Operations

open EndsOrBreaks

end Operations

section Lines

/-- The line that replay fails at is replayed up to the fault. -/
theorem FailsAt.line {lines : List String} {number : Nat} {before : Emitter}
    (fails : FailsAt emitter lines number fault before after) :
    ∃ line count middle, replayFrom 1 0 (lines.take (number - 1)) emitter = .ok count middle ∧
      before.writer = middle.writer ∧
      replayLine number count line middle = .error fault after := by
  obtain ⟨positive, within, ⟨count, replayed⟩, failed⟩ := fails
  obtain ⟨middle, ended, rfl⟩ := replay_ok replayed
  obtain ⟨front, rfl⟩ := Nat.exists_eq_add_of_lt positive
  have split : lines.take (0 + front + 1) = lines.take front ++ [lines[front]] := by
    rw [Nat.zero_add, List.take_append_getElem]
  have stopped := replay_error.mp (failed [])
  rw [Nat.zero_add, Nat.add_sub_cancel] at ended
  rw [List.append_nil, split, replayFrom_append, bind_of_ok ended, List.length_take,
    Nat.min_eq_left (by omega)] at stopped
  cases first : replayLine (1 + front) count lines[front] middle with
  | ok more reached => cases (bind_of_ok first).symm.trans stopped
  | error cause reached =>
      cases (bind_of_error first).symm.trans stopped
      rw [Nat.add_comm] at first
      exact ⟨_, count, middle, by simpa using ended, rfl, by simpa using first⟩

end Lines

end Emitter

end GantryCode
