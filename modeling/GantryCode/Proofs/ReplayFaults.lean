import GantryCode.Proofs.ReadValues

namespace GantryCode

/-! Replay up to the line that it fails at.

A line holds no event, or an event that is performed, or it fails. What fails is blamed on
its line by number, and lines without events count. As long as numbers can be written, a
line that fails has had no effect: what is left is what the lines in front of it made.
-/

theorem EventFault.message_head (reason : EventFault) :
    reason.message.toList.head? ≠ some 'l' := by
  unfold message
  cases reason with
  | malformed reason place =>
      have begun : reason.message.toList.head? ≠ some 'l' ∧ reason.message.toList ≠ [] := by
        cases reason <;> simp [Json.Reason.message]
      obtain ⟨head, nonempty⟩ := begun
      simp only [String.append_assoc, String.toList_append, List.head?_append]
      generalize reason.message.toList = text at head nonempty
      cases text with
      | nil => exact absurd rfl nonempty
      | cons c text => simpa using head
  | _ => simp [inQuotes]

/-- No reason is worded like the number of a line. -/
theorem EventFault.message_unnumbered (reason : EventFault) :
    ¬"line ".toList <+: reason.message.toList := by
  rintro ⟨rest, whole⟩
  apply reason.message_head
  rw [← whole]
  simp

namespace Emitter

open Emission

variable {options : Options} {emitter before after : Emitter} {fault : Fault}

section Lines

theorem atLine_ok {action : Emission α} {line : Nat} {result : α} :
    atLine line action emitter = .ok result after ↔ action emitter = .ok result after := by
  unfold atLine
  cases action emitter <;> simp

theorem atLine_error {action : Emission α} {line : Nat}
    (failed : atLine line action emitter = .error fault after) :
    ∃ cause, action emitter = .error cause after ∧ fault = cause.atLine line := by
  unfold atLine at failed
  cases ended : action emitter with
  | ok result reached => simp [ended] at failed
  | error cause reached =>
      rw [ended] at failed
      cases failed
      exact ⟨cause, rfl, rfl⟩

theorem isAtomic_dispatch (numbers : options.AreNumbers) {value : Value}
    (told : ∀ event, Event.Describes value event → event.IsTellable) :
    IsAtomic options (dispatch value) := by
  intro emitter can
  rw [dispatch_run]
  cases read : Event.ofValue emitter.options.platform value with
  | error fault => exact .inr ⟨fault, emitter.notices, rfl⟩
  | ok event => exact isAtomic_perform numbers (told event (Event.ofValue_iff.mp read)) emitter can

theorem isAtomic_atLine {action : Emission α} (atomic : IsAtomic options action) (line : Nat) :
    IsAtomic options (atLine line action) := by
  intro emitter can
  rcases atomic emitter can with ⟨result, after, ended, still⟩ | ⟨fault, notices, failed⟩
  · exact .inl ⟨result, after, atLine_ok.mpr ended, still⟩
  · exact .inr ⟨fault.atLine line, notices, by rw [atLine, failed]⟩

/-- A line is read as it is on the platform of the emitter. -/
theorem replayLine_run (number count : Nat) (line : String) (emitter : Emitter) :
    replayLine number count line emitter =
      atLine number (do
        match ← fromResult (Event.readLine emitter.options.platform line) with
        | none => return count
        | some value =>
            dispatch value
            return count + 1) emitter := by
  rw [replayLine, atLine, get_bind_apply]
  rfl

theorem isAtomic_replayLine (numbers : options.AreNumbers) (number count : Nat) (line : String) :
    IsAtomic options (replayLine number count line) := by
  intro emitter can
  rw [replayLine_run]
  refine isAtomic_atLine (isAtomic_given fun found read => ?_) number emitter can
  cases found with
  | none => exact (Completes.nothing count).isAtomic
  | some value =>
      exact isAtomic_chain (isAtomic_dispatch numbers fun _ => Event.isTellable_of_read read)
        fun _ => Completes.nothing _

end Lines

section Runs

theorem replayFrom_append (number count : Nat) (front rest : List String) :
    replayFrom number count (front ++ rest) =
      (replayFrom number count front >>= fun count =>
        replayFrom (number + front.length) count rest) := by
  induction front generalizing number count with
  | nil => rfl
  | cons line front ih =>
      simp only [List.cons_append, replayFrom, bind_assoc, ih, List.length_cons]
      simp only [Nat.add_assoc, Nat.add_comm 1]

/-- Where replay fails there is a line at which it does. -/
theorem replayFrom_error {number count : Nat} {lines : List String}
    (failed : replayFrom number count lines emitter = .error fault after) :
    ∃ front line rest reached before, lines = front ++ line :: rest ∧
      replayFrom number count front emitter = .ok reached before ∧
      replayLine (number + front.length) reached line before = .error fault after := by
  induction lines generalizing number count emitter with
  | nil => cases failed
  | cons line rest ih =>
      cases first : replayLine number count line emitter with
      | error reason reached =>
          cases (bind_of_error first).symm.trans failed
          exact ⟨[], line, rest, count, emitter, rfl, rfl, first⟩
      | ok more middle =>
          obtain ⟨front, bad, behind, reached, before, split, replayed, stopped⟩ :=
            ih ((bind_of_ok first).symm.trans failed)
          refine ⟨line :: front, bad, behind, reached, before, by rw [split]; rfl,
            (bind_of_ok first).trans replayed, ?_⟩
          rw [List.length_cons, Nat.add_comm front.length, ← Nat.add_assoc]
          exact stopped

theorem canWrite_replayFrom (numbers : options.AreNumbers) {number count reached : Nat}
    {lines : List String} (can : CanWrite options emitter)
    (replayed : replayFrom number count lines emitter = .ok reached after) :
    CanWrite options after := by
  induction lines generalizing number count emitter with
  | nil =>
      cases replayed
      exact can
  | cons line rest ih =>
      obtain ⟨more, middle, first, later⟩ := bind_ok replayed
      rcases isAtomic_replayLine numbers number count line emitter can with
        ⟨result, kept, ended, still⟩ | ⟨reason, notices, stopped⟩
      · cases first.symm.trans ended
        exact ih still later
      · cases first.symm.trans stopped

end Runs

/-- Replay fails at the line by this number, counted from one: the lines in front of it can
be replayed, and with it replay fails whatever lines come behind it. -/
structure FailsAt (emitter : Emitter) (lines : List String) (number : Nat) (fault : Fault)
    (before after : Emitter) : Prop where
  positive : 0 < number
  within : number ≤ lines.length
  replayed : ∃ count, replay (lines.take (number - 1)) emitter = .ok count before
  failed : ∀ more, replay (lines.take number ++ more) emitter = .error fault after

theorem FailsAt.not_before {lines : List String} {number other : Nat} {cause : Fault}
    {first left : Emitter} (fails : FailsAt emitter lines number fault before after)
    (earlier : FailsAt emitter lines other cause first left) : number ≤ other := by
  by_contra later
  obtain ⟨count, replayed⟩ := fails.replayed
  have split : lines.take (number - 1) =
      lines.take other ++ (lines.take (number - 1)).drop other := by
    have front : (lines.take (number - 1)).take other = lines.take other := by
      rw [List.take_take, Nat.min_eq_left (by omega)]
    rw [← front, List.take_append_drop]
  rw [split] at replayed
  cases (earlier.failed _).symm.trans replayed

theorem FailsAt.unique {lines : List String} {number other : Nat} {cause : Fault}
    {first left : Emitter} (fails : FailsAt emitter lines number fault before after)
    (again : FailsAt emitter lines other cause first left) : other = number := by
  have below := fails.not_before again
  have above := again.not_before fails
  omega

/-- Replay that fails has failed at one line, and everything but the log is as the lines in
front of it left it. A fault of an event names that line, once. -/
theorem replay_failed {lines : List String}
    (failed : replay lines emitter = .error fault after) :
    ∃ number before, FailsAt emitter lines number fault before after ∧
      (∀ other cause first left, FailsAt emitter lines other cause first left → other = number) ∧
      (emitter.IsPrecise → emitter.options.AreNumbers →
        after = { before with notices := after.notices }) ∧
      ∀ line reason, fault = .event line reason →
        line = some number ∧
        fault.message = "line " ++ Text.decimal number ++ ": " ++ reason.message ∧
        ¬"line ".toList <+: reason.message.toList := by
  have stopped : replayFrom 1 0 lines emitter = .error fault after := by
    cases ended : replayFrom 1 0 lines emitter with
    | ok count reached => cases (bind_of_ok ended).symm.trans failed
    | error reason reached => exact (bind_of_error ended).symm.trans failed
  obtain ⟨front, line, rest, count, before, split, replayed, refused⟩ := replayFrom_error stopped
  have fails : FailsAt emitter lines (front.length + 1) fault
      { before with notices := before.notices.push (.replayed count) } after := by
    refine ⟨Nat.succ_pos _, by simp [split], ⟨count, ?_⟩, fun more => ?_⟩
    · rw [Nat.add_sub_cancel, split, List.take_left]
      exact bind_of_ok replayed
    · have ahead : lines.take (front.length + 1) = front ++ [line] := by
        rw [split, List.take_length_add_append]
        rfl
      rw [ahead, List.append_assoc]
      refine bind_of_error ?_
      rw [replayFrom_append, bind_of_ok replayed]
      exact bind_of_error refused
  refine ⟨_, _, fails, fun _ _ _ _ other => fails.unique other, fun precise numbers => ?_, ?_⟩
  · have can := canWrite_replayFrom numbers ⟨precise, rfl⟩ replayed
    rcases isAtomic_replayLine numbers (1 + front.length) count line before can with
      ⟨result, kept, ended, -⟩ | ⟨reason, notices, unchanged⟩
    · cases refused.symm.trans ended
    · cases refused.symm.trans unchanged
      rfl
  · rintro number reason rfl
    obtain ⟨cause, -, blamed⟩ := atLine_error refused
    cases cause with
    | event known original =>
        cases blamed
        refine ⟨by rw [Nat.add_comm], ?_, reason.message_unnumbered⟩
        unfold Fault.message
        rw [Nat.add_comm]
    | _ => cases blamed

/-- A dwell without its time on the third line leaves what the second line did. -/
theorem replay_of_untimed_dwell :
    let start := fresh {}
    let lines := ["", "\x7b\"event\": \"rapid\", \"x\": 1\x7d", "\x7b\"event\": \"dwell\"\x7d"]
    let untimed := Fault.event (some 3) (.missingNumber "seconds")
    ∃ before after, create {} "" = .ok start ∧ start.IsPrecise ∧ start.options.AreNumbers ∧
      replay lines start = .error untimed after ∧ FailsAt start lines 3 untimed before after ∧
      after = { before with notices := after.notices } := by
  intro start lines untimed
  have created : create {} "" = .ok start := create_fresh (by decide +kernel) rfl
  have precise : start.IsPrecise := ⟨by decide, by decide⟩
  have numbers : start.options.AreNumbers := Options.usual_areNumbers
  have refused : fault? (replay lines) start = some untimed := by decide +kernel
  cases ended : replay lines start with
  | ok count after =>
      rw [fault?, ended] at refused
      cases refused
  | error fault after =>
      rw [fault?, ended] at refused
      cases refused
      obtain ⟨number, before, fails, -, same, blamed⟩ := replay_failed ended
      obtain ⟨counted, -⟩ := blamed (some 3) (.missingNumber "seconds") rfl
      cases counted
      exact ⟨before, after, created, precise, numbers, rfl, fails, same precise numbers⟩

/-- The shutdown sequence is written command by command: where the height that it ends with
cannot be written, for want of decimal places that could be or because no double holds it,
the commands in front are out. -/
theorem shutdown_stops_at_unwritten_height :
    let line := "\x7b\"event\": \"end_run\"\x7d"
    let start := fresh { endZ := some (.real 50) }
    let coarse := start.after [.precision 2147483648]
    let high := fresh { endZ := some (.whole (10 ^ 309)) }
    create { endZ := some (.real 50) } "" = .ok start ∧ 0 ≤ coarse.writer.precision ∧
      create { endZ := some (.whole (10 ^ 309)) } "" = .ok high ∧
      endsWell (replay [line]) coarse = false ∧ endsWell (replay [line]) high = false ∧
      (leaves (replay []) coarse).writer.text = "" ∧
      (leaves (replay []) high).writer.text = "" ∧
      (leaves (replay [line]) coarse).writer.text = "M400 ; Finish moves\nM5 ; Laser off\n" ∧
      (leaves (replay [line]) high).writer.text = "M400 ; Finish moves\nM5 ; Laser off\n" := by
  intro line start coarse high
  refine ⟨create_fresh (by decide +kernel) rfl, by decide +kernel,
    create_fresh (by decide +kernel) rfl, ?_⟩
  decide +kernel

end Emitter

end GantryCode
