import GantryCode.Proofs.Kinship
import GantryCode.Proofs.ReplayFaults

namespace GantryCode

/-! Replay part by part.

Lines can be replayed in one go or in parts, one behind the other, and lines without events
can stand between the parts. It comes to the same but for the log: the only thing that is
carried from line to line is the emitter, and a fault of an event tells the place of its line
among all lines.
-/

namespace Event

/-- There is nothing on the line, or a remark. -/
def IsSilent (line : String) : Prop :=
  Text.stripped line = "" ∨ (Text.stripped line).toList.head? = some '#'

instance (line : String) : Decidable (IsSilent line) :=
  inferInstanceAs (Decidable (_ ∨ _))

theorem IsSilent.readLine {platform : Platform} {line : String} (silent : IsSilent line) :
    readLine platform line = .ok none := by
  unfold Event.readLine
  rw [if_pos]
  rcases silent with blank | remark
  · rw [blank]
    rfl
  · rw [remark, Bool.or_eq_true]
    exact .inr (decide_eq_true rfl)

end Event

namespace Fault

/-- The same fault where so many lines stand in front. -/
def delayed (lines : Nat) : Fault → Fault
  | .event (some line) reason => .event (some (line + lines)) reason
  | fault => fault

theorem atLine_delayed (fault : Fault) (number lines : Nat) :
    fault.atLine (number + lines) = (fault.atLine number).delayed lines := by
  cases fault <;> rfl

/-- A fault of an event tells where the event is, and what is wrong with it. -/
theorem delayed_message {fault : Fault} {number? : Option Nat} {reason : EventFault} (lines : Nat)
    {number : Nat} (known : number? = some number) (same : fault = .event number? reason) :
    fault.message = "line " ++ Text.decimal number ++ ": " ++ reason.message ∧
      fault.delayed lines = .event (some (number + lines)) reason ∧
      (fault.delayed lines).message =
        "line " ++ Text.decimal (number + lines) ++ ": " ++ reason.message := by
  subst known same
  exact ⟨rfl, rfl, rfl⟩

end Fault

namespace Emitter

open Emission Kinship

variable {emitter near far nearAfter farAfter after : Emitter} {fault : Fault}

section Unnoticed

/-- The kinship of an emitter with itself whatever either noticed. -/
def unnoticed (emitter : Emitter) : Kinship where
  options := emitter.options
  stamp := emitter.writer.stamp
  otherStamp := emitter.writer.stamp
  place known other := known = other
  same _ := rfl
  sameMode := True

theorem kin_unnoticed (emitter : Emitter) (notices : Array Notice) :
    emitter.unnoticed.Kin emitter { emitter with notices } :=
  ⟨rfl, rfl, rfl, ⟨emitter.writer.written, rfl⟩, fun _ => rfl, fun _ => rfl⟩

theorem position_unnoticed (kin : emitter.unnoticed.Kin near far) :
    far.position = near.position :=
  (Coordinates.eq_of_get kin.position).symm

/-- What starts from the same text ends with the same text, and with everything else. -/
theorem alongside_unnoticed
    (alongside : emitter.unnoticed.Alongside near far nearAfter farAfter)
    (sameText : far.writer.written = near.writer.written) :
    farAfter = { nearAfter with notices := farAfter.notices } := by
  obtain ⟨lines, others, nearText, farText, same⟩ := alongside.written
  obtain ⟨written, apart⟩ := alongside.writer
  have texts : farAfter.writer.written = nearAfter.writer.written := by
    apply Array.toList_inj.mp
    rw [farText, nearText, sameText, same.eq]
  have writers : farAfter.writer = nearAfter.writer := by
    rw [apart] at texts ⊢
    have stamp : nearAfter.writer.stamp = emitter.unnoticed.otherStamp := alongside.stamp
    rw [← stamp]
    exact congrArg (fun written => { nearAfter.writer with written }) texts
  have options := alongside.otherOptions.trans alongside.options.symm
  have position := position_unnoticed alongside.toKin
  have mode := alongside.mode trivial
  cases farAfter
  cases options
  cases writers
  cases position
  cases mode
  rfl

theorem inStep_obey (call : Call) : emitter.unnoticed.InStep Eq (obey call) (obey call) := by
  intro near far kin
  have begun : BeginAlike near far call := fun move _ => by rw [position_unnoticed kin]
  exact ends_obey trivial kin begun

theorem inStep_perform (event : Event) :
    emitter.unnoticed.InStep Eq (perform event) (perform event) :=
  inStep_obey (.event event)

theorem inStep_atLine {pairing : Pairing} {α β : Type} {agree : α → β → Prop} (number : Nat)
    {action : Emission α} {other : Emission β} (together : InStep pairing agree action other) :
    InStep pairing agree (atLine number action) (atLine number other) := by
  intro near far related
  have ends := together near far related
  unfold atLine
  generalize action near = outcome at ends ⊢
  generalize other far = outcomeToo at ends ⊢
  cases ends with
  | ok values reached => exact .ok values reached
  | error fault reached => exact .error _ reached

theorem inStep_replayFrom {kinship : Kinship}
    (together : ∀ event, kinship.InStep Eq (perform event) (perform event)) (number count : Nat)
    (lines : List String) :
    kinship.InStep Eq (replayFrom number count lines) (replayFrom number count lines) := by
  induction lines generalizing number count with
  | nil => exact InStep.nothing count
  | cons line rest ih =>
      refine InStep.follow (inStep_atLine number (InStep.inspect fun near far kin => ?_))
        fun more => ih (number + 1) more
      rw [kin.options, kin.otherOptions]
      refine InStep.follow (InStep.result _) fun found => ?_
      cases found with
      | none => exact InStep.nothing count
      | some value =>
          refine InStep.follow (InStep.inspect fun near far kin => ?_) fun _ => InStep.nothing _
          rw [kin.options, kin.otherOptions]
          exact InStep.follow (InStep.result _) together

/-- What was noticed before makes no difference to what is replayed. -/
theorem replayFrom_unnoticed (number count : Nat) (lines : List String) (emitter : Emitter)
    (notices : Array Notice) :
    Ends Eq (fun near far => far = { near with notices := far.notices })
      (replayFrom number count lines emitter)
      (replayFrom number count lines { emitter with notices }) :=
  (inStep_replayFrom inStep_perform number count lines _ _ (kin_unnoticed emitter notices)).weaken
    fun _ _ alongside => alongside_unnoticed alongside rfl

end Unnoticed

section Delay

/-- What is replayed behind lines that hold so many events. -/
def behind (lines events : Nat) (replayed : Emission Nat) : Emission Nat := fun emitter =>
  match replayed emitter with
  | .ok count after => .ok (count + events) after
  | .error fault after => .error (fault.delayed lines) after

theorem behind_ok {lines events count : Nat} {replayed : Emission Nat}
    (ended : replayed emitter = .ok count after) :
    behind lines events replayed emitter = .ok (count + events) after := by
  rw [behind, ended]

theorem behind_error {lines events : Nat} {replayed : Emission Nat}
    (failed : replayed emitter = .error fault after) :
    behind lines events replayed emitter = .error (fault.delayed lines) after := by
  rw [behind, failed]

section Lines

variable {line : String}

theorem replayLine_unread {number count : Nat}
    (reading : Event.readLine emitter.options.platform line = .error fault) :
    replayLine number count line emitter = .error (fault.atLine number) emitter := by
  rw [replayLine_run, reading]
  rfl

theorem replayLine_silent {number count : Nat}
    (reading : Event.readLine emitter.options.platform line = .ok none) :
    replayLine number count line emitter = .ok count emitter := by
  rw [replayLine_run, reading]
  rfl

theorem replayLine_event {number count : Nat} {value : Value}
    (reading : Event.readLine emitter.options.platform line = .ok (some value)) :
    replayLine number count line emitter =
      atLine number (do dispatch value; return count + 1) emitter := by
  rw [replayLine_run, reading]
  rfl

end Lines

theorem replayLine_delayed (number count lines events : Nat) (line : String) :
    replayLine (number + lines) (count + events) line =
      behind lines events (replayLine number count line) := by
  funext emitter
  cases reading : Event.readLine emitter.options.platform line with
  | error fault =>
      rw [replayLine_unread reading, behind_error (replayLine_unread reading),
        fault.atLine_delayed]
  | ok found =>
      cases found with
      | none =>
          rw [replayLine_silent reading, behind_ok (replayLine_silent reading)]
      | some value =>
          cases ended : dispatch value emitter with
          | ok done after =>
              have counted (number count : Nat) :
                  atLine number (do dispatch value; return count + 1 : Emission Nat) emitter =
                    .ok (count + 1) after := atLine_ok.mpr (bind_of_ok ended)
              rw [replayLine_event reading, counted,
                behind_ok ((replayLine_event reading).trans (counted number count)),
                Nat.add_right_comm]
          | error fault after =>
              have blamed (number count : Nat) :
                  atLine number (do dispatch value; return count + 1 : Emission Nat) emitter =
                    .error (fault.atLine number) after := by rw [atLine, bind_of_error ended]
              rw [replayLine_event reading, blamed,
                behind_error ((replayLine_event reading).trans (blamed number count)),
                fault.atLine_delayed]

theorem replayFrom_delayed (number count lines events : Nat) (rest : List String) :
    replayFrom (number + lines) (count + events) rest =
      behind lines events (replayFrom number count rest) := by
  induction rest generalizing number count with
  | nil => rfl
  | cons line rest ih =>
      funext emitter
      unfold replayFrom
      rw [replayLine_delayed, Nat.add_right_comm number]
      cases ended : replayLine number count line emitter with
      | ok more middle =>
          rw [bind_of_ok (behind_ok ended), ih]
          unfold behind
          rw [bind_of_ok ended]
      | error fault middle =>
          rw [bind_of_error (behind_error ended), behind_error (bind_of_error ended)]

/-- Lines without events count as lines and as nothing else. -/
theorem replayFrom_silent {lines : List String} (silent : ∀ line ∈ lines, Event.IsSilent line)
    (number count : Nat) : replayFrom number count lines = pure count := by
  induction lines generalizing number with
  | nil => rfl
  | cons line rest ih =>
      funext emitter
      rw [replayFrom, bind_of_ok (replayLine_silent (silent line (by simp)).readLine),
        ih fun other among => silent other (by simp [among])]

end Delay

section Parts

theorem replay_of_ok {lines : List String} {count : Nat}
    (ended : replayFrom 1 0 lines emitter = .ok count after) :
    replay lines emitter =
      .ok count { after with notices := after.notices.push (.replayed count) } :=
  bind_of_ok ended

theorem replay_ok {lines : List String} {count : Nat}
    (replayed : replay lines emitter = .ok count after) :
    ∃ middle, replayFrom 1 0 lines emitter = .ok count middle ∧
      after = { middle with notices := middle.notices.push (.replayed count) } := by
  obtain ⟨result, middle, ended, told⟩ := bind_ok replayed
  cases told
  exact ⟨middle, ended, rfl⟩

theorem replay_error {lines : List String} :
    replay lines emitter = .error fault after ↔
      replayFrom 1 0 lines emitter = .error fault after := by
  refine ⟨fun failed => ?_, bind_of_error⟩
  cases ended : replayFrom 1 0 lines emitter with
  | ok count reached => cases (bind_of_ok ended).symm.trans failed
  | error reason reached => exact (bind_of_error ended).symm.trans failed

/-- The events of a part are replayed as they are behind the lines in front of it. -/
theorem replayFrom_parts {front gap : List String} (silent : ∀ line ∈ gap, Event.IsSilent line)
    (rest : List String) {count : Nat}
    (replayed : replayFrom 1 0 front emitter = .ok count after) :
    replayFrom 1 0 (front ++ gap ++ rest) emitter =
      behind (front ++ gap).length count (replayFrom 1 0 rest) after := by
  have delayed := replayFrom_delayed 1 0 (front ++ gap).length count rest
  rw [Nat.zero_add] at delayed
  rw [replayFrom_append, ← delayed]
  refine bind_of_ok ?_
  rw [replayFrom_append, bind_of_ok replayed, replayFrom_silent silent]
  rfl

/-- A fault of an event is that of a line. -/
theorem replay_error_numbered {lines : List String}
    (failed : replay lines emitter = .error fault after)
    {number? : Option Nat} {reason : EventFault}
    (same : fault = .event number? reason) : ∃ number, number? = some number := by
  obtain ⟨number, before, -, -, -, numbered⟩ := replay_failed failed
  exact ⟨number, (numbered number? reason same).1⟩

/-- Replay of lines that were put together is replay of one part behind the other. -/
theorem replay_parts {front gap : List String} (silent : ∀ line ∈ gap, Event.IsSilent line)
    (rest : List String) (emitter : Emitter) :
    (∀ count middle, replay front emitter = .ok count middle →
      (∀ more after, replay rest middle = .ok more after →
        ∃ notices, replay (front ++ gap ++ rest) emitter =
          .ok (count + more) { after with notices }) ∧
      (∀ fault after, replay rest middle = .error fault after →
        (∃ notices, replay (front ++ gap ++ rest) emitter =
          .error (fault.delayed (front ++ gap).length) { after with notices }) ∧
        ∀ number? reason, fault = .event number? reason → ∃ number, number? = some number ∧
          fault.message = "line " ++ Text.decimal number ++ ": " ++ reason.message ∧
          fault.delayed (front ++ gap).length =
            .event (some (number + (front ++ gap).length)) reason ∧
          (fault.delayed (front ++ gap).length).message =
            "line " ++ Text.decimal (number + (front ++ gap).length) ++ ": " ++ reason.message)) ∧
    ∀ fault after, replay front emitter = .error fault after →
      replay (front ++ gap ++ rest) emitter = .error fault after := by
  refine ⟨fun count middle replayed => ?_, fun fault after failed => ?_⟩
  · obtain ⟨reached, ended, told⟩ := replay_ok replayed
    -- The emitter that the second part is replayed on has noticed the end of the first part.
    have together := replayFrom_unnoticed 1 0 rest reached (reached.notices.push (.replayed count))
    rw [← told] at together
    have whole := replayFrom_parts silent rest ended
    refine ⟨fun more after finished => ?_, fun fault after failed => ⟨?_, ?_⟩⟩
    · obtain ⟨last, later, tellsLast⟩ := replay_ok finished
      rw [later] at together
      generalize alone : replayFrom 1 0 rest reached = outcome at together
      cases together with
      | @ok _ _ final _ values same =>
          cases values
          refine ⟨final.notices.push (.replayed (more + count)),
            (replay_of_ok (whole.trans (behind_ok alone))).trans ?_⟩
          rw [tellsLast, same, Nat.add_comm]
    · rw [replay_error.mp failed] at together
      generalize alone : replayFrom 1 0 rest reached = outcome at together
      cases together with
      | @error final _ _ same =>
          refine ⟨final.notices, (replay_error.mpr (whole.trans (behind_error alone))).trans ?_⟩
          rw [same]
    · intro number? reason same
      obtain ⟨number, known⟩ := replay_error_numbered failed same
      exact ⟨number, known, Fault.delayed_message _ known same⟩
  · refine replay_error.mpr ?_
    rw [List.append_assoc, replayFrom_append]
    exact bind_of_error (replay_error.mp failed)

/-- A dwell without its time, first among its lines, fails on the fourth line of them all. -/
theorem replay_parts_of_untimed_dwell :
    let front := ["\x7b\"event\": \"rapid\", \"x\": 1\x7d"]
    let gap := ["", " # here the second part begins"]
    let rest := ["\x7b\"event\": \"dwell\"\x7d"]
    let untimed (number : Nat) := Fault.event (some number) (.missingNumber "seconds")
    (∀ line ∈ gap, Event.IsSilent line) ∧
      ∃ count middle after notices, replay front (fresh {}) = .ok count middle ∧
        replay rest middle = .error (untimed 1) after ∧
        replay (front ++ gap ++ rest) (fresh {}) = .error (untimed 4) { after with notices } := by
  intro front gap rest untimed
  have silent : ∀ line ∈ gap, Event.IsSilent line := by decide +kernel
  have replayed : endsWell (replay front) (fresh {}) = true := by decide +kernel
  have failed : fault? (replay rest) (leaves (replay front) (fresh {})) = some (untimed 1) := by
    decide +kernel
  cases first : replay front (fresh {}) with
  | error fault middle => simp [endsWell, first] at replayed
  | ok count middle =>
      rw [leaves_of_ok first] at failed
      have second := error_of_fault? failed
      obtain ⟨⟨notices, whole⟩, -⟩ :=
        ((replay_parts silent rest (fresh {})).1 count middle first).2 _ _ second
      exact ⟨silent, count, middle, _, notices, rfl, second, whole⟩

end Parts

end Emitter

end GantryCode
