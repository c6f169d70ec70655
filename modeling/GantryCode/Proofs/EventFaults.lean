import GantryCode.Proofs.Chords
import GantryCode.Proofs.ReadValues
import GantryCode.Proofs.Refusals
import GantryCode.Proofs.ReplayFaults

namespace GantryCode

/-! What events fail with.

As long as numbers can be written, an event that is performed fails for an arc: its start is
not known, or it is no figure. These faults have a name, and so have those of objects that are
no events. Everything else that can go wrong is a slip of the reading, of the arithmetic with
which an arc is divided, or of the notice about a mode that is unknown.
-/

/-- The fault is of a kind that callers are told to expect. -/
def Fault.isAnnounced : Fault → Bool
  | .event _ _ | .unknownPosition | .missingAxis | .zeroAxis | .startOnAxis => true
  | _ => false

namespace Arc

/-- An arc without a figure has no axis, or starts on it. -/
theorem between_error {geometry : Geometry Float} {start center finish axis : Coordinates Float}
    {clockwise : Bool}
    {fault : Fault} (failed : between geometry start center finish axis clockwise = .error fault) :
    fault = .zeroAxis ∨ fault = .startOnAxis := by
  unfold between at failed
  dsimp only at failed
  split at failed
  · cases failed
    exact .inl rfl
  · split at failed
    · cases failed
      exact .inr rfl
    · cases failed

end Arc

namespace Emitter

open Emission

variable {options : Options} {emitter : Emitter} {move : ArcMove} {fault : Fault}

section Arcs

/-- Why an arc is not even begun: its start is not known, or it is no figure. -/
inductive Degenerate (emitter : Emitter) (move : ArcMove) : Fault → Prop where
  | axisless (noPlane : move.plane = none) (noAxis : move.axis = none) :
      Degenerate emitter move .missingAxis
  | unknownStart (placed : move.plane = none → move.axis ≠ none)
      (unknown : (move.start <|> emitter.position.complete?) = none) :
      Degenerate emitter move .unknownPosition
  | figureless {start axis : Coordinates Float} {fault : Fault} (noPlane : move.plane = none)
      (turned : move.axis = some axis)
      (begun : (move.start <|> emitter.position.complete?) = some start)
      (failed : Arc.between emitter.options.platform.geometry start move.center move.finish axis
        move.clockwise = .error fault) : Degenerate emitter move fault

/-- An arc is a figure, but there is no number of chords for it. -/
inductive Undivided (emitter : Emitter) (move : ArcMove) : Fault → Prop where
  | chords {start axis : Coordinates Float} {arc : Arc Float} {fault : Fault}
      (noPlane : move.plane = none) (turned : move.axis = some axis)
      (begun : (move.start <|> emitter.position.complete?) = some start)
      (drawn : Arc.between emitter.options.platform.geometry start move.center move.finish axis
        move.clockwise = .ok arc)
      (failed : segments arc emitter.options.tolerance emitter.options.arcMaxSegments =
        .error fault) : Undivided emitter move fault

theorem Degenerate.announced (degenerate : emitter.Degenerate move fault) :
    fault.isAnnounced = true := by
  cases degenerate with
  | axisless => rfl
  | unknownStart => rfl
  | figureless _ _ _ failed => rcases Arc.between_error failed with rfl | rfl <;> rfl

/-- What can fail here fails without a name. -/
def OnlySlips {α : Type} (given : Except Fault α) : Prop :=
  ∀ fault, given = .error fault → fault.isAnnounced = false

theorem OnlySlips.chain {α β : Type} {first : Except Fault α} {next : α → Except Fault β}
    (slips : OnlySlips first) (later : ∀ result, OnlySlips (next result)) :
    OnlySlips (first >>= next) :=
  FailsOnly.chain slips later

theorem onlySlips_segments (arc : Arc Float) (tolerance : Quantity) (limit : Int) :
    OnlySlips (segments arc tolerance limit) := by
  have quotient (a b : Float) : OnlySlips (Scalar.quotient a b) := by
    rintro fault failed
    unfold Scalar.quotient at failed
    split at failed <;> cases failed
    rfl
  have arccos (a : Float) : OnlySlips (Scalar.arccos a) := by
    rintro fault failed
    unfold Scalar.arccos at failed
    split at failed <;> cases failed
    rfl
  have roundUp (a : Float) : OnlySlips (Scalar.roundUp a) := by
    rintro fault failed
    unfold Scalar.roundUp at failed
    split at failed <;> cases failed <;> rfl
  have amount : OnlySlips (tolerance.toFloat .sum) :=
    (tolerance.toFloat_fails .sum).weaken fun _ unfit => by cases unfit <;> rfl
  have done {α : Type} (result : α) : OnlySlips (.ok result) := fun _ => nofun
  have step : OnlySlips (widestStep arc.widestRadius tolerance) := by
    unfold widestStep
    split
    · exact done _
    · exact amount.chain fun _ => (quotient _ _).chain fun _ => (arccos _).chain fun _ => done _
  exact step.chain fun _ => (quotient _ _).chain fun _ => (roundUp _).chain fun _ => done _

theorem Undivided.unannounced (undivided : emitter.Undivided move fault) :
    fault.isAnnounced = false := by
  obtain ⟨-, -, -, -, failed⟩ := undivided
  exact onlySlips_segments _ _ _ fault failed

theorem fault?_of_error {action : Emission Unit} {after : Emitter}
    (ended : action emitter = .error fault after) : fault? action emitter = some fault := by
  rw [fault?, ended]

theorem Degenerate.fails (degenerate : emitter.Degenerate move fault) :
    fault? (circular move) emitter = some fault := by
  cases degenerate with
  | axisless noPlane noAxis =>
      rw [circular, noPlane, noAxis]
      rfl
  | unknownStart placed unknown =>
      have stopped := startPoint_unknown unknown
      cases plane : move.plane with
      | some other =>
          rw [circular, plane]
          exact fault?_of_error (bind_of_error stopped)
      | none =>
          obtain ⟨axis, turned⟩ := Option.ne_none_iff_exists'.mp (placed plane)
          rw [circular, plane, turned]
          exact fault?_of_error (bind_of_error stopped)
  | @figureless start axis _ noPlane turned begun failed =>
      obtain ⟨notices, run⟩ := circular_chords noPlane turned begun
      have figure : chordPoints emitter.options move start axis = .error fault := by
        rw [chordPoints, failed]
        rfl
      rw [figure] at run
      exact fault?_of_error run

theorem Undivided.fails (undivided : emitter.Undivided move fault) :
    fault? (circular move) emitter = some fault := by
  obtain @⟨start, axis, arc, _, noPlane, turned, begun, drawn, failed⟩ := undivided
  obtain ⟨notices, run⟩ := circular_chords noPlane turned begun
  have figure : chordPoints emitter.options move start axis = .error fault := by
    simp only [chordPoints, drawn, failed, bind, Except.bind]
  rw [figure] at run
  exact fault?_of_error run

theorem fault?_of_completes {action : Emission Unit} (completes : Completes options action)
    (can : CanWrite options emitter) : fault? action emitter = none := by
  obtain ⟨result, after, ended, -⟩ := completes emitter can
  rw [fault?, ended]

/-- An arc does not fail if its start is known and, in no principal plane, it has chords. -/
theorem circular_completes (can : CanWrite options emitter) (numbers : options.AreNumbers)
    {start : Coordinates Float}
    (begun : (move.start <|> emitter.position.complete?) = some start)
    (chorded : move.plane = none → ∃ axis points, move.axis = some axis ∧
      chordPoints emitter.options move start axis = .ok points) :
    fault? (circular move) emitter = none := by
  cases placed : move.plane with
  | some plane =>
      have run : circular move emitter = planarArc move start plane emitter := by
        rw [circular, placed]
        exact bind_of_ok (startPoint_known begun)
      have cut : Completes options (planarArc move start plane) :=
        (completes_moves numbers).planarArc fun _ _ => trivial
      rw [← fault?_of_completes cut can, fault?, fault?, run]
  | none =>
      obtain ⟨axis, points, turned, divided⟩ := chorded placed
      obtain ⟨notices, run⟩ := circular_chords placed turned begun
      rw [divided] at run
      have cut : Completes options (linearThrough move.feed points) :=
        (completes_moves numbers).linearThrough (fun _ _ _ _ => trivial) fun _ _ => trivial
      have still : CanWrite options { emitter with notices } := can.alike ⟨rfl, .inl rfl, rfl⟩
      rw [← fault?_of_completes cut still, fault?, fault?, run]

/-- An arc fails for no other reason, as long as numbers can be written. -/
theorem circular_fault (can : CanWrite options emitter) (numbers : options.AreNumbers)
    (failed : fault? (circular move) emitter = some fault) :
    emitter.Degenerate move fault ∨ emitter.Undivided move fault := by
  have degenerate {cause : Fault} (found : emitter.Degenerate move cause) :
      emitter.Degenerate move fault ∨ emitter.Undivided move fault := by
    cases found.fails.symm.trans failed
    exact .inl found
  have completes {start : Coordinates Float}
      (begun : (move.start <|> emitter.position.complete?) = some start)
      (chorded : move.plane = none → ∃ axis points, move.axis = some axis ∧
        chordPoints emitter.options move start axis = .ok points) :
      emitter.Degenerate move fault ∨ emitter.Undivided move fault := by
    cases (circular_completes can numbers begun chorded).symm.trans failed
  by_cases axisless : move.plane = none ∧ move.axis = none
  · exact degenerate (.axisless axisless.1 axisless.2)
  cases begun : (move.start <|> emitter.position.complete?) with
  | none => exact degenerate (.unknownStart (not_and.mp axisless) begun)
  | some start =>
      by_cases placed : move.plane = none
      · obtain ⟨axis, turned⟩ := Option.ne_none_iff_exists'.mp (not_and.mp axisless placed)
        cases drawn : Arc.between emitter.options.platform.geometry start move.center move.finish
            axis move.clockwise with
        | error cause => exact degenerate (.figureless placed turned begun drawn)
        | ok arc =>
            cases divided : segments arc emitter.options.tolerance
                emitter.options.arcMaxSegments with
            | error cause =>
                have undivided : emitter.Undivided move cause :=
                  .chords placed turned begun drawn divided
                cases undivided.fails.symm.trans failed
                exact .inr undivided
            | ok count =>
                refine completes begun fun _ =>
                  ⟨axis, arc.points emitter.options.platform.geometry count.toNat, turned, ?_⟩
                simp only [chordPoints, drawn, divided, bind, Except.bind]
                rfl
      · exact completes begun fun other => absurd other placed

end Arcs

section Events

variable {value : Value}

/-- What fails without a name: a slip of the reading, the division of an arc, or a mode that
cannot be told. -/
inductive Leaks (emitter : Emitter) (value : Value) : Fault → Prop where
  | slip {fault : Fault} (slip : Event.Slip emitter.options.platform value fault) :
      Leaks emitter value fault
  | arc {move : ArcMove} {fault : Fault} (described : Event.Describes value (.circular move))
      (undivided : emitter.Undivided move fault) : Leaks emitter value fault
  | mode {facts : Section} (described : Event.Describes value (.startSection facts))
      (untold : ¬(Event.startSection facts).IsTellable) : Leaks emitter value .integerTextTooLong

theorem dispatch_of_error (refused : Event.ofValue emitter.options.platform value = .error fault) :
    dispatch value emitter = .error fault emitter := by
  rw [dispatch_run, refused]

theorem dispatch_of_described {event : Event} (described : Event.Describes value event) :
    dispatch value emitter = perform event emitter := by
  rw [dispatch_run, Event.ofValue_iff.mpr described]

theorem checkMode_error {mode : Int} (untold : checkMode mode ≠ .ok ()) :
    checkMode mode = .error .integerTextTooLong := by
  unfold checkMode at untold ⊢
  split
  · next short => exact absurd (if_pos short) untold
  · rfl

/-- A section whose mode cannot be told fails for that, behind its startup. -/
theorem startSection_untold (can : CanWrite options emitter) (numbers : options.AreNumbers)
    {facts : Section} (untold : ¬(Event.startSection facts).IsTellable) :
    fault? (startSection facts) emitter = some .integerTextTooLong := by
  obtain ⟨jet, unfit⟩ := Classical.not_imp.mp untold
  have announced (other : Emitter) :
      announce facts other = .error .integerTextTooLong other := by
    rw [announce, if_pos jet, selectMode, checkMode_error unfit]
    rfl
  cases first : facts.isFirst with
  | false =>
      rw [startSection_later first]
      exact fault?_of_error (announced emitter)
  | true =>
      rw [startSection_first first]
      have begins : Completes options startup :=
        completes_steps.startup numbers fun _ _ _ _ => trivial
      obtain ⟨_, started, ended, -⟩ := begins emitter can
      exact fault?_of_error ((bind_of_ok ended).trans (announced started))

theorem Leaks.fails (can : CanWrite options emitter) (numbers : options.AreNumbers)
    (leaks : emitter.Leaks value fault) : fault? (dispatch value) emitter = some fault := by
  cases leaks with
  | slip slip => exact fault?_of_error (dispatch_of_error slip.ofValue)
  | arc described undivided =>
      rw [fault?, dispatch_of_described described]
      exact undivided.fails
  | mode described untold =>
      rw [fault?, dispatch_of_described described]
      exact startSection_untold can numbers untold

theorem Leaks.unannounced (leaks : emitter.Leaks value fault) : fault.isAnnounced = false := by
  cases leaks with
  | slip slip =>
      have kind := slip.isSlip
      cases fault with
      | event | unknownPosition | missingAxis | zeroAxis | startOnAxis => cases kind
      | _ => rfl
  | arc described undivided => exact undivided.unannounced
  | mode described untold => rfl

/-- What is no event is refused and changes nothing. -/
theorem dispatch_undescribed (emitter : Emitter)
    (undescribed : ∀ event, ¬Event.Describes value event) :
    ∃ fault, dispatch value emitter = .error fault emitter ∧
      ((∃ reason, fault = .event none reason) ∨ emitter.Leaks value fault) := by
  by_cases proper : ∃ fault, Event.Slip emitter.options.platform value fault
  · obtain ⟨fault, slip⟩ := proper
    exact ⟨fault, dispatch_of_error slip.ofValue, .inr (.slip slip)⟩
  · obtain ⟨reason, refused⟩ := Event.ofValue_refused undescribed (not_exists.mp proper)
    exact ⟨_, dispatch_of_error refused, .inl ⟨reason, rfl⟩⟩

/-- An event fails for an arc alone, unless it leaks. -/
theorem dispatch_described_fault (can : CanWrite options emitter) (numbers : options.AreNumbers)
    {event : Event} (described : Event.Describes value event)
    (failed : fault? (dispatch value) emitter = some fault) :
    (∃ move, event = .circular move ∧ emitter.Degenerate move fault) ∨
      emitter.Leaks value fault := by
  have direct := failed
  rw [fault?, dispatch_of_described described, ← fault?] at direct
  by_cases arc : ∃ move, event = .circular move
  · obtain ⟨move, rfl⟩ := arc
    rcases circular_fault can numbers direct with degenerate | undivided
    · exact .inl ⟨move, rfl, degenerate⟩
    · exact .inr (.arc described undivided)
  · by_cases told : event.IsTellable
    · have completes := completes_perform numbers told (not_exists.mp arc)
      cases (fault?_of_completes completes can).symm.trans direct
    · cases event with
      | startSection facts =>
          have leaks : emitter.Leaks value .integerTextTooLong := .mode described told
          cases (leaks.fails can numbers).symm.trans failed
          exact .inr leaks
      | _ => exact absurd trivial told

/-- What a line is to the decoder, and what it is to the emitter. -/
def decoded (emitter : Emitter) (line : String) : Except Json.Fault Value :=
  let platform := emitter.options.platform
  Json.read platform.half platform.readDepth (Text.stripped line)

def reads (emitter : Emitter) (line : String) : Except Fault (Option Value) :=
  Event.readLine emitter.options.platform line

/-- Why a line of a stream fails: the first three are announced, with the number of the
line for whatever is wrong with the event. -/
inductive LineFails (emitter : Emitter) (number : Nat) (line : String) : Fault → Prop where
  | malformed {reason : Json.Reason} {place : Json.Place}
      (unread : emitter.decoded line = .error (.malformed reason place)) :
      LineFails emitter number line (.event (some number) (.malformed reason place))
  | badEvent {value : Value} (read : emitter.reads line = .ok (some value))
      (undescribed : ∀ event, ¬Event.Describes value event) (reason : EventFault) :
      LineFails emitter number line (.event (some number) reason)
  | badArc {value : Value} {move : ArcMove} {fault : Fault}
      (read : emitter.reads line = .ok (some value))
      (described : Event.Describes value (.circular move))
      (degenerate : emitter.Degenerate move fault) : LineFails emitter number line fault
  | digits {count : Nat} (unread : emitter.decoded line = .error (.tooManyDigits count)) :
      LineFails emitter number line (.tooManyDigits count)
  | depth {nest : Json.Nest} (unread : emitter.decoded line = .error (.tooDeep nest)) :
      LineFails emitter number line (.nestedTooDeep nest)
  | leaks {value : Value} {fault : Fault} (read : emitter.reads line = .ok (some value))
      (leaks : emitter.Leaks value fault) : LineFails emitter number line fault

theorem Degenerate.atLine (degenerate : emitter.Degenerate move fault) (number : Nat) :
    fault.atLine number = fault := by
  cases degenerate with
  | axisless => rfl
  | unknownStart => rfl
  | figureless _ _ _ failed => rcases Arc.between_error failed with rfl | rfl <;> rfl

theorem atLine_unannounced (unannounced : fault.isAnnounced = false) (number : Nat) :
    fault.atLine number = fault := by
  cases fault with
  | event line reason => cases unannounced
  | _ => rfl

theorem reads_error {line : String} {number : Nat} (failed : emitter.reads line = .error fault) :
    LineFails emitter number line (fault.atLine number) := by
  unfold reads Event.readLine at failed
  dsimp only at failed
  split at failed
  · cases failed
  · split at failed
    · cases failed
    · next cause unread =>
        cases failed
        cases cause with
        | malformed reason place => exact .malformed unread
        | tooManyDigits count => exact .digits unread
        | tooDeep nest => exact .depth unread

theorem dispatch_lineFails (can : CanWrite options emitter) (numbers : options.AreNumbers)
    {line : String} {number : Nat} (read : emitter.reads line = .ok (some value))
    (failed : fault? (dispatch value) emitter = some fault) :
    LineFails emitter number line (fault.atLine number) := by
  by_cases described : ∃ event, Event.Describes value event
  · obtain ⟨event, described⟩ := described
    rcases dispatch_described_fault can numbers described failed with
      ⟨move, rfl, degenerate⟩ | leaks
    · rw [degenerate.atLine]
      exact .badArc read described degenerate
    · rw [atLine_unannounced leaks.unannounced]
      exact .leaks read leaks
  · rw [not_exists] at described
    obtain ⟨cause, ended, reported⟩ := dispatch_undescribed emitter described
    cases (fault?_of_error ended).symm.trans failed
    rcases reported with ⟨reason, rfl⟩ | leaks
    · exact .badEvent read described reason
    · rw [atLine_unannounced leaks.unannounced]
      exact .leaks read leaks

theorem replayLine_lineFails (can : CanWrite options emitter) (numbers : options.AreNumbers)
    {line : String} {number count : Nat} {after : Emitter}
    (failed : replayLine number count line emitter = .error fault after) :
    LineFails emitter number line fault := by
  rw [replayLine_run] at failed
  obtain ⟨cause, ended, rfl⟩ := atLine_error failed
  cases read : emitter.reads line with
  | error reason =>
      rw [← reads, read] at ended
      cases ended
      exact reads_error read
  | ok found =>
      rw [← reads, read] at ended
      cases found with
      | none => cases ended
      | some value =>
          cases performed : dispatch value emitter with
          | ok done reached => cases (bind_of_ok performed).symm.trans ended
          | error reason reached =>
              cases (bind_of_error performed).symm.trans ended
              exact dispatch_lineFails can numbers read (fault?_of_error performed)

end Events

/-- What dispatch and replay fail with, where numbers can be written. What is no event is
refused as that, and an event fails for nothing but an arc that is no figure or has no start,
unless the reading slips, an arc cannot be divided or a mode cannot be told: then the fault is
one that is not announced, and it always is. A replay that fails does so at a line that fails
for such a reason, and faults of events have its number. -/
theorem faults_of_events {emitter : Emitter} (precise : emitter.IsPrecise)
    (numbers : emitter.options.AreNumbers) :
    (∀ value, (∀ event, ¬Event.Describes value event) → ∃ fault,
      dispatch value emitter = .error fault emitter ∧
      ((∃ reason, fault = .event none reason) ∨ emitter.Leaks value fault)) ∧
    (∀ value event fault, Event.Describes value event →
      fault? (dispatch value) emitter = some fault →
        (∃ move, event = .circular move ∧ emitter.Degenerate move fault) ∨
          emitter.Leaks value fault) ∧
    (∀ move fault, emitter.Degenerate move fault → fault.isAnnounced = true) ∧
    (∀ value fault, emitter.Leaks value fault →
      fault? (dispatch value) emitter = some fault ∧ fault.isAnnounced = false) ∧
    ∀ lines fault after, replay lines emitter = .error fault after →
      ∃ front line rest count before, lines = front ++ line :: rest ∧
        replayFrom 1 0 front emitter = .ok count before ∧
        LineFails before (front.length + 1) line fault := by
  have can : CanWrite emitter.options emitter := ⟨precise, rfl⟩
  refine ⟨fun _ => dispatch_undescribed emitter, fun _ _ _ => dispatch_described_fault can numbers,
    fun _ _ => Degenerate.announced, fun _ _ leaks =>
    ⟨leaks.fails can numbers, leaks.unannounced⟩, ?_⟩
  intro lines fault after failed
  have stopped : replayFrom 1 0 lines emitter = .error fault after := by
    cases ended : replayFrom 1 0 lines emitter with
    | ok count reached => cases (bind_of_ok ended).symm.trans failed
    | error reason reached => exact (bind_of_error ended).symm.trans failed
  obtain ⟨front, line, rest, count, before, split, replayed, refused⟩ := replayFrom_error stopped
  refine ⟨front, line, rest, count, before, split, replayed, ?_⟩
  rw [Nat.add_comm 1] at refused
  exact replayLine_lineFails (canWrite_replayFrom numbers can replayed) numbers refused

theorem faults_of_unknown_event :
    let start := fresh {}
    let value := Value.object [("event", .text "spin")]
    create {} "" = .ok start ∧ start.IsPrecise ∧ start.options.AreNumbers ∧
      (∀ event, ¬Event.Describes value event) ∧ ∃ fault,
        dispatch value start = .error fault start ∧
        ((∃ reason, fault = .event none reason) ∨ start.Leaks value fault) := by
  intro start value
  have precise : start.IsPrecise := ⟨by decide, by decide⟩
  have undescribed : ∀ event, ¬Event.Describes value event := fun event described => by
    have read : Event.ofValue .usual value = .ok event := Event.ofValue_iff.mpr described
    cases read
  obtain ⟨refused, -⟩ := faults_of_events precise Options.usual_areNumbers
  exact ⟨create_fresh (by decide +kernel) rfl, precise, Options.usual_areNumbers, undescribed,
    refused value undescribed⟩

/-- A list is the name of no event, but looking it up fails in its own way. -/
theorem listed_name_leaks :
    let start := fresh {}
    let value := Value.object [("event", .list [])]
    create {} "" = .ok start ∧ 0 ≤ start.writer.precision ∧
      (∀ event, ¬Event.Describes value event) ∧
      dispatch value start = .error .listAsName start ∧
      ∀ line reason, Fault.listAsName ≠ .event line reason := by
  intro start value
  refine ⟨create_fresh (by decide +kernel) rfl, by decide, fun event described => ?_, rfl, by simp⟩
  have read : Event.ofValue .usual value = .ok event := Event.ofValue_iff.mpr described
  cases read

end Emitter

end GantryCode
