import GantryCode.Proofs.Calls
import GantryCode.Proofs.Operations

namespace GantryCode

/-! Where numbers can be written, every event but an arc ends well.

Whether a number can be written is a matter of the decimal places that are asked for and
of the options, not of the number: the options may hold integers that are too large for a
double, or nothing at all. An arc can still be impossible as a figure, which turns out
before anything else is done, and a section can ask for a mode that is unknown and too long
to be told.
-/

/-- The quantity can be used as a floating-point number, whatever for. -/
def Quantity.IsNumber (quantity : Quantity) : Prop :=
  ∀ purpose, ∃ x, quantity.toFloat purpose = .ok x

namespace Quantity

open Emission (FailsOnly)

/-- The faults of what is used as a number and is none. -/
inductive Unfit : Fault → Prop where
  | large : Unfit .integerTooLarge
  | wrongType (purpose : Purpose) (typeName : String) : Unfit (.wrongType purpose typeName)

theorem toFloat_fails (purpose : Purpose) (quantity : Quantity) :
    FailsOnly Unfit (quantity.toFloat purpose) := by
  intro fault failed
  unfold toFloat at failed
  split at failed
  · split at failed <;> cases failed
    exact .large
  · cases failed
  · cases failed
    exact .wrongType purpose _

theorem shift_fails (quantity : Quantity) (value : Float) :
    FailsOnly Unfit (quantity.shift value) := by
  intro fault failed
  unfold shift at failed
  cases found : quantity.toFloat .sum with
  | error cause =>
      rw [found] at failed
      cases failed
      exact toFloat_fails .sum quantity _ found
  | ok amount =>
      rw [found] at failed
      cases failed

end Quantity

namespace Options

def AreNumbers (options : Options) : Prop :=
  ∀ quantity ∈ options.quantities, quantity.IsNumber

theorem usual_areNumbers : AreNumbers {} := by
  intro quantity member
  simp only [quantities, Option.toList_none, List.append_nil, List.mem_cons, List.not_mem_nil,
    or_false] at member
  rcases member with rfl | rfl | rfl | rfl | rfl | rfl | rfl <;> exact fun _ => ⟨_, rfl⟩

end Options

/-- The mode that a section asks for is known, or can be shown. -/
def Event.IsTellable : Event → Prop
  | .startSection facts => facts.isJet = true → Emitter.checkMode facts.jetMode = .ok ()
  | _ => True

namespace Emitter

open Emission

theorem shifted_unfit (offset : Coordinates Quantity) (point : Coordinates Float) :
    FailsOnly Quantity.Unfit (shifted offset point) :=
  (offset.x.shift_fails _).chain fun _ => (offset.y.shift_fails _).chain fun _ =>
    (offset.z.shift_fails _).chain fun _ => .ok _

variable {α β : Type} {options : Options}

/-- The decimal places are as many as numbers can have. -/
structure IsPrecise (emitter : Emitter) : Prop where
  atLeast : 0 ≤ emitter.writer.precision
  atMost : emitter.writer.precision ≤ Writer.precisionLimit

theorem IsPrecise.possible {emitter : Emitter} (precise : emitter.IsPrecise) :
    emitter.writer.precisionFault? = none := by
  obtain ⟨atLeast, atMost⟩ := precise
  have short : Writer.precisionLimit ≤ Writer.precisionTextLimit := by decide
  rw [Writer.precisionFault?, if_neg (by omega), if_neg (by omega), if_neg (by omega)]

/-- An emitter with these options that can write numbers. -/
structure CanWrite (options : Options) (emitter : Emitter) : Prop extends IsPrecise emitter where
  options : emitter.options = options

theorem CanWrite.valueText {emitter : Emitter} (can : CanWrite options emitter) (whole : Bool)
    (value : Float) : ∃ text, emitter.writer.valueText whole value = .ok text := by
  cases whole with
  | true => exact ⟨_, rfl⟩
  | false =>
      refine ⟨Decimal.rounded emitter.writer.precision.toNat value, ?_⟩
      rw [Writer.valueText_places, can.toIsPrecise.possible]

theorem CanWrite.alike {before after : Emitter} (can : CanWrite options before)
    (alike : Alike before after) : CanWrite options after := by
  refine ⟨⟨?_, ?_⟩, alike.options.trans can.options⟩
  · rw [alike.precision]
    exact can.atLeast
  · rw [alike.precision]
    exact can.atMost

/-- The action ends well wherever numbers can be written, and they still can behind it. -/
def Completes (options : Options) (action : Emission α) : Prop :=
  ∀ emitter, CanWrite options emitter →
    ∃ result after, action emitter = .ok result after ∧ CanWrite options after

namespace Completes

theorem nothing (result : α) : Completes options (pure result : Emission α) :=
  fun emitter can => ⟨result, emitter, rfl, can⟩

theorem change {update : Emitter → Emitter}
    (kept : ∀ emitter, (update emitter).options = emitter.options ∧
      (update emitter).writer.precision = emitter.writer.precision) :
    Completes options (modify update : Emission Unit) := by
  intro emitter can
  obtain ⟨same, places⟩ := kept emitter
  refine ⟨(), update emitter, rfl, ⟨?_, ?_⟩, same.trans can.options⟩
  · rw [places]
    exact can.atLeast
  · rw [places]
    exact can.atMost

theorem follow {action : Emission α} {next : α → Emission β} (first : Completes options action)
    (later : ∀ result, Returns action result → Completes options (next result)) :
    Completes options (action >>= next) := by
  intro emitter can
  obtain ⟨result, middle, ended, still⟩ := first emitter can
  obtain ⟨final, after, finished, kept⟩ := later result ⟨emitter, middle, ended⟩ middle still
  exact ⟨final, after, (bind_of_ok ended).trans finished, kept⟩

theorem chain {action : Emission α} {next : α → Emission β} (first : Completes options action)
    (later : ∀ result, Completes options (next result)) :
    Completes options (action >>= next) :=
  follow first fun result _ => later result

theorem inspect {next : Emitter → Emission β}
    (later : ∀ emitter, CanWrite options emitter → Completes options (next emitter)) :
    Completes options ((get : Emission Emitter) >>= next) :=
  fun emitter can => later emitter can emitter can

theorem result {given : Except Fault α} {value : α} (found : given = .ok value) :
    Completes options (fromResult given) :=
  found ▸ nothing value

theorem given {given : Except Fault α} (found : ∃ value, given = .ok value) :
    Completes options (fromResult given) := by
  obtain ⟨value, found⟩ := found
  exact result found

/-- What runs the same from every emitter with these options. -/
theorem of_run {action other : Emission α}
    (run : ∀ emitter, emitter.options = options → action emitter = other emitter)
    (completes : Completes options other) : Completes options action := by
  intro emitter can
  rw [run emitter can.options]
  exact completes emitter can

end Completes

section Words

theorem completes_command (tokens : List (Option String)) (remark : Option String) :
    Completes options (command tokens remark) :=
  Completes.change fun emitter => ⟨rfl, Writer.precision_command emitter.writer tokens remark⟩

theorem completes_word (letter : Letter) (value : Option Float) (force : Bool) :
    Completes options (word letter value force) := by
  intro emitter can
  have shown : ∃ text, value.mapM (emitter.writer.valueText letter.isWhole) = .ok text := by
    cases value with
    | none => exact ⟨none, rfl⟩
    | some value =>
        obtain ⟨text, shown⟩ := can.valueText letter.isWhole value
        exact ⟨some text, by rw [Option.mapM_some, shown]; rfl⟩
  obtain ⟨text, shown⟩ := shown
  have run := word_run letter value force emitter
  rw [shown] at run
  exact ⟨_, _, run, can.alike ⟨rfl, .inl rfl, rfl⟩⟩

theorem completes_planeCode (plane : Plane) (force : Bool) :
    Completes options (writing (Writer.planeCode plane.code force)) := by
  intro emitter can
  have still : CanWrite options (emitter.withSlots (emitter.slots.inPlane plane)) :=
    can.alike ((Alike.refl emitter).withSlots _)
  cases force with
  | true => exact ⟨_, _, rfl, still⟩
  | false => exact ⟨_, _, planeCode_run plane emitter, still⟩

theorem completes_remark (text : String) :
    Completes options (updateWriter (·.remark text)) := by
  intro emitter can
  obtain ⟨lines, idles⟩ := idle_comment emitter (.text text)
  exact ⟨(), _, rfl, can.alike idles.toAlike⟩

/-- An operation ends well if its numbers can be written. -/
theorem completes_steps :
    Stepwise options Quantity.IsNumber (fun _ => True) (Completes options) where
  nothing := Completes.nothing
  follow := Completes.follow
  target := fun later => Completes.inspect fun emitter _ => later emitter.writer.target
  valueText := by
    refine fun value _ later => Completes.inspect fun emitter can => ?_
    obtain ⟨text, shown⟩ := can.valueText false value
    obtain ⟨places, rfl⟩ := Writer.valueText_rounded shown
    rw [shown]
    exact later places
  sameRun := fun run completes => Completes.of_run (fun emitter same => run emitter
    options.toolOffset options.showComments options.showLineNumbers same) completes
  notify := fun _ => Completes.change fun _ => ⟨rfl, rfl⟩
  command := fun _ => completes_command _
  remark := completes_remark
  forget := fun _ => Completes.change fun _ => ⟨rfl, rfl⟩
  amount := fun number => Completes.given (number .text)
  word := completes_word
  planeCode := completes_planeCode
  unplaced := fun _ => Completes.change fun _ => ⟨rfl, rfl⟩

end Words

section Phases

variable (numbers : options.AreNumbers)

theorem completes_selectMode {mode : Int} (told : checkMode mode = .ok ()) :
    Completes options (selectMode mode) := by
  have chosen : Completes options (modify fun emitter =>
      { emitter with mode := cuttingMode emitter.options mode }) :=
    Completes.change fun _ => ⟨rfl, rfl⟩
  exact Completes.chain (.result told) fun _ =>
    completes_steps.optional (fun _ => completes_steps.notify _) fun _ => chosen

theorem exists_mapM {f : α → Except Fault β} {entries : List α}
    (each : ∀ entry ∈ entries, ∃ text, f entry = .ok text) :
    ∃ texts, entries.mapM f = .ok texts := by
  induction entries with
  | nil => exact ⟨[], rfl⟩
  | cons entry rest ih =>
      obtain ⟨text, shown⟩ := each entry (by simp)
      obtain ⟨texts, more⟩ := ih fun other member => each other (by simp [member])
      exact ⟨text :: texts, by rw [List.mapM_cons, shown, more]; rfl⟩

theorem completes_pointText {words : List (String × Quantity)}
    (numbers : ∀ entry ∈ words, entry.2.IsNumber) : Completes options (pointText words) := by
  refine Completes.inspect fun emitter can => ?_
  refine Completes.chain (Completes.given (exists_mapM fun entry member => ?_)) fun texts =>
    Completes.nothing (" ".intercalate texts)
  obtain ⟨name, quantity⟩ := entry
  obtain ⟨x, found⟩ := numbers (name, quantity) member .text
  obtain ⟨text, written⟩ := can.valueText false x
  dsimp only at found
  refine ⟨name ++ text, ?_⟩
  dsimp only
  rw [found]
  simp only [bind, Except.bind, written, pure, Except.pure]

include numbers

theorem completes_startRun (comment : Option String) : Completes options (startRun comment) := by
  refine Completes.of_run (fun emitter same => same ▸ startRun_run comment emitter) ?_
  have headed : Completes options (updateWriter (·.header (comment.map .text))) := by
    intro emitter can
    obtain ⟨lines, idles⟩ := idle_header emitter (comment.map .text)
    exact ⟨(), _, rfl, can.alike idles.toAlike⟩
  have size : ∀ entry ∈ [("X", options.bedX), ("Y", options.bedY)], entry.2.IsNumber := by
    simp only [List.forall_mem_cons, List.not_mem_nil, false_implies, implies_true, and_true]
    exact ⟨numbers _ (by simp [Options.quantities]), numbers _ (by simp [Options.quantities])⟩
  have place : ∀ entry ∈ [("X", options.toolOffset.x), ("Y", options.toolOffset.y),
      ("Z", options.toolOffset.z)], entry.2.IsNumber := by
    simp only [List.forall_mem_cons, List.not_mem_nil, false_implies, implies_true, and_true]
    exact ⟨numbers _ (by simp [Options.quantities]), numbers _ (by simp [Options.quantities]),
      numbers _ (by simp [Options.quantities])⟩
  refine Completes.chain ?_ fun _ => Completes.change fun _ => ⟨rfl, rfl⟩
  refine Completes.chain (completes_remark _) fun _ => ?_
  refine Completes.chain (Completes.change fun _ => ⟨rfl, rfl⟩) fun _ => ?_
  refine Completes.chain (completes_pointText size) fun _ => ?_
  refine Completes.chain (Completes.change fun _ => ⟨rfl, rfl⟩) fun _ => ?_
  dsimp only
  split
  · refine Completes.chain (completes_pointText place) fun _ => ?_
    exact Completes.chain (Completes.change fun _ => ⟨rfl, rfl⟩) fun _ => headed
  · exact headed

end Phases

section Motion

variable (numbers : options.AreNumbers)

theorem shift_of_number {quantity : Quantity} (number : quantity.IsNumber) (x : Float) :
    ∃ place, quantity.shift x = .ok place := by
  obtain ⟨amount, found⟩ := number .sum
  exact ⟨x + amount, by rw [Quantity.shift, found]; rfl⟩

include numbers

theorem offset_isNumber (axis : Axis) : (options.toolOffset.get axis).IsNumber := by
  refine numbers _ ?_
  cases axis <;> simp [Options.quantities, Coordinates.get]

theorem shifted_of_numbers (point : Coordinates Float) :
    ∃ place, shifted options.toolOffset point = .ok place := by
  obtain ⟨x, movedX⟩ := shift_of_number (offset_isNumber numbers .x) point.x
  obtain ⟨y, movedY⟩ := shift_of_number (offset_isNumber numbers .y) point.y
  obtain ⟨z, movedZ⟩ := shift_of_number (offset_isNumber numbers .z) point.z
  dsimp only [Coordinates.get] at movedX movedY movedZ
  exact ⟨⟨x, y, z⟩, by rw [shifted, movedX, movedY, movedZ]; rfl⟩

theorem shiftedTarget_of_numbers (target : Coordinates (Option Float)) :
    ∃ point, shiftedTarget options.toolOffset target = .ok point := by
  have each (axis : Axis) : ∃ place,
      (target.get axis).mapM (options.toolOffset.get axis).shift = .ok place := by
    cases target.get axis with
    | none => exact ⟨none, rfl⟩
    | some value =>
        obtain ⟨place, moved⟩ := shift_of_number (offset_isNumber numbers axis) value
        exact ⟨some place, by rw [Option.mapM_some, moved]; rfl⟩
  obtain ⟨x, movedX⟩ := each .x
  obtain ⟨y, movedY⟩ := each .y
  obtain ⟨z, movedZ⟩ := each .z
  dsimp only [Coordinates.get] at movedX movedY movedZ
  exact ⟨⟨x, y, z⟩, by rw [shiftedTarget, movedX, movedY, movedZ]; rfl⟩

/-- The same of moves, which are shifted by numbers. -/
theorem completes_moves :
    Movewise options Quantity.IsNumber (fun _ => True) (Completes options) where
  toStepwise := completes_steps
  sameMove := fun run completes => Completes.of_run (fun emitter same => run emitter
    options.showComments options.showLineNumbers same) completes
  power := fun on => Completes.inspect fun _ _ => by cases on <;> exact completes_command _ _
  updatePosition := fun _ => Completes.change fun _ => ⟨rfl, rfl⟩
  shiftedTarget := fun target => Completes.given (shiftedTarget_of_numbers numbers target)
  shifted := fun point => Completes.given (shifted_of_numbers numbers point)

end Motion

section Refusals

/-- Wherever numbers can be written, the action either ends well, and they still can
behind it, or it has changed nothing but what it told. -/
def IsAtomic (options : Options) (action : Emission α) : Prop :=
  ∀ emitter, CanWrite options emitter →
    (∃ result after, action emitter = .ok result after ∧ CanWrite options after) ∨
    ∃ fault notices, action emitter = .error fault { emitter with notices }

theorem Completes.isAtomic {action : Emission α} (completes : Completes options action) :
    IsAtomic options action :=
  fun emitter can => .inl (completes emitter can)

theorem isAtomic_refused (fault : Fault) : IsAtomic options (throw fault : Emission α) :=
  fun emitter _ => .inr ⟨fault, emitter.notices, rfl⟩

theorem isAtomic_chain {action : Emission α} {next : α → Emission β}
    (first : IsAtomic options action) (later : ∀ result, Completes options (next result)) :
    IsAtomic options (action >>= next) := by
  intro emitter can
  rcases first emitter can with ⟨result, middle, ended, still⟩ | ⟨fault, notices, failed⟩
  · rw [bind_of_ok ended]
    exact .inl (later result middle still)
  · exact .inr ⟨fault, notices, bind_of_error failed⟩

/-- What is given or not is decided before anything is done. -/
theorem isAtomic_given {given : Except Fault α} {next : α → Emission β}
    (later : ∀ result, given = .ok result → IsAtomic options (next result)) :
    IsAtomic options (fromResult given >>= next) := by
  cases given with
  | error fault => exact isAtomic_refused fault
  | ok result => exact later result rfl

theorem isAtomic_startPoint (given : Option (Coordinates Float))
    {next : Coordinates Float → Emission Unit}
    (later : ∀ start, IsAtomic options (next start)) :
    IsAtomic options (startPoint given >>= next) := by
  intro emitter can
  rw [startPoint, bind_assoc, get_bind_apply]
  cases (given <|> emitter.position.complete?) with
  | none => exact .inr ⟨.unknownPosition, emitter.notices, rfl⟩
  | some start => exact later start emitter can

variable (numbers : options.AreNumbers)

include numbers

/-- An arc in no principal plane is found to be impossible before its first chord is
cut. By then no more was done than to tell about it. -/
theorem isAtomic_chordedArc (move : ArcMove) (start axis : Coordinates Float) :
    IsAtomic options (chordedArc move start axis) := by
  intro emitter can
  let figure := chords emitter.options.platform.geometry start move.center move.finish axis
    move.clockwise emitter.options.tolerance emitter.options.arcMaxSegments
  have begun : chordedArc move start axis emitter =
      (noticing figure >>= fun points => notify (.arcOutsidePlanes points.length) >>= fun _ =>
        linearThrough move.feed points) emitter := rfl
  rw [begun]
  cases figured : figure emitter.notices with
  | error fault told =>
      have stopped : noticing figure emitter = .error fault { emitter with notices := told } := by
        rw [noticing, figured]
      exact .inr ⟨fault, told, bind_of_error stopped⟩
  | ok points told =>
      have drawn : noticing figure emitter = .ok points { emitter with notices := told } := by
        rw [noticing, figured]
      have cut : Completes options (notify (.arcOutsidePlanes points.length) >>= fun _ =>
          linearThrough move.feed points) :=
        Completes.chain (completes_steps.notify _) fun _ =>
          (completes_moves numbers).linearThrough (fun _ _ _ _ => trivial) fun _ _ => trivial
      rw [bind_of_ok drawn]
      exact .inl (cut _ (can.alike ⟨rfl, .inl rfl, rfl⟩))

theorem isAtomic_circular (move : ArcMove) : IsAtomic options (circular move) := by
  unfold circular
  cases move.plane with
  | none =>
      cases move.axis with
      | none => exact isAtomic_refused .missingAxis
      | some axis =>
          exact isAtomic_startPoint move.start fun start =>
            isAtomic_chordedArc numbers move start axis
  | some plane =>
      exact isAtomic_startPoint move.start fun start =>
        ((completes_moves numbers).planarArc fun _ _ => trivial).isAtomic

/-- Every event but an arc ends well, if its mode can be told. -/
theorem completes_perform {event : Event} (told : event.IsTellable)
    (other : ∀ move, event ≠ .circular move) : Completes options (perform event) := by
  cases event with
  | startRun comment => exact completes_startRun numbers comment
  | startSection facts =>
      exact completes_steps.startSection numbers (fun _ _ _ _ => trivial) fun jet =>
        completes_selectMode (told jet)
  | endSection => exact completes_steps.endSection
  | dwell seconds => exact completes_steps.dwell trivial
  | power on => exact (completes_moves numbers).power on
  | rapid target => exact (completes_moves numbers).rapid numbers fun _ _ => trivial
  | linear target feed =>
      exact (completes_moves numbers).linear (fun _ _ => trivial) fun _ _ => trivial
  | circular move => exact absurd rfl (other move)
  | endRun => exact completes_steps.endRun numbers fun _ _ _ _ => trivial

theorem isAtomic_perform {event : Event} (told : event.IsTellable) :
    IsAtomic options (perform event) := by
  cases event with
  | circular move => exact isAtomic_circular numbers move
  | _ => exact (completes_perform numbers told (by simp)).isAtomic

end Refusals

end Emitter

end GantryCode
