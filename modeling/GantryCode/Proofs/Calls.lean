import GantryCode.Event
import GantryCode.Proofs.Phases

namespace GantryCode

/-! Runs of calls.

A run is any list of events with changes of the precision in between. A call that fails
leaves what it did until then, and the run goes on from there. What a call does to the
writer is telling the controller something, switching the laser, or emptying slots.
-/

inductive Call where
  | event (event : Event)
  | precision (places : Int)

namespace Options

open Emission (bind_eq_ok)

theorem require_ok {condition : Bool} {reason : OptionFault}
    (required : require condition reason = .ok ()) : condition = true := by
  cases condition with
  | true => rfl
  | false => cases required

/-- Accepted options have rapid feed rates and a tolerance above zero, allow an arc at least one
chord, and name a target that can be selected. -/
theorem accepted_of_check {options : Options} (checked : options.check = .ok ()) :
    options.hasRapidFeeds = .ok true ∧ options.tolerance.isAboveZero = .ok true ∧
      1 ≤ options.arcMaxSegments ∧ isSelectable options.target = true := by
  obtain ⟨_, numbers, checked⟩ := bind_eq_ok.mp checked
  obtain ⟨_, limited, selectable⟩ := bind_eq_ok.mp checked
  obtain ⟨feeds, fed, numbers⟩ := bind_eq_ok.mp numbers
  obtain ⟨_, feeding, numbers⟩ := bind_eq_ok.mp numbers
  obtain ⟨above, tolerant, tolerable⟩ := bind_eq_ok.mp numbers
  cases require_ok feeding
  cases require_ok tolerable
  exact ⟨fed, tolerant, of_decide_eq_true (require_ok limited), require_ok selectable⟩

end Options

namespace Emitter

open Emission Reading

def obey : Call → Emission Unit
  | .event event => perform event
  | .precision places => setPrecision places

def after (emitter : Emitter) (calls : List Call) : Emitter :=
  calls.foldl (fun emitter call => leaves (obey call) emitter) emitter

theorem after_concat (emitter : Emitter) (calls : List Call) (call : Call) :
    emitter.after (calls ++ [call]) = leaves (obey call) (emitter.after calls) := by
  simp [after]

/-- A new emitter has written nothing and knows nothing of the controller. -/
structure IsFresh (options : Options) (emitter : Emitter) : Prop
    extends Serves options emitter where
  written : emitter.writer.written = #[]
  slots : emitter.slots = {}
  position : emitter.position = ⟨none, none, none⟩

/-- The emitter that is made of these options, if they are accepted. -/
def made (options : Options) (stamp : String) (target : Target) : Emitter where
  options := options
  writer :=
    { target := target
      stamp := stamp
      showComments := options.showComments
      showLineNumbers := options.showLineNumbers }
  mode := ⟨options.cutterOff, "Cutting mode not set"⟩

theorem create_ok {options : Options} {stamp : String} {start : Emitter} :
    create options stamp = .ok start ↔
      options.check = .ok () ∧ ∃ target, Target.ofName? options.target = some target ∧
        start = made options stamp target := by
  unfold create
  cases accepted : options.check with
  | error fault => simp [bind, Except.bind]
  | ok checked =>
      cases named : Target.ofName? options.target with
      | none => simp [Writer.ofTargetName, named, bind, Except.bind]
      | some target =>
          rw [Writer.ofTargetName, named]
          refine ⟨fun created => ?_, fun ⟨_, other, same, start⟩ => ?_⟩
          · cases created
            exact ⟨rfl, target, rfl, rfl⟩
          · cases same
            rw [start]
            rfl

theorem create_isFresh {options : Options} {stamp : String} {start : Emitter}
    (created : create options stamp = .ok start) : IsFresh options start := by
  obtain ⟨-, target, -, rfl⟩ := create_ok.mp created
  exact ⟨⟨rfl, by simp [made, Options.cutterCommands]⟩, rfl, rfl, rfl⟩

/-- The new emitter that writes for the usual target. -/
def fresh (options : Options) : Emitter where
  options := options
  writer :=
    { target := .marlin
      stamp := ""
      showComments := options.showComments
      showLineNumbers := options.showLineNumbers }
  mode := ⟨options.cutterOff, "Cutting mode not set"⟩

theorem create_fresh {options : Options} (accepted : options.check = .ok ())
    (named : options.target = "marlin") : create options "" = .ok (fresh options) :=
  create_ok.mpr ⟨accepted, .marlin, by rw [named]; decide +kernel, rfl⟩

variable {options : Options} {relation : Emitter → Emitter → Prop}

/-- A relation that is a matter of what is written and of which slots are filled. -/
structure Writerly (options : Options) (relation : Emitter → Emitter → Prop) : Prop where
  progress : Progress relation
  told : ∀ {before after}, Told before after → relation before after
  laser : ∀ emitter command note, Serves options emitter → command ∈ options.cutterCommands →
    relation emitter (emitter.commanded [some command] note)
  forgotten : ∀ (emitter : Emitter) (slots : Slots),
    (∀ letter, slots.get letter = none ∨ slots.get letter = emitter.slots.get letter) →
    relation emitter (emitter.withSlots slots)

namespace Writerly

variable (writerly : Writerly options relation)

include writerly

theorem inPlane {before after : Emitter} (told : ToldInPlane before after) :
    relation before after :=
  writerly.told told.told

theorem keepsInPlane {α : Type} {action : Emission α}
    (keeps : Keeps options ToldInPlane action) : Keeps options relation action :=
  keeps.weaken fun _ told => writerly.inPlane told

theorem keepsIdle {α : Type} {action : Emission α}
    (keeps : Keeps options Idle action) : Keeps options relation action :=
  writerly.keepsInPlane (keepsInPlane_of_idle keeps)

theorem keepsTold {α : Type} {action : Emission α}
    (keeps : Keeps options Told action) : Keeps options relation action :=
  keeps.weaken fun _ told => writerly.told told

theorem keeps_laserOff : Keeps options relation (laserOff options) :=
  fun emitter serves => writerly.laser emitter _ _ serves (by simp [Options.cutterCommands])

theorem keeps_startup : Keeps options relation startup := by
  refine Keeps.of_run (fun emitter serves => serves.options ▸ startup_run emitter) ?_
  exact Keeps.chain writerly.progress writerly.keeps_laserOff fun _ =>
    Keeps.chain writerly.progress (writerly.keepsInPlane keeps_prepare) fun _ =>
      Keeps.chain writerly.progress (writerly.keepsTold keeps_selectXY) fun _ =>
        writerly.keepsInPlane keeps_settle

theorem keeps_endRun : Keeps options relation endRun := by
  refine Keeps.of_run (fun emitter serves => serves.options ▸ endRun_run emitter) ?_
  exact Keeps.chain writerly.progress (writerly.keepsIdle keeps_finishMoves) fun _ =>
    Keeps.chain writerly.progress writerly.keeps_laserOff fun _ =>
      Keeps.chain writerly.progress (writerly.keepsInPlane keeps_park) fun _ =>
        writerly.keepsIdle keeps_powerDown

theorem keeps_startRun (comment : Option String) : Keeps options relation (startRun comment) := by
  have forgotten : Keeps options relation (updateWriter Writer.forgetAll) := by
    refine fun emitter _ => writerly.forgotten emitter _ fun letter => .inl ?_
    cases letter <;> rfl
  refine Keeps.of_run (fun emitter serves => serves.options ▸ startRun_run comment emitter) ?_
  exact Keeps.chain writerly.progress (writerly.keepsIdle (keeps_head comment)) fun _ => forgotten

theorem keeps_endSection : Keeps options relation endSection := by
  intro emitter _
  rw [leaves_of_ok (endSection_run emitter)]
  have back : relation emitter emitter.backInXY :=
    writerly.told ⟨_, (tells_backInXY emitter).1⟩
  refine writerly.progress.trans back (writerly.forgotten _ _ fun letter => ?_)
  rw [Slots.get_forget]
  split
  · exact .inl rfl
  · exact .inr rfl

theorem keeps_startSection (facts : Section) : Keeps options relation (startSection facts) := by
  have announced : Keeps options relation (announce facts) :=
    writerly.keepsIdle (keeps_announce facts)
  cases first : facts.isFirst with
  | true =>
      rw [startSection_first first]
      exact Keeps.chain writerly.progress writerly.keeps_startup fun _ => announced
  | false =>
      rw [startSection_later first]
      exact announced

theorem keeps_power (on : Bool) : Keeps options relation (power on) := by
  refine Keeps.inspect fun emitter serves => ?_
  cases on with
  | true => exact fun before same => writerly.laser before _ _ same serves.mode
  | false =>
      refine fun before same => writerly.laser before _ _ same ?_
      rw [serves.options]
      simp [Options.cutterCommands]

theorem keeps_perform (event : Event) : Keeps options relation (perform event) := by
  cases event with
  | startRun comment => exact writerly.keeps_startRun comment
  | startSection facts => exact writerly.keeps_startSection facts
  | endSection => exact writerly.keeps_endSection
  | dwell seconds => exact writerly.keepsIdle (keeps_dwell seconds)
  | power on => exact writerly.keeps_power on
  | rapid target => exact writerly.keepsInPlane (keeps_rapid target)
  | linear target feed => exact writerly.keepsInPlane (keeps_linear target feed)
  | circular move => exact writerly.keepsTold (keeps_circular move)
  | endRun => exact writerly.keeps_endRun

end Writerly

/-- Whatever is called, the options stay and the laser is switched as they say. -/
theorem serves_writerly : Writerly options fun before after =>
    ∀ given, Serves given before → Serves given after where
  progress :=
    { refl := fun _ _ serves => serves
      trans := fun start later given serves => later given (start given serves)
      serves := fun kept serves => kept _ serves }
  told := by
    rintro before after ⟨lines, tells⟩ given serves
    exact tells.serves serves
  laser := fun emitter command note _ _ given serves => ⟨serves.options, serves.mode⟩
  forgotten := fun emitter slots _ given serves => ⟨serves.options, serves.mode⟩

theorem serves_obey {emitter : Emitter} (serves : Serves options emitter) (call : Call) :
    Serves options (leaves (obey call) emitter) := by
  cases call with
  | event event => exact serves_writerly.keeps_perform event emitter serves options serves
  | precision places => exact ⟨serves.options, serves.mode⟩

theorem serves_after {emitter : Emitter} (serves : Serves options emitter) (calls : List Call) :
    Serves options (emitter.after calls) := by
  induction calls generalizing emitter with
  | nil => exact serves
  | cons call rest ih => exact ih (serves_obey serves call)

end Emitter

end GantryCode
