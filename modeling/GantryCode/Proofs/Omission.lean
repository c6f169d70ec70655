import GantryCode.Proofs.ExactEmission
import GantryCode.Proofs.ReplayParts
import GantryCode.Proofs.Standing

namespace GantryCode

/-! Runs with and without their asides.

A dwell, switching the laser, or the start of a section that is not the first only writes
lines: it fills no slot, moves no position, and counts nothing where commands have no
numbers. So whatever stands beside it in a run does the same without it. The exception is
switching the laser on, which writes the command of the section before it.
-/

def Call.isAside : Call → Bool
  | .event asked => asked.isAside
  | .precision _ => false

/-- A call of a run, and whether it stays in the run. -/
structure Step where
  call : Call
  stays : Bool

/-- What a step did: the fault it ended with, if it failed, and the lines that it added. -/
structure Deed where
  step : Step
  fault : Option Fault
  lines : List Line

/-- One of the commands that switch the laser, alone in its line. -/
def Line.SwitchesLaser (options : Options) (line : Line) : Prop :=
  ∃ command ∈ options.cutterCommands, ∃ remark,
    line = .command none (commandBody [some command]) remark

/-- The step did the same in another run, where it was on another day. Switching the laser on
may have been done with another of the commands for it. -/
structure Deed.Matches (options : Options) (stamp otherStamp : String) (deed other : Deed) :
    Prop where
  step : other.step = deed.step
  fault : other.fault = deed.fault
  lines : deed.step.call ≠ .event (.power true) →
    Line.Redated stamp otherStamp deed.lines other.lines
  laser : deed.step.call = .event (.power true) →
    ∀ line ∈ deed.lines ++ other.lines, line.SwitchesLaser options

namespace Emitter

open Emission

variable {options : Options} {stamp otherStamp : String} {call : Call} {run : List Step}
  {emitter origin before after near far nearAfter farAfter : Emitter}

/-- The same emitter on another day. -/
def dated (emitter : Emitter) (stamp : String) : Emitter :=
  { emitter with writer := { emitter.writer with stamp } }

def afterSteps (emitter : Emitter) (run : List Step) : Emitter :=
  emitter.after (run.map (·.call))

/-- What the steps of a run do, one after the other. -/
def deeds (emitter : Emitter) : List Step → List Deed
  | [] => []
  | step :: rest =>
      ⟨step, fault? (obey step.call) emitter, emitter.added step.call⟩ ::
        (leaves (obey step.call) emitter).deeds rest

/-- Two runs leave the same but for what they wrote and how they switch the laser on. -/
structure SameMotion (first second : Emitter) : Prop where
  slots : second.slots = first.slots
  position : second.position = first.position
  precision : second.writer.precision = first.writer.precision
  nextNumber : second.writer.nextNumber = first.writer.nextNumber
  headerComments : second.writer.headerComments = first.writer.headerComments

section Asides

/-- Nothing was done but writing and choosing how the laser is switched on. Lines with numbers
would be counted. -/
structure Murmurs (before after : Emitter) : Prop extends Alike before after where
  position : after.position = before.position
  writer : before.writer.showLineNumbers = false →
    ∃ written, after.writer = { before.writer with written }

theorem murmurs_progress : Progress Murmurs where
  refl := fun emitter => ⟨.refl emitter, rfl, fun _ => ⟨emitter.writer.written, rfl⟩⟩
  trans := by
    refine fun start later => ⟨start.toAlike.trans later.toAlike,
      later.position.trans start.position, fun unnumbered => ?_⟩
    obtain ⟨written, first⟩ := start.writer unnumbered
    obtain ⟨more, second⟩ := later.writer (by rw [first]; exact unnumbered)
    exact ⟨more, by rw [second, first]⟩
  serves := fun murmurs => murmurs.toAlike.serves

theorem murmurs_command (tokens : List (Option String)) (note : Option String) :
    Keeps options Murmurs (command tokens note) := by
  refine Keeps.change fun emitter _ => ?_
  refine ⟨(writes_command emitter tokens note).toAlike, rfl, fun unnumbered => ?_⟩
  refine ⟨(emitter.writer.command tokens note).written, ?_⟩
  change emitter.writer.command tokens note = _
  unfold Writer.command
  split
  · simp [unnumbered]
  · rfl

theorem murmurs_remark (text : String) :
    Keeps options Murmurs (updateWriter (·.remark text)) := by
  refine Keeps.change fun emitter _ => ?_
  have remarked := emitter.writer.remark_eq text
  have same : (emitter.writer.remark text).precision = emitter.writer.precision := by rw [remarked]
  exact ⟨⟨rfl, .inl rfl, same⟩, rfl, fun _ => ⟨_, remarked⟩⟩

theorem murmurs_notify (notice : Notice) : Keeps options Murmurs (notify notice) :=
  Keeps.change fun emitter _ =>
    ⟨⟨rfl, .inl rfl, rfl⟩, rfl, fun _ => ⟨emitter.writer.written, rfl⟩⟩

theorem murmurs_status (text : String) : Keeps options Murmurs (status text) := by
  refine Keeps.code fun target => ?_
  cases target.code? .statusMessage with
  | none => exact murmurs_remark text
  | some message => exact murmurs_command _ none

theorem murmurs_selectMode (mode : Int) : Keeps options Murmurs (selectMode mode) := by
  unfold selectMode
  refine Keeps.chain murmurs_progress (Keeps.result murmurs_progress _) fun _ =>
    Keeps.optional murmurs_progress (fun _ => murmurs_notify _) fun _ => ?_
  exact Keeps.change fun emitter _ => ⟨⟨rfl, .inr (cuttingMode_mem emitter.options mode), rfl⟩,
    rfl, fun _ => ⟨emitter.writer.written, rfl⟩⟩

theorem murmurs_announce (facts : Section) : Keeps options Murmurs (announce facts) := by
  unfold announce
  refine Keeps.optional murmurs_progress (fun _ => murmurs_selectMode _) fun _ => ?_
  split
  · exact Keeps.nothing murmurs_progress ()
  · exact Keeps.nothing murmurs_progress ()
  · exact Keeps.code fun target =>
      Keeps.chain murmurs_progress (murmurs_command _ none) fun _ => murmurs_status _

theorem murmurs_dwell (seconds : Float) : Keeps options Murmurs (dwell seconds) := by
  have written (lasts : Float) : Keeps options Murmurs (do
      let name := (← Emitter.code .dwellParam).getD ""
      let text ← fromResult ((← get).writer.valueText false lasts)
      command [← Emitter.code .dwell, some (name ++ text)] (some "Dwell")) :=
    Keeps.code fun _ => Keeps.inspect fun _ _ => Keeps.given murmurs_progress fun _ _ =>
      Keeps.code fun _ => murmurs_command _ _
  unfold dwell
  dsimp only
  cases (clampDwell seconds).2 with
  | none => exact written _
  | some notice => exact Keeps.chain murmurs_progress (murmurs_notify notice) fun _ => written _

theorem murmurs_power (on : Bool) : Keeps options Murmurs (power on) :=
  Keeps.inspect fun _ _ =>
    Keeps.branch (fun _ => murmurs_command _ _) fun _ => murmurs_command _ _

theorem murmurs_aside (aside : call.isAside = true) : Keeps options Murmurs (obey call) := by
  cases call with
  | precision places => cases aside
  | event event =>
      cases event with
      | dwell seconds => exact murmurs_dwell seconds
      | power on => exact murmurs_power on
      | startSection facts =>
          have later : facts.isFirst = false := by
            simpa [Call.isAside, Event.isAside] using aside
          change Keeps options Murmurs (startSection facts)
          rw [startSection_later later]
          exact murmurs_announce facts
      | _ => cases aside

/-- Switching the laser on does not fail, however it is done. -/
theorem fault?_powerOn (emitter : Emitter) : fault? (obey (.event (.power true))) emitter = none :=
  rfl

theorem switchesLaser_powerOn (serves : Serves options emitter)
    (unnumbered : emitter.writer.showLineNumbers = false) :
    ∀ line ∈ emitter.added (.event (.power true)), line.SwitchesLaser options := by
  intro line member
  have written : emitter.added (.event (.power true)) = (emitter.writer.commandLine?
      [some emitter.mode.command] (some emitter.mode.remark)).toList :=
    added_of_writes (writes_command emitter _ _)
  rw [written, Option.mem_toList, Writer.commandLine?, unnumbered] at member
  obtain ⟨-, made⟩ := Option.ite_none_right_eq_some.mp member
  exact ⟨emitter.mode.command, serves.mode, _, (Option.some.inj made).symm⟩

end Asides

section Days

/-- The kinship of an emitter with itself on another day, however the laser is switched on. -/
def onOtherDay (origin : Emitter) (otherStamp : String) : Kinship :=
  { origin.unnoticed with otherStamp, sameMode := False }

theorem position_onOtherDay (kin : (origin.onOtherDay otherStamp).Kin near far) :
    far.position = near.position :=
  (Coordinates.eq_of_get kin.position).symm

/-- A call adds its lines to the text. -/
theorem written_obey (emitter : Emitter) (call : Call) :
    (leaves (obey call) emitter).writer.written.toList =
      emitter.writer.written.toList ++ emitter.added call := by
  have alongside := (inStep_obey call _ _ (kin_unnoticed emitter emitter.notices)).leaves.2
  obtain ⟨lines, -, written, -⟩ := alongside.written
  rw [added_of_written written, written]

theorem written_deeds (emitter : Emitter) (run : List Step) :
    (emitter.afterSteps run).writer.written.toList =
      emitter.writer.written.toList ++ (emitter.deeds run).flatMap (·.lines) := by
  induction run generalizing emitter with
  | nil => simp [afterSteps, after, deeds]
  | cons step rest ih =>
      have later := ih (leaves (obey step.call) emitter)
      rw [written_obey, List.append_assoc] at later
      exact later

theorem kin_murmurs (kin : (origin.onOtherDay otherStamp).Kin near far)
    (unnumbered : near.writer.showLineNumbers = false) (murmurs : Murmurs near nearAfter) :
    (origin.onOtherDay otherStamp).Kin nearAfter far := by
  obtain ⟨text, same⟩ := murmurs.writer unnumbered
  obtain ⟨written, apart⟩ := kin.writer
  refine ⟨murmurs.options.trans kin.options, kin.otherOptions, ?_, ⟨written, ?_⟩, False.elim, ?_⟩
  · rw [same]
    exact kin.stamp
  · rw [same, apart]
    rfl
  · rw [murmurs.position]
    exact kin.position

theorem murmurs_kin (kin : (origin.onOtherDay otherStamp).Kin near far)
    (unnumbered : near.writer.showLineNumbers = false) (murmurs : Murmurs far farAfter) :
    (origin.onOtherDay otherStamp).Kin near farAfter := by
  obtain ⟨written, apart⟩ := kin.writer
  obtain ⟨text, same⟩ := murmurs.writer (by rw [apart]; exact unnumbered)
  refine ⟨kin.options, murmurs.options.trans kin.otherOptions, kin.stamp, ⟨text, ?_⟩,
    False.elim, ?_⟩
  · rw [same, apart]
    rfl
  · rw [murmurs.position]
    exact kin.position

end Days

section Steps

/-- A step that stays does the same in both runs. -/
theorem matches_staying (kin : (origin.onOtherDay otherStamp).Kin near far)
    (serves : Serves origin.options near) (servesToo : Serves origin.options far)
    (unnumbered : near.writer.showLineNumbers = false) (step : Step) :
    Deed.Matches origin.options origin.writer.stamp otherStamp
        ⟨step, fault? (obey step.call) near, near.added step.call⟩
        ⟨step, fault? (obey step.call) far, far.added step.call⟩ ∧
      (origin.onOtherDay otherStamp).Kin (leaves (obey step.call) near)
        (leaves (obey step.call) far) := by
  by_cases lit : step.call = .event (.power true)
  · have murmurs : Keeps origin.options Murmurs (obey step.call) := by
      rw [lit]
      exact murmurs_power true
    have later := kin_murmurs kin unnumbered (murmurs near serves)
    have numbers := (standing_obey step.call near serves).writer.numbers
    have unnumberedToo : far.writer.showLineNumbers = false := by
      obtain ⟨written, apart⟩ := kin.writer
      rw [apart]
      exact unnumbered
    refine ⟨⟨rfl, ?_, fun unlit => absurd lit unlit, fun _ line member => ?_⟩,
      murmurs_kin later (numbers.trans unnumbered) (murmurs far servesToo)⟩
    · rw [lit, fault?_powerOn, fault?_powerOn]
    · rw [lit] at member
      rcases List.mem_append.mp member with first | second
      · exact switchesLaser_powerOn serves unnumbered line first
      · exact switchesLaser_powerOn servesToo unnumberedToo line second
  · obtain ⟨faults, alongside⟩ :=
      (Kinship.ends_unlit kin lit fun move _ => by rw [position_onOtherDay kin]).leaves
    obtain ⟨lines, others, written, writtenToo, redated⟩ := alongside.written
    refine ⟨⟨rfl, faults, fun _ => ?_, fun on => absurd on lit⟩, alongside.toKin⟩
    rw [added_of_written written, added_of_written writtenToo]
    exact redated

theorem deeds_match (kin : (origin.onOtherDay otherStamp).Kin near far)
    (serves : Serves origin.options near) (servesToo : Serves origin.options far)
    (unnumbered : near.writer.showLineNumbers = false)
    (asides : ∀ step ∈ run, step.stays = false → step.call.isAside = true) :
    List.Forall₂ (Deed.Matches origin.options origin.writer.stamp otherStamp)
        ((near.deeds run).filter (·.step.stays)) (far.deeds (run.filter (·.stays))) ∧
      (origin.onOtherDay otherStamp).Kin (near.afterSteps run)
        (far.afterSteps (run.filter (·.stays))) := by
  induction run generalizing near far with
  | nil => exact ⟨.nil, kin⟩
  | cons step rest ih =>
      have restAsides : ∀ other ∈ rest, other.stays = false → other.call.isAside = true :=
        fun other member => asides other (List.mem_cons_of_mem step member)
      have nearLater := serves_obey serves step.call
      have numbers : (leaves (obey step.call) near).writer.showLineNumbers = false :=
        (standing_obey step.call near serves).writer.numbers.trans unnumbered
      cases stays : step.stays with
      | true =>
          obtain ⟨same, kinLater⟩ := matches_staying kin serves servesToo unnumbered step
          obtain ⟨restSame, kinEnd⟩ :=
            ih kinLater nearLater (serves_obey servesToo step.call) numbers restAsides
          simp only [deeds, List.filter_cons, stays, if_true]
          exact ⟨.cons same restSame, kinEnd⟩
      | false =>
          have murmurs := murmurs_aside (asides step (by simp) stays) near serves
          obtain ⟨restSame, kinEnd⟩ :=
            ih (kin_murmurs kin unnumbered murmurs) nearLater servesToo numbers restAsides
          simp only [deeds, List.filter_cons, stays, Bool.false_eq_true, if_false]
          exact ⟨restSame, kinEnd⟩

theorem sameMotion_of_kin (kin : (origin.onOtherDay otherStamp).Kin near far) :
    SameMotion near far := by
  obtain ⟨written, apart⟩ := kin.writer
  exact ⟨kin.slots, position_onOtherDay kin, by rw [apart]; rfl, by rw [apart]; rfl,
    by rw [apart]; rfl⟩

/-- Whatever was emitted before, a run without some of its asides does what it does with them,
and the text lacks just what they wrote. -/
theorem asides_unmissed {start : Emitter} (created : create options stamp = .ok start)
    (unnumbered : options.showLineNumbers = false) (history : List Call) (otherStamp : String)
    (run : List Step) (asides : ∀ step ∈ run, step.stays = false → step.call.isAside = true) :
    let used := start.after history
    let other := used.dated otherStamp
    let stays := run.filter (·.stays)
    List.Forall₂ (Deed.Matches options stamp otherStamp)
        ((used.deeds run).filter (·.step.stays)) (other.deeds stays) ∧
      (used.afterSteps run).writer.written.toList =
        used.writer.written.toList ++ (used.deeds run).flatMap (·.lines) ∧
      (other.afterSteps stays).writer.written.toList =
        used.writer.written.toList ++ (other.deeds stays).flatMap (·.lines) ∧
      SameMotion (used.afterSteps run) (other.afterSteps stays) := by
  intro used other stays
  have fresh := create_isFresh created
  have serves : Serves options used := serves_after fresh.toServes history
  have standing := (standing_after fresh.toServes history).writer
  obtain ⟨-, target, -, rfl⟩ := create_ok.mp created
  have kin : (used.onOtherDay otherStamp).Kin used other :=
    ⟨rfl, rfl, rfl, ⟨used.writer.written, rfl⟩, False.elim, fun _ => rfl⟩
  have itself : Serves used.options used := by
    rw [serves.options]
    exact serves
  obtain ⟨same, ended⟩ := deeds_match kin itself ⟨rfl, itself.mode⟩
    (standing.numbers.trans unnumbered) asides
  have stamped : used.writer.stamp = stamp := standing.stamp
  rw [serves.options, stamped] at same
  exact ⟨same, written_deeds used run, written_deeds other stays, sameMotion_of_kin ended⟩

/-- Without a section, a dwell and the laser, the same cut has the same line. -/
theorem cut_unmissed :
    let run : List Step := [⟨.event (.startSection { comment := some "Tab" }), false⟩,
      ⟨.event (.linear ⟨some 1, none, none⟩ (some 100)), true⟩, ⟨.event (.dwell 1), false⟩,
      ⟨.event (.power true), false⟩, ⟨.event (.linear ⟨some 2, some 1, none⟩ (some 100)), true⟩]
    let used := (fresh {}).after [.event (.startRun none), .precision 1]
    create {} "" = .ok (fresh {}) ∧
      List.Forall₂ (Deed.Matches {} "" "") ((used.deeds run).filter (·.step.stays))
        ((used.dated "").deeds (run.filter (·.stays))) ∧
      (((used.dated "").deeds (run.filter (·.stays))).flatMap (·.lines)).map Line.text =
        ["G1 X1 F100\n", "G1 X2 Y1 F100\n"] := by
  intro run used
  have created : create {} "" = .ok (fresh {}) := create_fresh (by decide +kernel) rfl
  obtain ⟨same, -⟩ := asides_unmissed created rfl [.event (.startRun none), .precision 1] "" run
    (by simp [run, Call.isAside, Event.isAside])
  exact ⟨created, same, by decide +kernel⟩

end Steps

end Emitter

end GantryCode
