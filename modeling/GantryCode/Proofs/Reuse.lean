import GantryCode.Proofs.EventFaults
import GantryCode.Proofs.Kinship
import GantryCode.Proofs.LaserMode
import GantryCode.Proofs.Standing

namespace GantryCode

/-! A run on an emitter that was used before.

The head of a run empties the slots, and the first section with the laser chooses a mode.
Behind them a used emitter differs from a new one in nothing but the places that it knows:
what is not homed is still where the last run left it. The two write the same from there on,
up to the first arc that begins at a place which the new one does not know.
-/

namespace Emitter

open Emission Kinship

variable {used new near far : Emitter} {options : Options}

/-- What calls end with, one after the other. -/
def faults (emitter : Emitter) : List Call → List (Option Fault)
  | [] => []
  | call :: rest => fault? (obey call) emitter :: (leaves (obey call) emitter).faults rest

theorem after_append (emitter : Emitter) (front rest : List Call) :
    emitter.after (front ++ rest) = (emitter.after front).after rest :=
  List.foldl_append

theorem faults_append (emitter : Emitter) (front rest : List Call) :
    emitter.faults (front ++ rest) = emitter.faults front ++ (emitter.after front).faults rest := by
  induction front generalizing emitter with
  | nil => rfl
  | cons call front ih => exact congrArg (fault? (obey call) emitter :: ·) (ih _)

/-- The calls end with the same faults, and what they write is the same but for dates. -/
structure WritesAlike (used new : Emitter) (calls : List Call) : Prop where
  faults : new.faults calls = used.faults calls
  text : ∃ lines others,
    (used.after calls).writer.written.toList = used.writer.written.toList ++ lines ∧
    (new.after calls).writer.written.toList = new.writer.written.toList ++ others ∧
    Line.Redated used.writer.stamp new.writer.stamp lines others

/-- The calls also leave the same slots and the same mode. -/
structure RunsAlike (used new : Emitter) (calls : List Call) : Prop
    extends WritesAlike used new calls where
  slots : (new.after calls).slots = (used.after calls).slots
  mode : (new.after calls).mode = (used.after calls).mode

/-- An arc begins at a place that only the first of the two knows. -/
structure Refuses (used new : Emitter) (move : ArcMove) : Prop where
  unplaced : move.start = none
  refused : fault? (circular move) new = some .unknownPosition
  known : used.position.complete?.isSome

section Parting

/-- The kinship of two emitters of which the second knows no more places than the first. -/
def reuse (used new : Emitter) (sameMode : Prop) : Kinship where
  options := used.options
  stamp := used.writer.stamp
  otherStamp := new.writer.stamp
  place known other := other = none ∨ other = known
  same _ := .inr rfl
  sameMode := sameMode

variable {sameMode : Prop}

theorem complete?_reuse (kin : (reuse used new sameMode).Kin near far)
    {place : Coordinates Float} (known : far.position.complete? = some place) :
    near.position.complete? = some place := by
  have each (axis : Axis) : far.position.get axis = none ∨
    far.position.get axis = near.position.get axis := kin.position axis
  have x := each .x
  have y := each .y
  have z := each .z
  revert known x y z
  generalize near.position = held
  generalize far.position = other
  obtain ⟨nearX, nearY, nearZ⟩ := held
  obtain ⟨farX, farY, farZ⟩ := other
  cases farX <;> cases farY <;> cases farZ <;>
    simp +contextual [Coordinates.complete?, Coordinates.get, eq_comm]

/-- A call does the same to both, or it is an arc whose beginning only one of them knows. -/
theorem ends_or_refuses (chosen : sameMode) (kin : (reuse used new sameMode).Kin near far)
    (call : Call) :
    Ends Eq ((reuse used new sameMode).Alongside near far) (obey call near) (obey call far) ∨
      ∃ move, call = .event (.circular move) ∧ Refuses near far move := by
  by_cases begun : BeginAlike near far call
  · exact .inl (ends_obey chosen kin begun)
  simp only [BeginAlike, not_forall] at begun
  obtain ⟨move, rfl, differ⟩ := begun
  by_cases axisless : move.plane = none ∧ move.axis = none
  · refine .inl ?_
    have run (emitter : Emitter) : obey (.event (.circular move)) emitter =
        .error .missingAxis emitter := by
      change circular move emitter = _
      rw [circular, axisless.1, axisless.2]
      rfl
    rw [run, run]
    exact .error _ kin.alongside
  · refine .inr ⟨move, rfl, ?_⟩
    cases given : move.start with
    | some start => simp [given] at differ
    | none =>
        rw [given] at differ
        change ¬far.position.complete? = near.position.complete? at differ
        cases unknown : far.position.complete? with
        | some place => exact absurd (unknown.trans (complete?_reuse kin unknown).symm) differ
        | none =>
            refine ⟨given, (Degenerate.unknownStart (not_and.mp axisless) ?_).fails, ?_⟩
            · rw [given, unknown]
              rfl
            · rw [unknown] at differ
              exact Option.isSome_iff_ne_none.mpr (Ne.symm differ)

/-- Calls do the same to both, all of them or those in front of such an arc. -/
theorem alongside_or_refuses (chosen : sameMode) (kin : (reuse used new sameMode).Kin near far)
    (calls : List Call) :
    (far.faults calls = near.faults calls ∧
      (reuse used new sameMode).Alongside near far (near.after calls) (far.after calls)) ∨
    ∃ front move behind, calls = front ++ .event (.circular move) :: behind ∧
      (far.faults front = near.faults front ∧
        (reuse used new sameMode).Alongside near far (near.after front) (far.after front)) ∧
      Refuses (near.after front) (far.after front) move := by
  induction calls generalizing near far with
  | nil => exact .inl ⟨rfl, kin.alongside⟩
  | cons call rest ih =>
      rcases ends_or_refuses chosen kin call with ends | ⟨move, rfl, refuses⟩
      · obtain ⟨same, alongside⟩ := ends.leaves
        rcases ih alongside.toKin with ⟨faults, later⟩ |
          ⟨front, move, behind, rfl, ⟨faults, later⟩, refuses⟩
        · exact .inl ⟨congrArg₂ List.cons same faults, alongside.trans later⟩
        · exact .inr ⟨call :: front, move, behind, rfl,
            ⟨congrArg₂ List.cons same faults, alongside.trans later⟩, refuses⟩
      · exact .inr ⟨[], move, rest, rfl, ⟨rfl, kin.alongside⟩, refuses⟩

end Parting

section Opening

/-- Two emitters that are set up alike, the second of which knows nothing of the controller. -/
structure SetUpAlike (used new : Emitter) : Prop where
  options : new.options = used.options
  writer : new.writer = { used.writer.apart new.writer.stamp new.writer.headerComments
    new.writer.written with slots := new.writer.slots }
  singleUsed : used.slots.stretches = []
  singleNew : new.slots.stretches = []
  unknown : ∀ axis, new.position.get axis = none

theorem setUpAlike_after {stamp otherStamp : String} {start other : Emitter}
    (created : create options stamp = .ok start)
    (createdToo : create options otherStamp = .ok other)
    (unnumbered : options.showLineNumbers = false) (history : List Call) :
    let used := start.after history
    SetUpAlike used (other.after [.precision used.writer.precision]) := by
  intro used
  obtain ⟨-, target, named, rfl⟩ := create_ok.mp created
  obtain ⟨-, again, namedToo, rfl⟩ := create_ok.mp createdToo
  cases named.symm.trans namedToo
  have serves := (create_isFresh created).toServes
  have standing := standing_after serves history
  have comments : used.writer.showComments = options.showComments := standing.writer.comments
  have numbers : used.writer.showLineNumbers = options.showLineNumbers := standing.writer.numbers
  have next : used.writer.nextNumber = 1 := standing.writer.next unnumbered
  have same : used.writer.target = target := standing.writer.target
  refine ⟨(serves_after serves history).options.symm, ?_, standing.writer.stretches rfl, rfl,
    fun axis => by cases axis <;> rfl⟩
  dsimp only [Writer.apart]
  rw [comments, numbers, next, same]
  rfl

variable (alike : SetUpAlike used new)

include alike

/-- Behind the head of a run the slots are empty in either of them. -/
theorem SetUpAlike.kin_headed (texts : List String) (comment : Option String) :
    (reuse used new False).Kin (used.headed texts comment) (new.headed texts comment) where
  options := rfl
  otherOptions := alike.options
  stamp := rfl
  writer := by
    have emptied : used.writer.slots.cleared = new.writer.slots.cleared := by
      have single : used.writer.slots.stretches = [] := alike.singleUsed
      have singleToo : new.writer.slots.stretches = [] := alike.singleNew
      rw [Slots.cleared, Slots.cleared, single, singleToo]
    refine ⟨(new.headed texts comment).writer.written, ?_⟩
    simp only [headed, Writer.apart, emptied]
    rw [alike.writer]
    rfl
  mode := False.elim
  position := fun axis => .inl (alike.unknown axis)

theorem SetUpAlike.startRun (comment : Option String) :
    WritesAlike used new [.event (.startRun comment)] ∧
      (used.faults [.event (.startRun comment)] = [none] →
        (reuse used new False).Kin (used.after [.event (.startRun comment)])
          (new.after [.event (.startRun comment)])) := by
  have shown : new.writer.pointText = used.writer.pointText := by
    rw [alike.writer]
    rfl
  have remarks : new.writer.remarkLines firstTexts = used.writer.remarkLines firstTexts := by
    rw [alike.writer]
    rfl
  have alone (emitter : Emitter) : emitter.after [.event (.startRun comment)] =
      leaves (Emitter.startRun comment) emitter := rfl
  have only (emitter : Emitter) : emitter.faults [.event (.startRun comment)] =
      [fault? (Emitter.startRun comment) emitter] := rfl
  obtain ⟨texts, ⟨fault, failed, failedToo⟩ | ⟨ended, endedToo⟩⟩ :=
    startRun_alike alike.options shown comment
  · have left := leaves_of_error failed
    have leftToo := leaves_of_error failedToo
    refine ⟨⟨?_, used.writer.remarkLines firstTexts, used.writer.remarkLines firstTexts, ?_, ?_,
      .refl _⟩, fun well => ?_⟩
    · rw [only, only, fault?_of_error failed, fault?_of_error failedToo]
    · rw [alone, left]
      simp [Emitter.begun, withHeader]
    · rw [alone, leftToo, ← remarks]
      simp [Emitter.begun, withHeader]
    · rw [only, fault?_of_error failed] at well
      cases well
  · have left := leaves_of_ok ended
    have leftToo := leaves_of_ok endedToo
    refine ⟨⟨?_, used.headLines texts comment, new.headLines texts comment, ?_, ?_, ?_⟩,
      fun _ => ?_⟩
    · rw [only, only, fault?, fault?, ended, endedToo]
    · rw [alone, left]
      simp [headed]
    · rw [alone, leftToo]
      simp [headed]
    · exact headLines_redated (by rw [alike.writer]; rfl) (by rw [alike.writer]; rfl)
        (by rw [alike.writer]; rfl) texts comment
    · rw [alone, alone, left, leftToo]
      exact alike.kin_headed texts comment

end Opening

section Runs

variable {sameMode : Prop} {front rest : List Call}

theorem WritesAlike.further (start : WritesAlike used new front)
    (faults : (new.after front).faults rest = (used.after front).faults rest)
    (alongside : (reuse used new sameMode).Alongside (used.after front) (new.after front)
      ((used.after front).after rest) ((new.after front).after rest)) :
    WritesAlike used new (front ++ rest) := by
  obtain ⟨lines, others, written, writtenToo, same⟩ := start.text
  obtain ⟨more, moreOthers, added, addedToo, sameMore⟩ := alongside.written
  refine ⟨?_, lines ++ more, others ++ moreOthers, ?_, ?_, same.append sameMore⟩
  · rw [faults_append, faults_append, start.faults, faults]
  · rw [after_append, added, written, List.append_assoc]
  · rw [after_append, addedToo, writtenToo, List.append_assoc]

theorem RunsAlike.further (chosen : sameMode) (start : WritesAlike used new front)
    (faults : (new.after front).faults rest = (used.after front).faults rest)
    (alongside : (reuse used new sameMode).Alongside (used.after front) (new.after front)
      ((used.after front).after rest) ((new.after front).after rest)) :
    RunsAlike used new (front ++ rest) where
  toWritesAlike := start.further faults alongside
  slots := by
    rw [after_append, after_append]
    exact alongside.slots
  mode := by
    rw [after_append, after_append]
    exact alongside.mode chosen

/-- The first section of a run on a used emitter, behind the head of the run. -/
theorem writesAlike_opening (alike : SetUpAlike used new) {comment : Option String}
    (facts : Section) (begun : used.faults [.event (.startRun comment)] = [none]) :
    let opening := [.event (.startRun comment), .event (.startSection facts)]
    WritesAlike used new opening ∧
      (reuse used new False).Kin (used.after opening) (new.after opening) := by
  obtain ⟨headAlike, headed⟩ := alike.startRun comment
  obtain ⟨faults, alongside⟩ := (inStep_startSection facts _ _ (headed begun)).leaves
  have single : (new.after [.event (.startRun comment)]).faults [.event (.startSection facts)] =
      (used.after [.event (.startRun comment)]).faults [.event (.startSection facts)] :=
    congrArg ([·]) faults
  exact ⟨headAlike.further single alongside, alongside.toKin⟩

/-- A section with the laser makes no difference between the modes that were chosen before. -/
theorem mode_chosen (serves : Serves options near) {facts : Section} (jet : facts.isJet = true)
    (well : fault? (startSection facts) near = none) :
    (leaves (startSection facts) near).mode = cuttingMode options facts.jetMode := by
  have ended : endsWell (startSection facts) near = true := by
    unfold fault? at well
    unfold endsWell
    cases run : startSection facts near with
    | ok done after => rfl
    | error fault after => simp [run] at well
  rw [mode_startSection serves facts, jet, ended]
  rfl

/-- Whatever was emitted before, a run writes and leaves what it does on a new emitter, up
to the first arc that begins at a place which the new emitter does not know. -/
theorem run_behind_history {stamp otherStamp : String} {start other : Emitter}
    (created : create options stamp = .ok start)
    (createdToo : create options otherStamp = .ok other)
    (unnumbered : options.showLineNumbers = false) (history : List Call)
    (comment : Option String) {facts : Section} (jet : facts.isJet = true) :
    let used := start.after history
    let new := other.after [.precision used.writer.precision]
    let head : List Call := [.event (.startRun comment)]
    let opening : List Call := head ++ [.event (.startSection facts)]
    WritesAlike used new head ∧ (used.faults head = [none] → WritesAlike used new opening) ∧
      (used.faults opening = [none, none] → ∀ rest, RunsAlike used new (opening ++ rest) ∨
        ∃ front move behind, rest = front ++ .event (.circular move) :: behind ∧
          RunsAlike used new (opening ++ front) ∧
          Refuses (used.after (opening ++ front)) (new.after (opening ++ front)) move) := by
  intro used new head opening
  have alike := setUpAlike_after created createdToo unnumbered history
  refine ⟨(alike.startRun comment).1, fun begun => (writesAlike_opening alike facts begun).1,
    fun opened rest => ?_⟩
  have begun : used.faults head = [none] := congrArg (List.take 1) opened
  obtain ⟨written, kin⟩ := writesAlike_opening alike facts begun
  have mode {emitter : Emitter} (serves : Serves options emitter)
      (opened : emitter.faults opening = [none, none]) :
      (emitter.after opening).mode = cuttingMode options facts.jetMode :=
    mode_chosen (serves_after serves head) jet (List.cons.inj (List.cons.inj opened).2).1
  have modes : (new.after opening).mode = (used.after opening).mode := by
    have usedServes := serves_after (create_isFresh created).toServes history
    have newServes := serves_after (create_isFresh createdToo).toServes
      [.precision used.writer.precision]
    rw [mode usedServes opened, mode newServes (written.faults.trans opened)]
  have known : (reuse used new True).Kin (used.after opening) (new.after opening) :=
    { kin with mode := fun _ => modes }
  rcases alongside_or_refuses trivial known rest with ⟨faults, alongside⟩ |
    ⟨front, move, behind, split, ⟨faults, alongside⟩, refuses⟩
  · exact .inl (.further trivial written faults alongside)
  · refine .inr ⟨front, move, behind, split, .further trivial written faults alongside, ?_⟩
    rw [after_append, after_append]
    exact refuses

/-- Behind moves at another precision and a mode of its own, a run begins anew. -/
theorem run_behind_run :
    let options : Options := { homeXStart := false }
    let history : List Call := [.event (.rapid ⟨some 3, some 2, some 1⟩), .precision 1,
      .event (.startSection { isJet := true, jetMode := 2 })]
    let used := (fresh options).after history
    let new := (fresh options).after [.precision used.writer.precision]
    let run : List Call := [.event (.startRun none),
      .event (.startSection { isFirst := true, isJet := true, jetMode := 1 }), .event (.power true),
      .event (.linear ⟨some 3, none, none⟩ (some 100))]
    create options "" = .ok (fresh options) ∧ RunsAlike used new run := by
  intro options history used new run
  have created : create options "" = .ok (fresh options) := create_fresh (by decide +kernel) rfl
  let facts : Section := { isFirst := true, isJet := true, jetMode := 1 }
  have jet : facts.isJet = true := rfl
  obtain ⟨-, -, alike⟩ := run_behind_history created created rfl history none jet
  have opened : used.faults (run.take 2) = [none, none] := by decide +kernel
  refine ⟨created, ?_⟩
  rcases alike opened (run.drop 2) with whole | ⟨front, move, behind, split, -⟩
  · exact whole
  · have arc : Call.event (.circular move) ∈ run.drop 2 := by rw [split]; simp
    simp [run] at arc

/-- The height that a run left is the height at which an arc of the next run begins; a new
emitter refuses that arc. And a run whose head fails leaves the slots as they were, and one
whose startup fails the mode. -/
theorem arc_behind_history :
    let start := fresh {}
    let lifted : Call := .event (.rapid ⟨none, none, some 1⟩)
    let opening : List Call := [.event (.startRun none),
      .event (.startSection { isFirst := true, isJet := true })]
    let arc : ArcMove :=
      { clockwise := false, center := ⟨0, 0, 0⟩, finish := ⟨0, 1, 0⟩, feed := some 100 }
    let run := opening ++ [.event (.rapid ⟨some 1, some 0, none⟩), .event (.circular arc)]
    let used := start.after [lifted]
    let new := start.after [.precision used.writer.precision]
    let usedCoarse := start.after [lifted, .precision (-1)]
    let newCoarse := start.after [.precision usedCoarse.writer.precision]
    let heavy : Options := { startZ := some (.whole (10 ^ 309)) }
    let etching : Call := .event (.startSection { isJet := true, jetMode := 1 })
    let usedHeavy := (fresh heavy).after [etching]
    let newHeavy := (fresh heavy).after [.precision usedHeavy.writer.precision]
    create {} "" = .ok start ∧ start.options.showLineNumbers = false ∧
      used.faults run = [none, none, none, none] ∧
      new.faults run = [none, none, none, some .unknownPosition] ∧ ¬RunsAlike used new run ∧
      usedCoarse.faults opening = [some .negativePrecision, none] ∧
      newCoarse.faults opening = [some .negativePrecision, none] ∧
      (usedCoarse.after opening).slots.z = some "1" ∧ (newCoarse.after opening).slots.z = none ∧
      ¬RunsAlike usedCoarse newCoarse opening ∧
      create heavy "" = .ok (fresh heavy) ∧
      usedHeavy.faults opening = [none, some .integerTooLarge] ∧
      newHeavy.faults opening = [none, some .integerTooLarge] ∧
      (usedHeavy.after opening).mode.command = "M3 S25" ∧
      (newHeavy.after opening).mode.command = "M5" ∧ ¬RunsAlike usedHeavy newHeavy opening := by
  intro start lifted opening arc run used new usedCoarse newCoarse heavy etching usedHeavy newHeavy
  have accepted : used.faults run = [none, none, none, none] := by decide +kernel
  have refused : new.faults run = [none, none, none, some .unknownPosition] := by decide +kernel
  have held : (usedCoarse.after opening).slots.z = some "1" := by decide +kernel
  have emptied : (newCoarse.after opening).slots.z = none := by decide +kernel
  have etched : (usedHeavy.after opening).mode.command = "M3 S25" := by decide +kernel
  have unchosen : (newHeavy.after opening).mode.command = "M5" := by decide +kernel
  refine ⟨create_fresh (by decide +kernel) rfl, rfl, accepted, refused, fun alike => ?_,
    by decide +kernel, by decide +kernel, held, emptied, fun alike => ?_,
    create_fresh (by decide +kernel) rfl, by decide +kernel, by decide +kernel, etched, unchosen,
    fun alike => ?_⟩
  · have same := alike.faults
    rw [accepted, refused] at same
    simp at same
  · have same := congrArg Slots.z alike.slots
    rw [held, emptied] at same
    cases same
  · have same := congrArg CuttingMode.command alike.mode
    rw [etched, unchosen] at same
    simp at same

end Runs

end Emitter

end GantryCode
