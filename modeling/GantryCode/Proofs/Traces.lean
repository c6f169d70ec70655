import GantryCode.Proofs.Omission
import GantryCode.Proofs.Reuse

namespace GantryCode

/-! What a call that fails leaves behind.

Places and planes are recorded before it turns out whether their words can be written, and
the startup, the end of a run and the head of a run write line by line. So a call that fails
has left something behind, unless there was nothing new to Where numbers can be
written, no call fails on the way, and none leaves anything, but for a first section with a mode
that cannot be told.
-/

namespace Emitter

open Emission

variable {options : Options} {emitter before after near far : Emitter} {call : Call} {fault : Fault}

/-- All that a caller can see of an emitter is as it was, the notices aside. -/
structure Untouched (before after : Emitter) : Prop where
  written : after.writer.written = before.writer.written
  nextNumber : after.writer.nextNumber = before.writer.nextNumber
  slots : after.slots = before.slots
  position : after.position = before.position
  mode : after.mode = before.mode
  headerComments : after.writer.headerComments = before.writer.headerComments

/-- Nothing else was done than noticing. -/
def Noticed (before after : Emitter) : Prop :=
  ∃ notices, after = { before with notices }

theorem Noticed.untouched (noticed : before.Noticed after) : before.Untouched after := by
  obtain ⟨notices, rfl⟩ := noticed
  exact ⟨rfl, rfl, rfl, rfl, rfl, rfl⟩

/-- The tool is known to be where it is to go. -/
def IsAt (emitter : Emitter) (target : Coordinates (Option Float)) : Prop :=
  moved emitter.position target = emitter.position

/-- What the head of a run has collected when it cannot go on. -/
def halfHead (emitter : Emitter) : List String :=
  match emitter.writer.pointText emitter.options.sizeWords with
  | .ok size => ["Bed size: " ++ size]
  | .error _ => []

/-- Why an arc leaves nothing behind if it fails. -/
inductive SparesArc (emitter : Emitter) (move : ArcMove) : Prop where
  | axisless (noPlane : move.plane = none) (noAxis : move.axis = none)
  | unplaced (unknown : (move.start <|> emitter.position.complete?) = none)
  | figureless {start axis : Coordinates Float} {fault : Fault} (noPlane : move.plane = none)
      (turned : move.axis = some axis)
      (begun : (move.start <|> emitter.position.complete?) = some start)
      (failed : chordPoints emitter.options move start axis = .error fault)
  | chord {start axis point : Coordinates Float} {rest : List (Coordinates Float)}
      (noPlane : move.plane = none) (turned : move.axis = some axis)
      (begun : (move.start <|> emitter.position.complete?) = some start)
      (drawn : chordPoints emitter.options move start axis = .ok (point :: rest))
      (there : emitter.IsAt (point.map some))
  | unshifted {plane : Plane} {start : Coordinates Float} {fault : Fault}
      (inPlane : move.plane = some plane)
      (begun : (move.start <|> emitter.position.complete?) = some start)
      (failed : emitter.arcFigures move start = .error fault)
      (there : emitter.IsAt (move.finish.map some))
  | planar {plane : Plane} (inPlane : move.plane = some plane)
      (selected : emitter.slots.plane = some plane.code)
      (there : emitter.IsAt (move.finish.map some))

/-- Why a call leaves nothing behind if it fails. -/
inductive Spares (emitter : Emitter) : Call → Prop where
  | dwell (seconds : Float) : Spares emitter (.event (.dwell seconds))
  | head {comment : Option String} (hidden : emitter.writer.showComments = false)
      (held : emitter.writer.headerComments = emitter.halfHead.map .text) :
      Spares emitter (.event (.startRun comment))
  | laterSection {facts : Section} (later : facts.isFirst = false) :
      Spares emitter (.event (.startSection facts))
  | rapid {target : Coordinates (Option Float)} {fault : Fault}
      (unwritten : emitter.targetTexts target = .error fault) (there : emitter.IsAt target) :
      Spares emitter (.event (.rapid target))
  | linear {target : Coordinates (Option Float)} {feed : Option Float}
      (there : emitter.IsAt target) : Spares emitter (.event (.linear target feed))
  | circular {move : ArcMove} (arc : emitter.SparesArc move) :
      Spares emitter (.event (.circular move))

/-- A failed call is one that spares the emitter and has only been noticed, or neither. -/
def Settled (emitter after : Emitter) (call : Call) : Prop :=
  emitter.Spares call ∧ emitter.Noticed after ∨ ¬emitter.Spares call ∧ ¬emitter.Untouched after

section Moves

theorem untouched_sentTo {target : Coordinates (Option Float)} :
    emitter.Untouched (emitter.sentTo target) ↔ emitter.IsAt target :=
  ⟨fun untouched => untouched.position, fun there => ⟨rfl, rfl, rfl, there, rfl, rfl⟩⟩

theorem IsAt.noticed {target : Coordinates (Option Float)} (there : emitter.IsAt target) :
    emitter.Noticed (emitter.sentTo target) :=
  ⟨emitter.notices, by rw [sentTo, there]⟩

/-- Where all that a call did is to record where the tool goes, it matters whether it is
there. -/
theorem settled_sentTo {target : Coordinates (Option Float)}
    (spares : emitter.Spares call ↔ emitter.IsAt target) :
    emitter.Settled (emitter.sentTo target) call := by
  by_cases there : emitter.IsAt target
  · exact .inl ⟨spares.mpr there, there.noticed⟩
  · exact .inr ⟨fun spared => there (spares.mp spared), fun untouched =>
      there (untouched_sentTo.mp untouched)⟩

theorem rapidLine_failed {words : List (Option String)} {feed : Quantity} {note : Option String}
    (failed : rapidLine words feed note emitter = .error fault after) : after = emitter := by
  have run := (rapidLine_run words feed note emitter).symm.trans failed
  split at run
  · cases run
  · cases run
    rfl

/-- The line of a rapid move fills no slot but that of the feed rate. -/
theorem rapidLine_get {words : List (Option String)} {feed : Quantity} {note : Option String}
    (ended : rapidLine words feed note emitter = .ok () after) (axis : Axis) :
    after.slots.get axis.letter = emitter.slots.get axis.letter := by
  have run := (rapidLine_run words feed note emitter).symm.trans ended
  split at run
  · cases run
    next rate _ =>
      have different : axis.letter ≠ .f := by cases axis <;> decide
      rw [slots_commanded]
      exact Slots.get_accept_of_ne emitter.slots .f (some (feedText rate)) different
  · cases run

theorem rapidLines_failed {x y z : Option String}
    (failed : rapidLines options x y z emitter = .error fault after) :
    (x.isSome ∨ y.isSome ∨ z.isSome) ∧
      ∀ axis : Axis, after.slots.get axis.letter = emitter.slots.get axis.letter := by
  rw [rapidLines_eq] at failed
  by_cases level : (x.isSome || y.isSome) = true
  · have some : x.isSome ∨ y.isSome ∨ z.isSome := by
      rcases Bool.or_eq_true_iff.mp level with moves | moves
      · exact .inl moves
      · exact .inr (.inl moves)
    rw [if_pos level] at failed
    cases first : rapidLine [x, y] options.rapidFeedXY none emitter with
    | error other middle =>
        cases failed.symm.trans (bind_of_error first)
        exact ⟨some, fun axis => by rw [rapidLine_failed first]⟩
    | ok done middle =>
        have later := (bind_of_ok first).symm.trans failed
        split at later
        · rw [rapidLine_failed later]
          exact ⟨some, rapidLine_get first⟩
        · cases later
  · rw [if_neg level, pure_bind] at failed
    split at failed
    · next raised =>
        rw [rapidLine_failed failed]
        exact ⟨.inr (.inr raised), fun _ => rfl⟩
    · cases failed

/-- A rapid move that fails behind its words has filled the slot of one of them anew. -/
theorem rapid_failed {target : Coordinates (Option Float)} {texts : Coordinates (Option String)}
    (shown : emitter.targetTexts target = .ok texts)
    (failed : rapid target emitter = .error fault after) : after.slots ≠ emitter.slots := by
  have run := (rapid_run target emitter).symm.trans failed
  rw [shown] at run
  obtain ⟨moves, kept⟩ := rapidLines_failed run
  obtain ⟨axis, offered⟩ : ∃ axis, (emitter.slots.offerAxis texts axis).isSome := by
    rcases moves with x | y | z
    · exact ⟨.x, x⟩
    · exact ⟨.y, y⟩
    · exact ⟨.z, z⟩
  have filled : after.slots.get axis.letter =
      (texts.get axis <|> emitter.slots.get axis.letter) := by
    rw [kept axis]
    change (emitter.slots.acceptAxes texts Axis.all).get axis.letter = _
    rw [Slots.get_acceptAxes, if_pos (by cases axis <;> decide)]
  cases given : texts.get axis with
  | none => simp [Slots.offerAxis, Slots.offer, given] at offered
  | some text =>
      rw [given] at filled
      intro same
      rw [same] at filled
      exact (offerAxis_isSome emitter.slots given).mp offered filled

theorem settled_rapid {target : Coordinates (Option Float)}
    (failed : rapid target emitter = .error fault after) :
    emitter.Settled after (.event (.rapid target)) := by
  cases shown : emitter.targetTexts target with
  | error other =>
      have run := rapid_run target emitter
      rw [shown] at run
      cases failed.symm.trans run
      refine settled_sentTo ⟨fun spares => ?_, .rapid shown⟩
      cases spares with
      | rapid _ there => exact there
  | ok texts =>
      refine .inr ⟨fun spares => ?_, fun untouched => rapid_failed shown failed untouched.slots⟩
      cases spares with
      | rapid unwritten _ => cases shown.symm.trans unwritten

theorem settled_linear {target : Coordinates (Option Float)} {feed : Option Float}
    (failed : linear target feed emitter = .error fault after) :
    emitter.Settled after (.event (.linear target feed)) := by
  rcases linear_outcome target feed emitter with ⟨_, -, refused⟩ | ⟨_, _, _, ended, -⟩
  · cases failed.symm.trans refused
    refine settled_sentTo ⟨fun spares => ?_, .linear⟩
    cases spares with
    | linear there => exact there
  · cases failed.symm.trans ended

end Moves

section Arcs

variable {move : ArcMove}

/-- The reasons for which an arc in a principal plane leaves nothing behind. -/
theorem sparesArc_planar {plane : Plane} {start : Coordinates Float}
    (inPlane : move.plane = some plane)
    (begun : (move.start <|> emitter.position.complete?) = some start) :
    emitter.SparesArc move ↔ emitter.IsAt (move.finish.map some) ∧
      ((∃ fault, emitter.arcFigures move start = .error fault) ∨
        emitter.slots.plane = some plane.code) := by
  refine ⟨fun spares => ?_, fun ⟨there, possible⟩ => ?_⟩
  · cases spares with
    | axisless noPlane _ => cases inPlane.symm.trans noPlane
    | unplaced unknown => cases begun.symm.trans unknown
    | figureless noPlane => cases inPlane.symm.trans noPlane
    | chord noPlane => cases inPlane.symm.trans noPlane
    | unshifted _ begunToo failed there =>
        cases begun.symm.trans begunToo
        exact ⟨there, .inl ⟨_, failed⟩⟩
    | planar inPlaneToo selected there =>
        cases inPlane.symm.trans inPlaneToo
        exact ⟨there, .inr selected⟩
  · rcases possible with ⟨_, failed⟩ | selected
    · exact .unshifted inPlane begun failed there
    · exact .planar inPlane selected there

theorem settled_planarArc {plane : Plane} {start : Coordinates Float}
    (inPlane : move.plane = some plane)
    (begun : (move.start <|> emitter.position.complete?) = some start)
    (failed : planarArc move start plane emitter = .error fault after) :
    emitter.Settled after (.event (.circular move)) := by
  have spares : emitter.Spares (.event (.circular move)) ↔ emitter.SparesArc move :=
    ⟨fun spared => by cases spared with | circular arc => exact arc, .circular⟩
  rw [sparesArc_planar inPlane begun] at spares
  rcases planarArc_outcome move start plane emitter with
    ⟨_, unshifted, refused⟩ | ⟨_, _, shifted, -, refused⟩ | ⟨_, _, _, _, -, -, -, ended, -⟩
  · cases failed.symm.trans refused
    refine settled_sentTo (spares.trans ⟨And.left, fun there => ⟨there, .inl ⟨_, unshifted⟩⟩⟩)
  · cases failed.symm.trans refused
    rw [shifted] at spares
    by_cases spared : emitter.Spares (.event (.circular move))
    · obtain ⟨there, possible⟩ := spares.mp spared
      have selected : emitter.slots.plane = some plane.code := by simpa using possible
      refine .inl ⟨spared, emitter.notices, ?_⟩
      rw [sentTo, there, Slots.inPlane, ← selected]
      rfl
    · refine .inr ⟨spared, fun untouched => spared (spares.mpr ⟨untouched.position, .inr ?_⟩)⟩
      have filled := congrArg Slots.plane untouched.slots
      exact filled.symm
  · cases failed.symm.trans ended

/-- The reasons for which an arc in no principal plane leaves nothing behind. -/
theorem sparesArc_chorded {start axis : Coordinates Float} (noPlane : move.plane = none)
    (turned : move.axis = some axis)
    (begun : (move.start <|> emitter.position.complete?) = some start) :
    emitter.SparesArc move ↔
      (∃ fault, chordPoints emitter.options move start axis = .error fault) ∨
        ∃ point rest, chordPoints emitter.options move start axis = .ok (point :: rest) ∧
          emitter.IsAt (point.map some) := by
  refine ⟨fun spares => ?_, fun possible => ?_⟩
  · cases spares with
    | axisless _ noAxis => cases turned.symm.trans noAxis
    | unplaced unknown => cases begun.symm.trans unknown
    | figureless _ turnedToo begunToo failed =>
        cases turned.symm.trans turnedToo
        cases begun.symm.trans begunToo
        exact .inl ⟨_, failed⟩
    | chord _ turnedToo begunToo drawn there =>
        cases turned.symm.trans turnedToo
        cases begun.symm.trans begunToo
        exact .inr ⟨_, _, drawn, there⟩
    | unshifted inPlane => cases noPlane.symm.trans inPlane
    | planar inPlane => cases noPlane.symm.trans inPlane
  · rcases possible with ⟨_, failed⟩ | ⟨_, _, drawn, there⟩
    · exact .figureless noPlane turned begun failed
    · exact .chord noPlane turned begun drawn there

theorem settled_chordedArc {start axis : Coordinates Float} (serves : Serves options emitter)
    (noPlane : move.plane = none) (turned : move.axis = some axis)
    (begun : (move.start <|> emitter.position.complete?) = some start)
    (failed : circular move emitter = .error fault after) :
    emitter.Settled after (.event (.circular move)) := by
  have spares : emitter.Spares (.event (.circular move)) ↔ emitter.SparesArc move :=
    ⟨fun spared => by cases spared with | circular arc => exact arc, .circular⟩
  rw [sparesArc_chorded noPlane turned begun] at spares
  obtain ⟨notices, run⟩ := circular_chords noPlane turned begun
  cases drawn : chordPoints emitter.options move start axis with
  | error other =>
      rw [drawn] at run
      cases failed.symm.trans run
      exact .inl ⟨spares.mpr (.inl ⟨_, drawn⟩), notices, rfl⟩
  | ok points =>
      rw [drawn] at run
      have cut : linearThrough move.feed points { emitter with notices } = .error fault after :=
        run.symm.trans failed
      have noticed : Serves options { emitter with notices } := ⟨serves.options, serves.mode⟩
      obtain ⟨point, rest, rfl, rfl⟩ := cuts_failed noticed cut
      rw [drawn] at spares
      by_cases there : emitter.IsAt (point.map some)
      · refine .inl ⟨spares.mpr (.inr ⟨point, rest, rfl, there⟩), notices, ?_⟩
        change { emitter with notices, position := moved emitter.position (point.map some) } = _
        rw [there]
      · refine .inr ⟨fun spared => there ?_, fun untouched => there untouched.position⟩
        simpa using spares.mp spared

theorem settled_circular (serves : Serves options emitter)
    (failed : circular move emitter = .error fault after) :
    emitter.Settled after (.event (.circular move)) := by
  have unmoved (spares : emitter.SparesArc move) (same : after = emitter) :
      emitter.Settled after (.event (.circular move)) :=
    .inl ⟨.circular spares, emitter.notices, same⟩
  cases begun : (move.start <|> emitter.position.complete?) with
  | none =>
      obtain ⟨_, refused⟩ := circular_unplaced begun
      cases failed.symm.trans refused
      exact unmoved (.unplaced begun) rfl
  | some start =>
      cases inside : move.plane with
      | some plane =>
          have run := (circular_planar inside emitter).symm.trans failed
          rw [begun] at run
          exact settled_planarArc inside begun run
      | none =>
          cases given : move.axis with
          | some axis => exact settled_chordedArc serves inside given begun failed
          | none =>
              cases failed.symm.trans (circular_axisless inside given)
              exact unmoved (.axisless inside given) rfl

end Arcs

section Phases

theorem settled_startRun {comment : Option String}
    (failed : startRun comment emitter = .error fault after) :
    emitter.Settled after (.event (.startRun comment)) := by
  have left : after = emitter.begun.withHeader emitter.halfHead := by
    unfold halfHead
    cases sized : emitter.writer.pointText emitter.options.sizeWords with
    | error other =>
        cases failed.symm.trans (startRun_error comment sized)
        rfl
    | ok size =>
        cases shifts : isOffset emitter.options.toolOffset with
        | false => cases failed.symm.trans (startRun_plain comment sized shifts)
        | true =>
            cases placed : emitter.writer.pointText emitter.options.offsetWords with
            | error other =>
                cases failed.symm.trans (startRun_unplaced comment sized shifts placed)
                rfl
            | ok place => cases failed.symm.trans (startRun_offset comment sized shifts placed)
  subst left
  have texts : (emitter.begun.withHeader emitter.halfHead).writer.written =
      emitter.writer.written ++ emitter.writer.remarkLines firstTexts := rfl
  by_cases spared : emitter.Spares (.event (.startRun comment))
  · refine .inl ⟨spared, emitter.notices, ?_⟩
    cases spared with
    | head hidden held =>
        have unremarked : emitter.writer.remarkLines firstTexts = [] := by
          simp [Writer.remarkLines, hidden]
        rw [withHeader, begun, ← held, unremarked]
        simp
  · refine .inr ⟨spared, fun untouched => spared (.head ?_ untouched.headerComments.symm)⟩
    have same := untouched.written
    rw [texts] at same
    by_contra shown
    rw [Bool.not_eq_false] at shown
    have longer := congrArg Array.size same
    simp [Writer.remarkLines, shown, firstTexts] at longer

theorem size_le_of_writes {lines : List Line} (writes : Writes before after lines) :
    before.writer.written.size + lines.length = after.writer.written.size := by
  have texts := congrArg List.length writes.written
  simpa using texts.symm

theorem size_le_of_told (told : Told before after) :
    before.writer.written.size ≤ after.writer.written.size := by
  obtain ⟨lines, tells⟩ := told
  have sizes := size_le_of_writes tells.toWrites
  omega

theorem size_switchedOff (emitter : Emitter) :
    emitter.writer.written.size ≤ emitter.switchedOff.writer.written.size := by
  have sizes := size_le_of_writes (writes_command emitter [some emitter.options.cutterOff]
    (some "Laser off"))
  exact (Nat.le_add_right _ _).trans sizes.le

/-- The emitter once its units were announced. -/
def measured (emitter : Emitter) : Emitter :=
  emitter.commanded [emitter.writer.target.code? .setUnitsMm] (some "Units are in millimeters")

theorem serves_measured (serves : Serves options emitter) : Serves options emitter.measured :=
  ⟨serves.options, serves.mode⟩

theorem size_measured (emitter : Emitter) :
    emitter.writer.written.size < emitter.measured.writer.written.size := by
  have sizes := size_le_of_writes (writes_command emitter [emitter.writer.target.code? .setUnitsMm]
    (some "Units are in millimeters"))
  have shown : Writer.writesLine [emitter.writer.target.code? .setUnitsMm] = true := by
    cases emitter.writer.target <;> decide
  rw [Writer.length_commandLine, if_pos shown] at sizes
  exact sizes.le

theorem size_finished (emitter : Emitter) :
    emitter.writer.written.size < emitter.finished.writer.written.size := by
  have sizes := size_le_of_writes (writes_command emitter [emitter.writer.target.code? .finishMoves]
    (some "Finish moves"))
  rw [length_finishMoves] at sizes
  exact sizes.le

/-- The homing of startup. -/
def homeAtStart (options : Options) : Emission Unit := do
  if options.homeXStart then home .x
  if options.homeYStart then home .y

theorem prepare_run (options : Options) (emitter : Emitter) :
    prepare options emitter = homeAtStart options emitter.measured := rfl

theorem keeps_homeAtStart : Keeps options ToldInPlane (homeAtStart options) := by
  unfold homeAtStart
  refine Keeps.optional toldInPlane_progress (fun _ => keeps_home .x none) fun _ => ?_
  exact Keeps.branch (fun _ => keeps_home .y none) fun _ => Keeps.nothing toldInPlane_progress ()

theorem startup_measured (emitter : Emitter) :
    startup emitter = (homeAtStart emitter.options >>= fun _ => selectXY >>= fun _ =>
      settle emitter.options) emitter.switchedOff.measured := by
  refine (startup_run emitter).trans ?_
  refine (bind_of_ok (laserOff_run emitter)).trans ?_
  exact bind_of_eq (prepare_run emitter.options emitter.switchedOff)

/-- The startup has written its units before anything of it can fail. -/
theorem told_measured {facts : Section} (serves : Serves options emitter)
    (first : facts.isFirst = true) :
    Told emitter.switchedOff.measured (leaves (startSection facts) emitter) := by
  have plain {α : Type} {action : Emission α} (keeps : Keeps options ToldInPlane action) :
      Keeps options Told action := keeps.weaken fun _ tells => tells.told
  have keeps : Keeps options Told ((homeAtStart options >>= fun _ => selectXY >>= fun _ =>
      settle options) >>= fun _ => announce facts) :=
    Keeps.chain told_progress
      (Keeps.chain told_progress (plain keeps_homeAtStart) fun _ =>
        Keeps.chain told_progress keeps_selectXY fun _ => plain keeps_settle)
      fun _ => plain (keepsInPlane_of_idle (keeps_announce facts))
  have started := startup_measured emitter
  rw [serves.options] at started
  rw [startSection_first first, leaves_of_eq (bind_of_eq started)]
  exact keeps _ (serves_measured (serves_switchedOff serves))

theorem size_startSection {facts : Section} (serves : Serves options emitter)
    (first : facts.isFirst = true) : emitter.writer.written.size <
      (leaves (startSection facts) emitter).writer.written.size :=
  ((size_switchedOff emitter).trans_lt (size_measured _)).trans_le
    (size_le_of_told (told_measured serves first))

theorem size_endRun (serves : Serves options emitter) :
    emitter.writer.written.size < (leaves endRun emitter).writer.written.size :=
  ((size_finished emitter).trans_le (size_switchedOff _)).trans_le
    (size_le_of_told (told_endRun serves))

/-- A call that has written lines before it failed has left them behind. -/
theorem settled_of_written (untold : ¬emitter.Spares call)
    (longer : emitter.writer.written.size < after.writer.written.size) :
    emitter.Settled after call :=
  .inr ⟨untold, fun untouched => longer.ne (congrArg Array.size untouched.written).symm⟩

theorem settled_dwell {seconds : Float}
    (failed : dwell seconds emitter = .error fault after) :
    emitter.Settled after (.event (.dwell seconds)) := by
  have written (lasts : Float) (told : Emitter) (same : emitter.Noticed told)
      (refused : (do
        let name := (← Emitter.code .dwellParam).getD ""
        let text ← fromResult ((← get).writer.valueText false lasts)
        command [← Emitter.code .dwell, some (name ++ text)] (some "Dwell") : Emission Unit) told =
          .error fault after) : emitter.Noticed after := by
    rw [code_bind_apply, get_bind_apply, fromResult, ofExcept_bind_apply] at refused
    split at refused
    · cases refused
    · cases refused
      exact same
  refine .inl ⟨.dwell seconds, ?_⟩
  unfold dwell at failed
  dsimp only at failed
  cases told : (clampDwell seconds).2 with
  | none =>
      rw [told] at failed
      exact written _ emitter ⟨emitter.notices, rfl⟩ failed
  | some notice =>
      rw [told] at failed
      exact written _ _ ⟨emitter.notices.push notice, rfl⟩ failed

theorem settled_failed (serves : Serves options emitter)
    (failed : obey call emitter = .error fault after) : emitter.Settled after call := by
  cases call with
  | precision places => cases failed
  | event event =>
      cases event with
      | startRun comment => exact settled_startRun failed
      | startSection facts =>
          have left : leaves (startSection facts) emitter = after := leaves_of_error failed
          cases first : facts.isFirst with
          | true =>
              have longer := size_startSection serves first
              rw [left] at longer
              refine settled_of_written (fun spares => ?_) longer
              cases spares with
              | laterSection later => cases first.symm.trans later
          | false =>
              change startSection facts emitter = _ at failed
              rw [startSection_later first] at failed
              rcases announce_cases facts emitter with ⟨_, announced, -⟩ | ⟨_, refused⟩
              · cases failed.symm.trans announced
              · cases failed.symm.trans refused
                exact .inl ⟨.laterSection first, emitter.notices, rfl⟩
      | endSection => cases failed.symm.trans (endSection_run emitter)
      | dwell seconds => exact settled_dwell failed
      | power on => cases on <;> cases failed
      | rapid target => exact settled_rapid failed
      | linear target feed => exact settled_linear failed
      | circular move => exact settled_circular serves failed
      | endRun =>
          have left : leaves endRun emitter = after := leaves_of_error failed
          have longer := size_endRun serves
          rw [left] at longer
          exact settled_of_written (fun spares => by cases spares) longer

end Phases

section Later

/-- What was noticed makes no difference to a call. -/
theorem noticed_obey (noticed : before.Noticed after) (call : Call) :
    fault? (obey call) after = fault? (obey call) before ∧
      (leaves (obey call) before).Noticed (leaves (obey call) after) := by
  obtain ⟨notices, rfl⟩ := noticed
  obtain ⟨faults, alongside⟩ :=
    (inStep_obey call _ _ (kin_unnoticed before notices)).leaves
  exact ⟨faults, _, alongside_unnoticed alongside rfl⟩

theorem noticed_after (noticed : before.Noticed after) (calls : List Call) :
    after.faults calls = before.faults calls ∧
      (before.after calls).Noticed (after.after calls) := by
  induction calls generalizing before after with
  | nil => exact ⟨rfl, noticed⟩
  | cons call rest ih =>
      obtain ⟨fault, later⟩ := noticed_obey noticed call
      obtain ⟨faults, last⟩ := ih later
      exact ⟨congrArg₂ List.cons fault faults, last⟩

/-- Behind any run, a call that fails leaves nothing behind just if there was nothing new to
record, and later calls then do what they would have done without it. Where numbers can be
written, that is so of every call but a first section with a mode that cannot be told. -/
theorem failed_calls {stamp : String} {start : Emitter} (created : create options stamp = .ok start)
    (history : List Call) :
    let used := start.after history
    ∀ call fault after, obey call used = .error fault after →
      (used.Untouched after ↔ used.Spares call) ∧
      (used.Untouched after → ∀ rest, after.faults rest = used.faults rest ∧
        (used.after rest).Untouched (after.after rest)) ∧
      (options.AreNumbers → used.IsPrecise →
        (∀ facts, call = .event (.startSection facts) → facts.isFirst = true →
          (Event.startSection facts).IsTellable) → used.Untouched after) := by
  intro used call fault after failed
  have serves : Serves options used := serves_after (create_isFresh created).toServes history
  have settled := settled_failed serves failed
  refine ⟨?_, fun untouched rest => ?_, fun numbers precise told => ?_⟩
  · rcases settled with ⟨spares, noticed⟩ | ⟨unspared, touched⟩
    · exact ⟨fun _ => spares, fun _ => noticed.untouched⟩
    · exact ⟨fun untouched => absurd untouched touched, fun spares => absurd spares unspared⟩
  · rcases settled with ⟨-, noticed⟩ | ⟨-, touched⟩
    · obtain ⟨faults, later⟩ := noticed_after noticed rest
      exact ⟨faults, later.untouched⟩
    · exact absurd untouched touched
  · cases call with
    | precision places => cases failed
    | event event =>
        by_cases tellable : event.IsTellable
        · rcases isAtomic_perform numbers tellable used ⟨precise, serves.options⟩ with
            ⟨_, _, ended, -⟩ | ⟨_, notices, refused⟩
          · cases failed.symm.trans ended
          · cases failed.symm.trans refused
            exact Noticed.untouched ⟨notices, rfl⟩
        · rcases settled with ⟨-, noticed⟩ | ⟨unspared, -⟩
          · exact noticed.untouched
          · cases event with
            | startSection facts =>
                cases first : facts.isFirst with
                | false => exact absurd (.laterSection first) unspared
                | true => exact absurd (told facts rfl first) tellable
            | _ => exact absurd trivial tellable

/-- An arc without an axis is refused with nothing done. One that cannot be written leaves
nothing behind where the tool is at its end and its plane was the last one asked for. -/
theorem failed_arcs_unrecorded :
    let axisless : ArcMove :=
      { center := ⟨0, 0, 0⟩, finish := ⟨1, 0, 0⟩, feed := none, plane := none }
    let again : ArcMove := { center := ⟨0, 0, 0⟩, finish := ⟨1, 0, 0⟩, feed := some 100 }
    let history : List Call := [.event (.rapid ⟨some 1, some 0, some 0⟩), .event .endSection]
    let used := (fresh {}).after history
    let coarse := (fresh {}).after (history ++ [.precision (-1)])
    let refused := leaves (obey (.event (.circular axisless))) used
    let unwritten := leaves (obey (.event (.circular again))) coarse
    create {} "" = .ok (fresh {}) ∧ Options.AreNumbers {} ∧ used.IsPrecise ∧
      obey (.event (.circular axisless)) used = .error .missingAxis refused ∧
      used.Untouched refused ∧
      (used.after [.event (.circular again)]).Untouched (refused.after [.event (.circular again)]) ∧
      obey (.event (.circular again)) coarse = .error .negativePrecision unwritten ∧
      coarse.Spares (.event (.circular again)) ∧ coarse.Untouched unwritten := by
  intro axisless again history used coarse refused unwritten
  have created : create {} "" = .ok (fresh {}) := create_fresh (by decide +kernel) rfl
  have precise : used.IsPrecise := ⟨by decide +kernel, by decide +kernel⟩
  have failed : obey (.event (.circular axisless)) used = .error .missingAxis refused :=
    error_of_fault? (by decide +kernel)
  obtain ⟨-, later, untouched⟩ := failed_calls created history _ _ _ failed
  have same := untouched Options.usual_areNumbers precise fun _ => nofun
  have failedToo : obey (.event (.circular again)) coarse = .error .negativePrecision unwritten :=
    error_of_fault? (by decide +kernel)
  have spares : coarse.Spares (.event (.circular again)) := by
    have inPlane : again.plane = some .xy := rfl
    refine .circular (.planar inPlane (by decide +kernel) ?_)
    change moved coarse.position _ = coarse.position
    decide +kernel
  exact ⟨created, Options.usual_areNumbers, precise, failed, same, (later same _).2, failedToo,
    spares, (failed_calls created _ _ _ _ failedToo).1.mpr spares⟩

/-- An arc whose numbers cannot be written was not written, but its plane and its end are
recorded: the same arc later on is written without the code of its plane. -/
theorem failed_arc_is_recorded :
    let move : ArcMove :=
      { center := ⟨0, 0, 0⟩, finish := ⟨1, 0, 1⟩, feed := some 100, plane := some .zx,
        start := some ⟨0, 0, 0⟩ }
    let arc : Call := .event (.circular move)
    let used := (fresh {}).after [.precision (-1)]
    let after := leaves (obey arc) used
    create {} "" = .ok (fresh {}) ∧ fault? (obey arc) used = some .negativePrecision ∧
      used.slots.plane = none ∧ after.slots.plane = some "G18" ∧
      used.position = ⟨none, none, none⟩ ∧ after.position = ⟨some 1, some 0, some 1⟩ ∧
      ¬used.Untouched after ∧
      (after.after [.precision 3, arc]).writer.text = "G3 X1 Y0 Z1 I0 K0 F100\n" ∧
      (used.after [.precision 3, arc]).writer.text = "G18 G3 X1 Y0 Z1 I0 K0 F100\n" := by
  intro move arc used after
  have blank : used.slots.plane = none := by decide +kernel
  have filled : after.slots.plane = some "G18" := by decide +kernel
  refine ⟨create_fresh (by decide +kernel) rfl, by decide +kernel, blank, filled, by decide +kernel,
    by decide +kernel, fun untouched => ?_, by decide +kernel, by decide +kernel⟩
  rw [untouched.slots, blank] at filled
  cases filled

end Later

end Emitter

end GantryCode
