import GantryCode.Proofs.Lockstep
import GantryCode.Proofs.Memory
import GantryCode.Proofs.RunHead

namespace GantryCode

/-! The tool offset as a translation.

An emitter with a tool offset does for its caller what an emitter without one does for a
caller who adds the offset himself. The offset is added once to every end, center and start,
and so drops out of the center words of an arc; homing and the heights of startup and
shutdown are places of the machine and are not moved.
-/

open Binary64 (SameValue)

theorem Quantity.IsZero.toFloat {quantity : Quantity} (zero : quantity.IsZero) (purpose : Purpose) :
    ∃ x, quantity.toFloat purpose = .ok x ∧ Binary64.IsZero x := by
  cases zero with
  | whole => exact ⟨0, by rfl, Binary64.isZero_zero⟩
  | real zero => exact ⟨_, rfl, zero⟩

theorem Quantity.IsZero.isNonzero {quantity : Quantity} (zero : quantity.IsZero) :
    quantity.isNonzero = false := by
  cases zero with
  | whole => rfl
  | real zero => rw [Quantity.isNonzero, bne, zero.beq, Bool.not_true]

def ArcMove.translated (move : ArcMove) (offset : Coordinates Float) : ArcMove :=
  { move with
    center := move.center.translated offset
    finish := move.finish.translated offset
    start := move.start.map (·.translated offset) }

/-- The event with the offset added to all coordinates that the caller gives. -/
def Event.translated (offset : Coordinates Float) : Event → Event
  | .rapid target => .rapid (target.translatedTarget offset)
  | .linear target feed => .linear (target.translatedTarget offset) feed
  | .circular move => .circular (move.translated offset)
  | event => event

namespace Call

def translated (offset : Coordinates Float) : Call → Call
  | .event given => .event (given.translated offset)
  | .precision places => .precision places

/-- An arc of the call lies in a principal plane. -/
def isPlanar : Call → Bool
  | .event (.circular move) => move.plane.isSome
  | _ => true

end Call

namespace Translation

open Emitter Emission

variable {translation : Translation} {near far : Emitter}

section Moves

theorem shiftedTarget_of_amounts {offset : Coordinates Quantity} {amounts : Coordinates Float}
    (given : ∀ axis, (offset.get axis).toFloat .sum = .ok (amounts.get axis))
    (target : Coordinates (Option Float)) :
    shiftedTarget offset target = .ok (target.translatedTarget amounts) := by
  have moved (axis : Axis) : (target.get axis).mapM (offset.get axis).shift =
      .ok ((target.get axis).map (· + amounts.get axis)) := by
    cases target.get axis with
    | none => rfl
    | some place => rw [Option.mapM_some, Quantity.shift, given axis]; rfl
  have x := moved .x
  have y := moved .y
  have z := moved .z
  dsimp only [Coordinates.get] at x y z
  rw [shiftedTarget, x, y, z]
  rfl

theorem shifted_of_amounts {offset : Coordinates Quantity} {amounts : Coordinates Float}
    (given : ∀ axis, (offset.get axis).toFloat .sum = .ok (amounts.get axis))
    (point : Coordinates Float) : shifted offset point = .ok (point.translated amounts) := by
  have x := given .x
  have y := given .y
  have z := given .z
  dsimp only [Coordinates.get] at x y z
  rw [shifted, Quantity.shift, Quantity.shift, Quantity.shift, x, y, z]
  rfl

/-- The second emitter adds zeros. -/
theorem exists_zeros (translation : Translation) : ∃ zeros : Coordinates Float,
    (∀ axis, (translation.nothing.get axis).toFloat .sum = .ok (zeros.get axis)) ∧
    ∀ axis, Binary64.IsZero (zeros.get axis) := by
  obtain ⟨x, addedX, zeroX⟩ := (translation.isNothing .x).toFloat .sum
  obtain ⟨y, addedY, zeroY⟩ := (translation.isNothing .y).toFloat .sum
  obtain ⟨z, addedZ, zeroZ⟩ := (translation.isNothing .z).toFloat .sum
  refine ⟨⟨x, y, z⟩, fun axis => ?_, fun axis => ?_⟩
  · cases axis <;> assumption
  · cases axis <;> assumption

theorem sameValue_translated (point : Coordinates Float) {zeros : Coordinates Float}
    (zero : ∀ axis, Binary64.IsZero (zeros.get axis)) (axis : Axis) :
    SameValue (point.get axis) ((point.translated zeros).get axis) := by
  rw [Coordinates.translated, Coordinates.get_zipWith]
  exact (Binary64.sameValue_add_zero _ (zero axis)).symm

theorem sameValue_translatedTarget (target : Coordinates (Option Float))
    {zeros : Coordinates Float} (zero : ∀ axis, Binary64.IsZero (zeros.get axis)) (axis : Axis) :
    Option.Rel SameValue (target.get axis) ((target.translatedTarget zeros).get axis) := by
  rw [Coordinates.translatedTarget, Coordinates.get_zipWith]
  cases target.get axis with
  | none => exact .none
  | some place => exact .some (Binary64.sameValue_add_zero _ (zero axis)).symm

theorem moved_translatedTarget (position target : Coordinates (Option Float))
    (offset : Coordinates Float) :
    (moved position target).translatedTarget offset =
      moved (position.translatedTarget offset) (target.translatedTarget offset) := by
  have each (new old : Option Float) (amount : Float) :
      (new <|> old).map (· + amount) = (new.map (· + amount) <|> old.map (· + amount)) := by
    cases new <;> rfl
  simp only [moved, Coordinates.translatedTarget, Coordinates.zipWith, each]

theorem inStep_updatePosition (target : Coordinates (Option Float)) :
    translation.InStep Eq (updatePosition target)
      (updatePosition (target.translatedTarget translation.offset)) := by
  refine InStep.change fun near far twins => Twins.still { twins with position := ?_ } rfl rfl
  rw [moved_translatedTarget, twins.position]

/-- What the two emitters make of a target differs in nothing but the signs of zeros. -/
theorem inStep_shiftedTarget (target : Coordinates (Option Float)) :
    translation.InStep
      (fun place other => ∀ axis, Option.Rel SameValue (place.get axis) (other.get axis))
      (fromResult (shiftedTarget translation.options.toolOffset target))
      (fromResult (shiftedTarget translation.nothing
        (target.translatedTarget translation.offset))) := by
  obtain ⟨zeros, added, zero⟩ := translation.exists_zeros
  rw [shiftedTarget_of_amounts translation.isOffset, shiftedTarget_of_amounts added]
  exact InStep.value (sameValue_translatedTarget _ zero)

theorem inStep_shifted (point : Coordinates Float) :
    translation.InStep (fun place other => ∀ axis, SameValue (place.get axis) (other.get axis))
      (fromResult (shifted translation.options.toolOffset point))
      (fromResult (shifted translation.nothing (point.translated translation.offset))) := by
  obtain ⟨zeros, added, zero⟩ := translation.exists_zeros
  rw [shifted_of_amounts translation.isOffset, shifted_of_amounts added]
  exact InStep.value (sameValue_translated _ zero)

theorem inStep_rapid (target : Coordinates (Option Float)) :
    translation.InStep Eq (rapid target)
      (rapid (target.translatedTarget translation.offset)) := by
  refine InStep.follow (inStep_updatePosition target) fun _ =>
    InStep.inspect fun near far twins => ?_
  rw [twins.options, twins.otherOptions]
  dsimp only [otherOptions]
  refine InStep.chain (inStep_shiftedTarget target) fun _ _ same => ?_
  refine InStep.follow (inStep_word .x (same .x) false) fun _ => ?_
  refine InStep.follow (inStep_word .y (same .y) false) fun _ => ?_
  refine InStep.follow (inStep_word .z (same .z) false) fun _ => ?_
  refine InStep.optional (inStep_rapidLine _ _ none) fun _ => ?_
  exact InStep.branch (inStep_rapidLine _ _ none) (InStep.nothing ())

theorem inStep_linear (target : Coordinates (Option Float)) (feed : Option Float) :
    translation.InStep Eq (linear target feed)
      (linear (target.translatedTarget translation.offset) feed) := by
  refine InStep.follow (inStep_updatePosition target) fun _ =>
    InStep.inspect fun near far twins => ?_
  rw [twins.options, twins.otherOptions]
  dsimp only [otherOptions]
  refine InStep.chain (inStep_shiftedTarget target) fun _ _ same => ?_
  refine InStep.follow (inStep_word .x (same .x) false) fun _ => ?_
  refine InStep.follow (inStep_word .y (same .y) false) fun _ => ?_
  refine InStep.follow (inStep_word .z (same .z) false) fun _ => ?_
  refine InStep.branch ?_ ?_
  · exact InStep.follow (inStep_sameWord .f feed true) fun _ => inStep_command _ none
  · refine InStep.follow (inStep_sameWord .f feed false) fun _ => ?_
    exact InStep.branch (inStep_command _ none) (InStep.nothing ())

theorem inStep_offsetWords {offsets others : Coordinates Float}
    (same : ∀ axis, SameValue (offsets.get axis) (others.get axis)) (axes : List Axis) :
    translation.InStep Eq (offsetWords offsets axes) (offsetWords others axes) := by
  induction axes with
  | nil => exact InStep.nothing []
  | cons axis rest ih =>
      refine InStep.follow (inStep_word axis.offsetLetter (.some (same axis)) true) fun _ => ?_
      exact InStep.follow ih fun _ => InStep.nothing _

/-- The center relative to the start does not see the offset. -/
theorem inStep_planarArc (move : ArcMove) (start : Coordinates Float) (plane : Plane) :
    translation.InStep Eq (planarArc move start plane)
      (planarArc (move.translated translation.offset) (start.translated translation.offset)
        plane) := by
  refine InStep.follow (inStep_updatePosition (move.finish.map some)) fun _ =>
    InStep.inspect fun near far twins => ?_
  rw [twins.options, twins.otherOptions]
  dsimp only [otherOptions]
  refine InStep.chain (inStep_shifted move.center) fun _ _ center => ?_
  refine InStep.chain (inStep_shifted start) fun _ _ begun => ?_
  refine InStep.chain (inStep_shifted move.finish) fun _ _ finish => ?_
  refine InStep.follow (inStep_planeCode _ false) fun _ => ?_
  refine InStep.follow (inStep_word .x (.some (finish .x)) false) fun _ => ?_
  refine InStep.follow (inStep_word .y (.some (finish .y)) false) fun _ => ?_
  refine InStep.follow (inStep_word .z (.some (finish .z)) false) fun _ => ?_
  refine InStep.follow (inStep_offsetWords (fun axis => ?_) plane.axes) fun _ => ?_
  · rw [Coordinates.get_zipWith, Coordinates.get_zipWith]
    exact (center axis).sub (begun axis)
  · exact InStep.follow (inStep_sameWord .f _ true) fun _ => inStep_command _ none

theorem complete?_translatedTarget (position : Coordinates (Option Float))
    (offset : Coordinates Float) : (position.translatedTarget offset).complete? =
      position.complete?.map (·.translated offset) := by
  obtain ⟨x, y, z⟩ := position
  cases x <;> cases y <;> cases z <;> rfl

/-- An arc starts from a given point or from where the tool is, in either coordinates. -/
theorem inStep_startPoint (given : Option (Coordinates Float)) :
    translation.InStep (fun start other => other = start.translated translation.offset)
      (startPoint given) (startPoint (given.map (·.translated translation.offset))) := by
  refine InStep.inspect fun near far twins => ?_
  have place : (given.map (·.translated translation.offset) <|> far.position.complete?) =
      (given <|> near.position.complete?).map (·.translated translation.offset) := by
    rw [twins.position, complete?_translatedTarget]
    cases given <;> rfl
  rw [place]
  cases given <|> near.position.complete? with
  | none => exact InStep.failure .unknownPosition
  | some start => exact InStep.value rfl

theorem inStep_circular {move : ArcMove} (planar : move.plane.isSome) :
    translation.InStep Eq (circular move) (circular (move.translated translation.offset)) := by
  obtain ⟨plane, chosen⟩ := Option.isSome_iff_exists.mp planar
  have run (move : ArcMove) (chosen : move.plane = some plane) :
      circular move = (startPoint move.start >>= fun start => planarArc move start plane) := by
    rw [circular, chosen]
  rw [run move chosen, run (move.translated translation.offset) chosen]
  refine InStep.chain (inStep_startPoint move.start) fun start _ same => ?_
  rw [same]
  exact inStep_planarArc move start plane

end Moves

section Heads

/-- The texts of two runs: line by line the same, but each with its own dates, and those of
the first with remarks on the tool offset. -/
inductive SameText (translation : Translation) : List Line → List Line → Prop where
  | nil : SameText translation [] []
  | line (line : Line) {lines others : List Line} (rest : SameText translation lines others) :
      SameText translation (line :: lines) (line :: others)
  | date {lines others : List Line} (rest : SameText translation lines others) :
      SameText translation (.ofComment (some ("Creation date: " ++ translation.stamp)) :: lines)
        (.ofComment (some ("Creation date: " ++ translation.otherStamp)) :: others)
  | offset (place : String) {lines others : List Line} (rest : SameText translation lines others) :
      SameText translation (.ofComment (some ("Tool offset: " ++ place)) :: lines) others

theorem SameText.refl (lines : List Line) : translation.SameText lines lines := by
  induction lines with
  | nil => exact .nil
  | cons line rest ih => exact .line line ih

theorem SameText.append {lines others more moreOthers : List Line}
    (start : translation.SameText lines others) (later : translation.SameText more moreOthers) :
    translation.SameText (lines ++ more) (others ++ moreOthers) := by
  induction start with
  | nil => exact later
  | line line _ ih => exact .line line ih
  | date _ ih => exact .date ih
  | offset place _ ih => exact .offset place ih

theorem Twins.remarkLines (twins : translation.Twins near far) (texts : List String) :
    far.writer.remarkLines texts = near.writer.remarkLines texts := by
  obtain ⟨comments, written, same⟩ := twins.writer
  rw [same]
  rfl

theorem Twins.begun (twins : translation.Twins near far) :
    translation.Together near far near.begun far.begun := by
  obtain ⟨comments, written, same⟩ := twins.writer
  refine { twins with
    stamp := twins.stamp
    writer := ⟨[], far.begun.writer.written, ?_⟩
    written := ?_ }
  · simp only [Emitter.begun, same]
    rfl
  · refine ⟨near.writer.remarkLines firstTexts, by simp [Emitter.begun], ?_⟩
    simp [Emitter.begun, twins.remarkLines]

theorem Twins.headed (twins : translation.Twins near far) (texts others : List String)
    (comment : Option String) :
    translation.Twins (near.headed texts comment) (far.headed others comment) := by
  obtain ⟨comments, written, same⟩ := twins.writer
  refine { twins with
    stamp := twins.stamp
    writer := ⟨others.map .text, (far.headed others comment).writer.written, ?_⟩ }
  simp only [Emitter.headed, same]
  rfl

/-- Heads differ in their dates and in what the remarks of their own differ in. -/
theorem Twins.headLines (twins : translation.Twins near far) {texts others : List String}
    (own : translation.SameText (texts.map fun text => .ofComment (some text))
      (others.map fun text => .ofComment (some text))) (comment : Option String) :
    translation.SameText (near.headLines texts comment) (far.headLines others comment) := by
  have named : near.writer.headTexts = ("Creation date: " ++ translation.stamp) ::
      near.writer.headTexts.tail := by rw [Writer.headTexts, twins.stamp]; rfl
  have renamed : far.writer.headTexts = ("Creation date: " ++ translation.otherStamp) ::
      near.writer.headTexts.tail := by
    obtain ⟨comments, written, same⟩ := twins.writer
    rw [same]
    rfl
  rw [Emitter.headLines, Emitter.headLines, twins.remarkLines, named, renamed]
  unfold Writer.remarkLines
  split
  · simp only [List.map_append]
    refine (SameText.refl _).append (SameText.append (SameText.append ?_ own) (SameText.refl _))
    exact .date (SameText.refl _)
  · exact .nil

theorem Twins.pointText (twins : translation.Twins near far) (words : List (String × Quantity)) :
    far.writer.pointText words = near.writer.pointText words := by
  unfold Writer.pointText
  rw [twins.valueText]

theorem precisionFault?_of_pointText {writer : Writer} {name text : String} {quantity : Quantity}
    {rest : List (String × Quantity)}
    (shown : writer.pointText ((name, quantity) :: rest) = .ok text) :
    writer.precisionFault? = none := by
  cases possible : writer.precisionFault? with
  | none => rfl
  | some fault =>
      cases found : quantity.toFloat .text <;>
        simp [Writer.pointText, found, Writer.valueText_places, possible, bind, Except.bind]
          at shown

theorem toFloat_purpose {quantity : Quantity} {x : Float} {purpose : Purpose}
    (found : quantity.toFloat purpose = .ok x) (other : Purpose) :
    quantity.toFloat other = .ok x := by
  cases quantity with
  | other => cases found
  | _ => exact found

/-- Where the size of the bed can be written, so can the tool offset. -/
theorem Twins.place_exists (twins : translation.Twins near far) {size : String}
    (sized : near.writer.pointText near.options.sizeWords = .ok size) :
    ∃ place, near.writer.pointText near.options.offsetWords = .ok place := by
  have possible := precisionFault?_of_pointText sized
  have x := toFloat_purpose (translation.isOffset .x) .text
  have y := toFloat_purpose (translation.isOffset .y) .text
  have z := toFloat_purpose (translation.isOffset .z) .text
  dsimp only [Coordinates.get] at x y z
  rw [twins.options, Options.offsetWords]
  simp [Writer.pointText, Writer.valueText_places, possible, x, y, z, bind, Except.bind, pure,
    Except.pure]

theorem isOffset_nothing (translation : Translation) :
    Emitter.isOffset translation.nothing = false := by
  have x := (translation.isNothing .x).isNonzero
  have y := (translation.isNothing .y).isNonzero
  have z := (translation.isNothing .z).isNonzero
  dsimp only [Coordinates.get] at x y z
  rw [Emitter.isOffset, x, y, z]
  rfl

end Heads

section Runs

/-- The two still are twins, and what they wrote is the same but for dates and remarks on
the tool offset. -/
structure Beside (translation : Translation) (near far nearAfter farAfter : Emitter) : Prop
    extends translation.Twins nearAfter farAfter where
  written : ∃ lines others, nearAfter.writer.written.toList = near.writer.written.toList ++ lines ∧
    farAfter.writer.written.toList = far.writer.written.toList ++ others ∧
    translation.SameText lines others

variable {nearAfter farAfter : Emitter} {call : Call}

theorem Together.beside (together : translation.Together near far nearAfter farAfter) :
    translation.Beside near far nearAfter farAfter := by
  obtain ⟨lines, first, second⟩ := together.written
  exact { together with written := ⟨lines, lines, first, second, .refl lines⟩ }

theorem Beside.trans {nearEnd farEnd : Emitter}
    (start : translation.Beside near far nearAfter farAfter)
    (later : translation.Beside nearAfter farAfter nearEnd farEnd) :
    translation.Beside near far nearEnd farEnd := by
  obtain ⟨lines, others, first, second, same⟩ := start.written
  obtain ⟨more, moreOthers, firstMore, secondMore, sameMore⟩ := later.written
  refine { later with
    written := ⟨lines ++ more, others ++ moreOthers, ?_, ?_, same.append sameMore⟩ }
  · rw [firstMore, first, List.append_assoc]
  · rw [secondMore, second, List.append_assoc]

theorem Twins.besideHeaded (twins : translation.Twins near far) {texts others : List String}
    (own : translation.SameText (texts.map fun text => .ofComment (some text))
      (others.map fun text => .ofComment (some text))) (comment : Option String) :
    translation.Beside near far (near.headed texts comment) (far.headed others comment) :=
  { twins.headed texts others comment with
    written := ⟨near.headLines texts comment, far.headLines others comment,
      by simp [Emitter.headed], by simp [Emitter.headed], twins.headLines own comment⟩ }

theorem ends_startRun (twins : translation.Twins near far) (comment : Option String) :
    Ends Eq (translation.Beside near far) (startRun comment near) (startRun comment far) := by
  have size : far.writer.pointText far.options.sizeWords =
      near.writer.pointText near.options.sizeWords := by
    rw [twins.pointText, twins.options, twins.otherOptions]
    rfl
  cases sized : near.writer.pointText near.options.sizeWords with
  | error fault =>
      rw [startRun_error comment sized, startRun_error comment (size.trans sized)]
      exact .error fault twins.begun.beside
  | ok text =>
      have plain : Emitter.isOffset far.options.toolOffset = false := by
        rw [twins.otherOptions]
        exact translation.isOffset_nothing
      rw [startRun_plain comment (size.trans sized) plain]
      cases shifts : Emitter.isOffset near.options.toolOffset with
      | false =>
          rw [startRun_plain comment sized shifts]
          exact .ok rfl (twins.besideHeaded (.refl _) comment)
      | true =>
          obtain ⟨place, placed⟩ := twins.place_exists sized
          rw [startRun_offset comment sized shifts placed]
          exact .ok rfl (twins.besideHeaded (.line _ (.offset place .nil)) comment)

/-- A call whose lines hold neither dates nor remarks on the tool offset. -/
theorem inStep_obey (planar : call.isPlanar)
    (later : ∀ comment, call ≠ .event (.startRun comment)) :
    translation.InStep Eq (obey call) (obey (call.translated translation.offset)) := by
  cases call with
  | precision places => exact inStep_updateWriter (extends_setPrecision places)
  | event event =>
      cases event with
      | startRun comment => exact absurd rfl (later comment)
      | startSection facts =>
          exact inStep_steps.startSection (fun _ _ => trivial) (fun _ _ _ _ => trivial) fun _ =>
            inStep_selectMode facts.jetMode
      | endSection => exact inStep_steps.endSection
      | dwell seconds => exact inStep_steps.dwell trivial
      | power on => exact inStep_power on
      | rapid target => exact inStep_rapid target
      | linear target feed => exact inStep_linear target feed
      | circular move => exact inStep_circular planar
      | endRun => exact inStep_steps.endRun (fun _ _ => trivial) fun _ _ _ _ => trivial

theorem ends_obey (twins : translation.Twins near far) (planar : call.isPlanar) :
    Ends Eq (translation.Beside near far) (obey call near)
      (obey (call.translated translation.offset) far) := by
  by_cases starts : ∃ comment, call = .event (.startRun comment)
  · obtain ⟨comment, rfl⟩ := starts
    exact ends_startRun twins comment
  · rw [not_exists] at starts
    exact (inStep_obey planar starts near far twins).weaken fun _ _ together => together.beside

theorem beside_after (twins : translation.Twins near far) {calls : List Call}
    (planar : ∀ call ∈ calls, call.isPlanar) :
    translation.Beside near far (near.after calls)
      (far.after (calls.map (·.translated translation.offset))) := by
  induction calls generalizing near far with
  | nil => exact twins.together.beside
  | cons call rest ih =>
      have first := (ends_obey twins (planar call (by simp))).leaves.2
      exact first.trans (ih first.toTwins fun other member => planar other (by simp [member]))

theorem create_twins (created : create translation.options translation.stamp = .ok near) :
    ∃ far, create translation.otherOptions translation.otherStamp = .ok far ∧
      translation.Twins near far ∧ near.writer.written = #[] ∧ far.writer.written = #[] := by
  obtain ⟨accepted, target, named, rfl⟩ := create_ok.mp created
  refine ⟨_, create_ok.mpr ⟨accepted, target, named, rfl⟩, ?_, rfl, rfl⟩
  exact ⟨rfl, rfl, rfl, ⟨[], #[], rfl⟩, rfl, rfl, rfl⟩

end Runs

end Translation

namespace Emitter

open Emission

/-- The tool offset is a translation of what the caller gives. Behind any run without arcs
outside the principal planes, an emitter with an offset and one without that was given all
coordinates with the offset added hold the same slots and the same mode, and wherever the
first knows its position, the second is there plus the offset. Their texts are the same but
for the dates and the remarks on the tool offset, and so are the lines of the next call,
which fails for both or for neither, and alike. Only the head of a run has such lines. -/
theorem toolOffset_translates (translation : Translation) {near : Emitter}
    (created : create translation.options translation.stamp = .ok near) :
    ∃ far, create translation.otherOptions translation.otherStamp = .ok far ∧
      ∀ calls : List Call, (∀ call ∈ calls, call.isPlanar) →
        let first := near.after calls
        let second := far.after (calls.map (·.translated translation.offset))
        second.writer.slots = first.writer.slots ∧ second.mode = first.mode ∧
        (∀ axis, second.position.get axis =
          (first.position.get axis).map (· + translation.offset.get axis)) ∧
        translation.SameText first.writer.written.toList second.writer.written.toList ∧
        ∀ call, call.isPlanar →
          fault? (obey (call.translated translation.offset)) second = fault? (obey call) first ∧
          translation.SameText (first.added call)
            (second.added (call.translated translation.offset)) ∧
          ((∀ comment, call ≠ .event (.startRun comment)) →
            second.added (call.translated translation.offset) = first.added call) := by
  obtain ⟨far, createdToo, twins, nearEmpty, farEmpty⟩ := Translation.create_twins created
  refine ⟨far, createdToo, fun calls planar => ?_⟩
  intro first second
  have beside : translation.Beside near far first second := Translation.beside_after twins planar
  obtain ⟨lines, others, written, writtenToo, same⟩ := beside.written
  rw [nearEmpty] at written
  rw [farEmpty] at writtenToo
  refine ⟨beside.toTwins.slots, beside.mode, fun axis => ?_, ?_, fun call inPlane => ?_⟩
  · rw [beside.position, Coordinates.translatedTarget, Coordinates.get_zipWith]
  · rw [written, writtenToo]
    exact same
  · obtain ⟨faults, together⟩ := (Translation.ends_obey beside.toTwins inPlane).leaves
    obtain ⟨lines, others, added, addedToo, same⟩ := together.written
    refine ⟨faults, ?_, fun later => ?_⟩
    · rw [Emitter.added, Emitter.added, added, addedToo, List.drop_left' (by simp),
        List.drop_left' (by simp)]
      exact same
    · obtain ⟨lines, added, addedToo⟩ :=
        (Translation.inStep_obey inPlane later first second beside.toTwins).leaves.2.written
      rw [Emitter.added, Emitter.added, added, addedToo, List.drop_left' (by simp),
        List.drop_left' (by simp)]

theorem toolOffset_of_arc :
    let shifted : Options := { toolOffset := ⟨.real 1, .whole 2, .real 0⟩ }
    let offset : Coordinates Float := ⟨1, 2, 0⟩
    let calls := [Call.event (.rapid ⟨some 10, some 0, some 0⟩),
      .event (.circular { center := ⟨0, 0, 0⟩, finish := ⟨0, 10, 0⟩, feed := some 600 })]
    create shifted "" = .ok (fresh shifted) ∧ (∀ call ∈ calls, call.isPlanar) ∧
      ((fresh shifted).after calls).writer.slots.y = some "12" ∧
      ∃ far, create {} "later" = .ok far ∧
        (far.after (calls.map (·.translated offset))).writer.slots =
          ((fresh shifted).after calls).writer.slots := by
  intro shifted offset calls
  let translation : Translation :=
    { options := shifted
      offset := offset
      nothing := ⟨.real 0, .real 0, .real 0⟩
      stamp := ""
      otherStamp := "later"
      isOffset := by intro axis; cases axis <;> decide +kernel
      isNothing := by intro axis; cases axis <;> exact .real Binary64.isZero_zero }
  have created : create translation.options translation.stamp = .ok (fresh shifted) :=
    create_fresh (by decide +kernel) rfl
  have planar : ∀ call ∈ calls, call.isPlanar := by decide
  obtain ⟨far, createdToo, runs⟩ := toolOffset_translates translation created
  exact ⟨created, planar, by decide +kernel, far, createdToo, (runs calls planar).1⟩

end Emitter

end GantryCode
