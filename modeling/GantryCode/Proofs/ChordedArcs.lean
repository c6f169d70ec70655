import GantryCode.Proofs.ExactEmission
import GantryCode.Proofs.MotionForms
import GantryCode.Proofs.ReplayParts
import GantryCode.Proofs.Winding

namespace GantryCode

/-! What an arc in no principal plane comes to.

It is the row of the straight cuts to the ends of its chords, and nothing else. The last of
them goes to the end of the arc as it was given, whatever the arithmetic made of the others,
and a line of a cut has words for axes and for the feed rate only.
-/

namespace Slots

/-- The texts that the slots of the axes do not hold yet. -/
def news (slots : Slots) (texts : Coordinates (Option String)) : Coordinates (Option String) :=
  let unheld (axis : Axis) := (texts.get axis).filter (slots.get axis.letter != some ·)
  ⟨unheld .x, unheld .y, unheld .z⟩

variable (slots : Slots) {texts : Coordinates (Option String)}

theorem get_news (axis : Axis) :
    (slots.news texts).get axis = (texts.get axis).filter (slots.get axis.letter != some ·) := by
  cases axis <;> rfl

theorem offerAxis_news (axis : Axis) :
    slots.offerAxis texts axis = ((slots.news texts).get axis).map (axis.letter.name ++ ·) := by
  rw [offerAxis, offer, get_news]
  cases texts.get axis with
  | none => rfl
  | some text =>
      by_cases held : slots.get axis.letter = some text
      · simp [held]
      · simp [held]

theorem AreNumbers.news (numbers : AreNumbers texts) : AreNumbers (slots.news texts) := by
  intro axis text present
  rw [get_news] at present
  exact numbers axis text (Option.filter_eq_some_iff.mp present).1

end Slots

namespace Emitter

open Emission Reading

variable {options : Options} {emitter before after : Emitter} {feed : Option Float}
  {texts : Coordinates (Option String)} {lines : List Line}

/-- The words of a straight cut: its code, those of the axes that have a text, and the feed
rate. -/
def cutWords (texts : Coordinates (Option String)) (feed : Option Float) : List String :=
  "G1" :: (Axis.all.filterMap (fun axis => (texts.get axis).map (axis.letter.name ++ ·)) ++
    (feed.map feedWord).toList)

/-- A line with nothing but the words of a straight cut. -/
inductive IsCut (feed : Option Float) : Line → Prop where
  | command (number : Option Nat) {texts : Coordinates (Option String)}
      (numbers : Slots.AreNumbers texts) :
      IsCut feed (.command number (" ".intercalate (cutWords texts feed)) none)

/-- The letters of the words that tell the center of an arc. -/
def centerLetters : List Letter :=
  [.i, .j, .k]

/-- The lines are straight cuts, which have nothing to do with planes and centers of arcs. -/
structure Cuts (feed : Option Float) (before after : Emitter) (lines : List Line) : Prop extends
    TellsInPlane before after lines where
  cuts : ∀ line ∈ lines, IsCut feed line
  ungiven : ∀ letter ∈ centerLetters, ¬Gives lines letter
  centers : ∀ letter ∈ centerLetters, after.slots.get letter = before.slots.get letter

theorem Cuts.of_tells (tells : TellsInPlane before after []) (same : after.slots = before.slots) :
    Cuts feed before after [] where
  toTellsInPlane := tells
  cuts := by simp
  ungiven := by simp [Gives]
  centers := fun _ _ => by rw [same]

theorem Cuts.trans {middle : Emitter} {more : List Line} (start : Cuts feed before middle lines)
    (later : Cuts feed middle after more) : Cuts feed before after (lines ++ more) where
  toTellsInPlane := start.toTellsInPlane.trans later.toTellsInPlane
  cuts := by
    intro line member
    rcases List.mem_append.mp member with early | late
    · exact start.cuts line early
    · exact later.cuts line late
  ungiven := by
    intro letter center
    rw [gives_append]
    rintro (early | late)
    · exact start.ungiven letter center early
    · exact later.ungiven letter center late
  centers := fun letter center =>
    (later.centers letter center).trans (start.centers letter center)

section Lines

theorem center_foreign {letter : Letter} (center : letter ∈ centerLetters) :
    letter ≠ .f ∧ ∀ axis : Axis, letter ≠ axis.letter := by
  refine ⟨?_, fun axis => ?_⟩
  · rintro rfl
    exact absurd center (by decide)
  · rintro rfl
    cases axis <;> exact absurd center (by decide)

/-- The words of the axes that are offered, and the feed rate, make the line of a cut. -/
theorem cuts_straight (emitter : Emitter) (feed : Option Float) {axes : List Axis}
    (distinct : axes.Nodup)
    (numbers : Slots.AreNumbers texts) {offered : Coordinates (Option String)}
    (news : Slots.AreNumbers offered)
    (spelled : axes.filterMap (emitter.slots.offerAxis texts) =
      Axis.all.filterMap fun axis => (offered.get axis).map (axis.letter.name ++ ·)) :
    let words := straightWords emitter.slots texts axes (feed.map feedText)
    Cuts feed emitter
      ((emitter.withSlots
        ((emitter.slots.acceptAxes texts axes).accept .f (feed.map feedText))).commanded
          (some "G1" :: words) none)
      (emitter.writer.commandLine? (some "G1" :: words) none).toList := by
  intro words
  have feedNumber : ∀ text, feed.map feedText = some text → Decimal.IsNumberText text :=
    fun _ => feedText_isNumberText feed
  have numeric : ∀ token, some token ∈ words → IsWord token :=
    straightWords_isWord numbers feedNumber
  have moves : isMove "G1".toList = true := by decide
  have alone : ∀ token, some token ∈ some "G1" :: words → IsToken token.toList := by
    intro token member
    rcases List.mem_cons.mp member with same | word
    · cases same
      decide
    · exact (numeric token word).isToken
  have body : commandBody (some "G1" :: words) = " ".intercalate (cutWords offered feed) := by
    have present : words.filterMap id = axes.filterMap (emitter.slots.offerAxis texts) ++
        (feed.map feedWord).toList := by
      change (axes.map (emitter.slots.offerAxis texts) ++ _).filterMap id = _
      rw [List.filterMap_append, List.filterMap_map, Function.id_comp]
      cases feed <;> rfl
    rw [commandBody_alone alone, List.filterMap_cons, present, spelled]
    rfl
  refine ⟨tells_straight emitter none moves distinct numbers feedNumber, ?_, ?_, ?_⟩
  · intro line written
    obtain ⟨-, made⟩ := Option.ite_none_right_eq_some.mp (Option.mem_toList.mp written)
    rw [body, Option.bind_none, ite_self] at made
    cases made
    exact .command _ news
  · intro letter center given
    obtain ⟨token, member, starts⟩ := (gives_move emitter.writer none moves numeric letter).mp given
    rcases List.mem_append.mp member with axisWord | feedWord
    · obtain ⟨axis, -, offered⟩ := List.mem_map.mp axisWord
      obtain ⟨text, -, rfl⟩ := Slots.offer_eq_some offered
      exact (center_foreign center).2 axis ((Letter.prefix_iff text).mp starts)
    · obtain ⟨text, -, rfl⟩ := Option.map_eq_some_iff.mp (List.mem_singleton.mp feedWord).symm
      exact (center_foreign center).1 ((Letter.prefix_iff text).mp starts)
  · intro letter center
    obtain ⟨unfed, unaxial⟩ := center_foreign center
    rw [slots_commanded, slots_withSlots, Slots.get_accept_of_ne _ _ _ unfed,
      Slots.get_acceptAxes_of_ne _ _ _ fun axis _ => unaxial axis]

/-- The line of a straight cut, if it has one. -/
theorem linearLine_cuts (emitter : Emitter) (numbers : Slots.AreNumbers texts)
    (feed : Option Float) :
    ∃ after, ∃ line : Option Line, linearLine feed (emitter.slots.offerAxis texts .x)
        (emitter.slots.offerAxis texts .y) (emitter.slots.offerAxis texts .z)
        (emitter.accepted texts Axis.all) = .ok () after ∧
      Cuts feed emitter after line.toList := by
  have nothing : TellsInPlane emitter emitter [] := tells_of_writer_eq rfl (.inl rfl) rfl
  by_cases offered : ∃ axis, (emitter.slots.offerAxis texts axis).isSome
  · have cuts := cuts_straight emitter feed (by decide : Axis.all.Nodup) numbers
      (numbers.news emitter.slots)
      (List.filterMap_congr fun axis _ => emitter.slots.offerAxis_news axis)
    exact ⟨_, _, linearLine_offered emitter feed offered, cuts⟩
  · have unoffered : ∀ axis, emitter.slots.offerAxis texts axis = none := by
      intro axis
      by_contra found
      exact offered ⟨axis, Option.isSome_iff_ne_none.mpr found⟩
    have run := linearLine_unoffered emitter feed unoffered
    cases fed : emitter.slots.offer .f (feed.map feedText) false with
    | none =>
        rw [fed] at run
        exact ⟨emitter, none, run, .of_tells nothing rfl⟩
    | some token =>
        have wordless : Slots.AreNumbers ⟨none, none, none⟩ := by
          intro axis text present
          cases axis <;> cases present
        have cuts := cuts_straight emitter feed (List.nodup_nil : List.Nodup []) numbers
          wordless rfl
        obtain ⟨text, shown, rfl⟩ := Slots.offer_eq_some fed
        rw [fed] at run
        rw [shown] at run cuts
        exact ⟨_, _, run, cuts⟩

/-- A straight cut has at most one line. -/
theorem linear_cuts {target : Coordinates (Option Float)}
    (returned : linear target feed emitter = .ok () after) :
    ∃ line : Option Line, Cuts feed emitter after line.toList := by
  have run := linear_run target feed emitter
  cases shown : emitter.targetTexts target with
  | error fault =>
      rw [shown] at run
      cases returned.symm.trans run
  | ok texts =>
      rw [shown] at run
      obtain ⟨reached, line, ended, cuts⟩ :=
        linearLine_cuts (emitter.sentTo target) (axisNumbers shown) feed
      cases returned.symm.trans (run.trans ended)
      exact ⟨line, (Cuts.of_tells (told_sentTo emitter target) rfl).trans cuts⟩

end Lines

section Rows

/-- A row of straight cuts has at most one line for each. -/
theorem linearThrough_cuts {points : List (Coordinates Float)}
    (returned : linearThrough feed points emitter = .ok () after) :
    ∃ lines, Cuts feed emitter after lines ∧ lines.length ≤ points.length := by
  induction points generalizing emitter with
  | nil =>
      cases returned
      exact ⟨[], .of_tells (tells_of_writer_eq rfl (.inl rfl) rfl) rfl, Nat.le_refl 0⟩
  | cons point rest ih =>
      obtain ⟨_, middle, ended, later⟩ := bind_ok returned
      obtain ⟨line, first⟩ := linear_cuts ended
      obtain ⟨lines, others, few⟩ := ih later
      refine ⟨line.toList ++ lines, first.trans others, ?_⟩
      have single : line.toList.length ≤ 1 := by cases line <;> simp
      rw [List.length_append, List.length_cons]
      omega

/-- The cuts to some points, each on its own. -/
def cutsTo (feed : Option Float) (points : List (Coordinates Float)) : List Event :=
  points.map fun point => .linear (point.map some) feed

theorem linearThrough_eq (feed : Option Float) (points : List (Coordinates Float)) :
    linearThrough feed points = (cutsTo feed points).forM perform := by
  induction points with
  | nil => rfl
  | cons point rest ih => exact congrArg (linear (point.map some) feed >>= ·) (funext fun _ => ih)

theorem inStep_events (events : List Event) :
    emitter.unnoticed.InStep Eq (events.forM perform) (events.forM perform) := by
  induction events with
  | nil => exact InStep.nothing ()
  | cons event rest ih => exact InStep.follow (inStep_perform event) fun _ => ih

/-- What was noticed before makes no difference to events. -/
theorem events_unnoticed {events : List Event} {notices : Array Notice}
    (returned : events.forM perform { emitter with notices } = .ok () after) :
    ∃ reached, events.forM perform emitter = .ok () reached ∧
      after = { reached with notices := after.notices } := by
  have ends := inStep_events events _ _ (kin_unnoticed emitter notices)
  rw [returned] at ends
  generalize alone : events.forM perform emitter = outcome at ends
  cases ends with
  | ok same alongside => exact ⟨_, rfl, alongside_unnoticed alongside rfl⟩

end Rows

section Counts

variable {move : ArcMove} {start axis : Coordinates Float} {points : List (Coordinates Float)}
  {tolerance : Quantity} {limit : Int} {arc : Arc Float}

theorem segments_bounds {count : Int} (allows : 1 ≤ limit)
    (divided : segments arc tolerance limit = .ok count) : 1 ≤ count ∧ count ≤ limit := by
  obtain ⟨step, -, divided⟩ := bind_eq_ok.mp divided
  obtain ⟨steps, -, divided⟩ := bind_eq_ok.mp divided
  obtain ⟨needed, -, divided⟩ := bind_eq_ok.mp divided
  cases divided
  omega

/-- To a tolerance that is a floating-point number the chords are those of the arc. -/
theorem segments_real (arc : Arc Float) (tolerance : Float) (limit : Int) :
    segments arc (.real tolerance) limit = arc.segments tolerance limit := by
  have step : widestStep arc.widestRadius (.real tolerance) =
      Arc.widestStep arc.widestRadius tolerance := by
    unfold widestStep Arc.widestStep
    change (if (decide (arc.widestRadius ≤ tolerance)) = true then _ else _) =
      if (decide (arc.widestRadius ≤ tolerance)) = true then _ else _
    split <;> rfl
  rw [segments, step]
  rfl

/-- There are as many chords as the options allow, and the last one goes to the end. -/
theorem chordPoints_ok (allows : 1 ≤ options.arcMaxSegments)
    (drawn : chordPoints options move start axis = .ok points) :
    1 ≤ points.length ∧ points.length ≤ options.arcMaxSegments ∧
      (∃ others, points = others ++ [move.finish]) ∧
      ∀ tolerance, options.tolerance = .real tolerance →
        Arc.linearize options.platform.geometry start move.center move.finish axis
          move.clockwise tolerance options.arcMaxSegments = .ok points := by
  obtain ⟨arc, found, drawn⟩ := bind_eq_ok.mp drawn
  obtain ⟨count, divided, drawn⟩ := bind_eq_ok.mp drawn
  cases drawn
  obtain ⟨least, most⟩ := segments_bounds allows divided
  have length : (arc.points options.platform.geometry count.toNat).length = count.toNat := by
    rw [Arc.points, List.length_append, List.length_map, List.length_range, List.length_singleton]
    omega
  refine ⟨by omega, by omega, ⟨_, by rw [Arc.points, between_finish found]⟩, ?_⟩
  intro tolerance same
  rw [same, segments_real] at divided
  exact bind_eq_ok.mpr ⟨arc, found, bind_eq_ok.mpr ⟨count, divided, rfl⟩⟩

end Counts

section Runs

variable {move : ArcMove} {start axis : Coordinates Float}

/-- An arc in no plane that ends well has been the row of the cuts to its points. -/
theorem circular_row (noPlane : move.plane = none)
    (returned : circular move emitter = .ok () after) :
    ∃ begin normal points notices, (move.start <|> emitter.position.complete?) = some begin ∧
      move.axis = some normal ∧
      chords emitter.options.platform.geometry begin move.center move.finish normal
        move.clockwise emitter.options.tolerance emitter.options.arcMaxSegments emitter.notices =
          .ok points notices ∧
      chordPoints emitter.options move begin normal = .ok points ∧
      ∃ notices, linearThrough move.feed points { emitter with notices } = .ok () after := by
  cases turned : move.axis with
  | none => cases returned.symm.trans (circular_axisless noPlane turned)
  | some normal =>
      cases begun : (move.start <|> emitter.position.complete?) with
      | none =>
          obtain ⟨_, refused⟩ := circular_unplaced begun
          cases returned.symm.trans refused
      | some begin =>
          obtain ⟨noticed, run⟩ := circular_chords noPlane turned begun
          obtain ⟨told, figured⟩ := chords_run move begin normal emitter.options emitter.notices
          have ended := run.symm.trans returned
          cases drawn : chordPoints emitter.options move begin normal with
          | error fault =>
              rw [drawn] at ended
              cases ended
          | ok points =>
              rw [drawn] at ended figured
              exact ⟨begin, normal, points, told, rfl, rfl, figured, drawn, noticed, ended⟩

theorem linear_position {point : Coordinates Float}
    (returned : linear (point.map some) feed emitter = .ok () after) :
    after.position = point.map some := by
  obtain ⟨_, _, -, moves, -⟩ := linear_moves returned
  exact moves.position

theorem linearThrough_position {others : List (Coordinates Float)} {point : Coordinates Float}
    (returned : linearThrough feed (others ++ [point]) emitter = .ok () after) :
    after.position = point.map some := by
  induction others generalizing emitter with
  | nil =>
      obtain ⟨_, reached, ended, rest⟩ := bind_ok returned
      cases rest
      exact linear_position ended
  | cons first rest ih =>
      obtain ⟨_, reached, -, later⟩ := bind_ok returned
      exact ih later

/-- After any run, an arc in no plane that ends well does what the cuts to the ends of its chords
do, one after the other. There is at least one chord and no more than the options allow, and the
last of them ends where the arc was to end, so the position and the slots are those of the end.
Each cut has at most one line, and it has nothing in it that an arc in a plane has. -/
theorem chordedArc_after_run {options : Options} {stamp : String} {start : Emitter}
    (created : create options stamp = .ok start) (calls : List Call) {move : ArcMove}
    (noPlane : move.plane = none) {after : Emitter}
    (returned : perform (.circular move) (start.after calls) = .ok () after) :
    let before := start.after calls
    ∃ begin normal points notices reached,
      (move.start <|> before.position.complete?) = some begin ∧ move.axis = some normal ∧
      chords options.platform.geometry begin move.center move.finish normal move.clockwise
        options.tolerance options.arcMaxSegments before.notices = .ok points notices ∧
      (∀ tolerance, options.tolerance = .real tolerance →
        Arc.linearize options.platform.geometry begin move.center move.finish normal
          move.clockwise tolerance options.arcMaxSegments = .ok points) ∧
      (cutsTo move.feed points).forM perform before = .ok () reached ∧
      after = { reached with notices := after.notices } ∧
      1 ≤ points.length ∧ points.length ≤ options.arcMaxSegments ∧
      points.getLast? = some move.finish ∧
      after.position = move.finish.map some ∧
      (∀ axis, ∃ text, before.axisText axis (move.finish.get axis) = .ok text ∧
        after.slots.get axis.letter = some text) ∧
      Cuts move.feed before after (before.added (.event (.circular move))) ∧
      (before.added (.event (.circular move))).length ≤ points.length := by
  intro before
  have serves : Serves options before := serves_after (create_isFresh created).toServes calls
  obtain ⟨checked, -⟩ := create_ok.mp created
  obtain ⟨-, -, allows, -⟩ := Options.accepted_of_check checked
  obtain ⟨begin, normal, points, notices, begun, turned, figured, drawn, noticed, row⟩ :=
    circular_row noPlane returned
  rw [serves.options] at figured drawn
  obtain ⟨least, most, ⟨others, last⟩, divided⟩ := chordPoints_ok allows drawn
  obtain ⟨reached, cut, same⟩ := events_unnoticed (linearThrough_eq move.feed points ▸ row)
  obtain ⟨lines, cuts, few⟩ := linearThrough_cuts row
  have still : Cuts move.feed before { before with notices := noticed } [] :=
    .of_tells (tells_of_writer_eq rfl (.inl rfl) rfl) rfl
  have whole : Cuts move.feed before after lines := still.trans cuts
  have left : leaves (obey (.event (.circular move))) before = after := leaves_of_ok returned
  have written : before.added (.event (.circular move)) = lines :=
    added_of_writes (by rw [left]; exact whole.toWrites)
  rw [written]
  refine ⟨begin, normal, points, notices, reached, begun, turned, figured, divided, cut, same,
    least, most, ?_, ?_, fun axis => circular_held serves returned, whole, few⟩
  · rw [last, List.getLast?_concat]
  · exact linearThrough_position (last ▸ row)

/-- A half turn about the origin is cut by a new emitter. -/
theorem chordedArc_of_half :
    let options : Options := { tolerance := .real 1, platform := { geometry := Arc.quarters } }
    let move : ArcMove :=
      { center := ⟨0, 0, 0⟩, finish := ⟨-1, 0, 0⟩, feed := some 600, plane := none
        start := some ⟨1, 0, 0⟩, axis := some ⟨0, 0, 1⟩ }
    ∃ after, create options "" = .ok (fresh options) ∧ move.plane = none ∧
      perform (.circular move) ((fresh options).after []) = .ok () after ∧
      after.position = ⟨some (-1), some 0, some 0⟩ ∧ after.slots.get .x = some "-1" ∧
      after.slots.get .i = none := by
  intro options move
  let start := fresh options
  have created : create options "" = .ok start := create_fresh (by decide +kernel) rfl
  let points : List (Coordinates Float) := [⟨6.123233995736766e-17, 1, 0⟩, ⟨-1, 0, 0⟩]
  have drawn : chordPoints options move ⟨1, 0, 0⟩ ⟨0, 0, 1⟩ = .ok points := by decide +kernel
  have turned : move.axis = some ⟨0, 0, 1⟩ := rfl
  have begun : (move.start <|> start.position.complete?) = some ⟨1, 0, 0⟩ := rfl
  obtain ⟨notices, run⟩ := circular_chords rfl turned begun
  have can : CanPlace { start with notices } :=
    ⟨fun axis value => by cases axis <;> exact ⟨_, rfl⟩, rfl⟩
  have serves : Serves options start := (create_isFresh created).toServes
  have noticed : Serves options { start with notices } := ⟨serves.options, serves.mode⟩
  obtain ⟨after, cut⟩ : ∃ after, linearThrough move.feed _ _ = .ok () after :=
    can.cuts noticed points
  have drawnToo : chordPoints start.options move ⟨1, 0, 0⟩ ⟨0, 0, 1⟩ = _ := drawn
  rw [drawnToo] at run
  have returned : perform (.circular move) (start.after []) = .ok () after := run.trans cut
  obtain ⟨_, _, _, _, _, -, -, -, -, -, -, -, -, -, ended, held, cuts, -⟩ :=
    chordedArc_after_run created [] (rfl : move.plane = none) returned
  obtain ⟨text, shown, kept⟩ := held .x
  have known : (start.after []).axisText .x (-1) = .ok "-1" := by decide
  cases known.symm.trans shown
  exact ⟨after, created, rfl, returned, ended, kept, cuts.centers .i (by decide)⟩

end Runs

end Emitter

end GantryCode
