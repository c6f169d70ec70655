import GantryCode.Proofs.Moves

namespace GantryCode

/-! Motion events, from the state before them to the state behind them.

Each either fails before it offers a word or offers the words of all its axes. Every
axis that it has a target for then has the text of that target in its slot, and a line
has a word for the axis just if the slot held another text before.
-/

namespace Emitter

open Emission Reading

variable {options : Options} {emitter : Emitter} {texts : Coordinates (Option String)}
  {axes : List Axis}

def sentTo (emitter : Emitter) (target : Coordinates (Option Float)) : Emitter :=
  { emitter with position := moved emitter.position target }

/-- The texts of a target as the controller sees it. -/
def targetTexts (emitter : Emitter) (target : Coordinates (Option Float)) :
    Except Fault (Coordinates (Option String)) := do
  emitter.writer.axisTexts (← shiftedTarget emitter.options.toolOffset target)

/-- The emitter once these axes were given their texts. -/
def accepted (emitter : Emitter) (texts : Coordinates (Option String)) (axes : List Axis) :
    Emitter :=
  emitter.withSlots (emitter.slots.acceptAxes texts axes)

def axisText (emitter : Emitter) (axis : Axis) (value : Float) : Except Fault String := do
  emitter.writer.valueText axis.letter.isWhole
    (← (emitter.options.toolOffset.get axis).shift value)

theorem Alike.axisText {before after : Emitter} (alike : Alike before after) :
    after.axisText = before.axisText := by
  funext axis value
  rw [Emitter.axisText, Emitter.axisText, alike.options, alike.valueText]

theorem told_sentTo (emitter : Emitter) (target : Coordinates (Option Float)) :
    TellsInPlane emitter (emitter.sentTo target) [] :=
  tells_of_writer_eq rfl (.inl rfl) rfl

theorem shiftedTarget_get {offset : Coordinates Quantity}
    {target point : Coordinates (Option Float)}
    (shifted : shiftedTarget offset target = .ok point) (axis : Axis) :
    (target.get axis).mapM (offset.get axis).shift = .ok (point.get axis) := by
  obtain ⟨x, y, z⟩ := Coordinates.all_ok shifted
  cases axis with
  | x => exact x
  | y => exact y
  | z => exact z

theorem targetTexts_point {target : Coordinates (Option Float)}
    (shown : emitter.targetTexts target = .ok texts) :
    ∃ point, shiftedTarget emitter.options.toolOffset target = .ok point ∧
      emitter.writer.axisTexts point = .ok texts := by
  unfold targetTexts at shown
  cases shifted : shiftedTarget emitter.options.toolOffset target with
  | error fault => simp [shifted, bind, Except.bind] at shown
  | ok point =>
      rw [shifted] at shown
      exact ⟨point, rfl, shown⟩

theorem targetTexts_get {target : Coordinates (Option Float)} {axis : Axis} {value : Float}
    (shown : emitter.targetTexts target = .ok texts) (sent : target.get axis = some value) :
    ∃ text, emitter.axisText axis value = .ok text ∧ texts.get axis = some text := by
  have fraction : axis.letter.isWhole = false := by cases axis <;> rfl
  obtain ⟨point, shifted, written⟩ := targetTexts_point shown
  have placed := shiftedTarget_get shifted axis
  have lettered := Writer.axisTexts_get written axis
  rw [sent, Option.mapM_some] at placed
  cases moved : (emitter.options.toolOffset.get axis).shift value with
  | error fault => simp [moved] at placed
  | ok place =>
      rw [moved] at placed
      rw [← Except.ok.inj placed, Option.mapM_some] at lettered
      cases rendered : emitter.writer.valueText false place with
      | error fault => simp [rendered] at lettered
      | ok text =>
          rw [rendered] at lettered
          refine ⟨text, ?_, (Except.ok.inj lettered).symm⟩
          rw [axisText, fraction, moved]
          exact rendered

theorem targetTexts_get_none {target : Coordinates (Option Float)} {axis : Axis}
    (shown : emitter.targetTexts target = .ok texts) (unsent : target.get axis = none) :
    texts.get axis = none := by
  obtain ⟨point, shifted, written⟩ := targetTexts_point shown
  have placed := shiftedTarget_get shifted axis
  have lettered := Writer.axisTexts_get written axis
  rw [unsent] at placed
  rw [← Except.ok.inj placed] at lettered
  exact (Except.ok.inj lettered).symm

def rapidLines (options : Options) (x y z : Option String) : Emission Unit := do
  if x.isSome || y.isSome then rapidLine [x, y] options.rapidFeedXY
  if z.isSome then rapidLine [z] options.rapidFeedZ

theorem rapid_run (target : Coordinates (Option Float)) (emitter : Emitter) :
    rapid target emitter =
      match emitter.targetTexts target with
      | .ok texts =>
          rapidLines emitter.options (emitter.slots.offerAxis texts .x)
            (emitter.slots.offerAxis texts .y) (emitter.slots.offerAxis texts .z)
            ((emitter.sentTo target).accepted texts Axis.all)
      | .error fault => .error fault (emitter.sentTo target) := by
  have start : rapid target emitter =
      (fromResult (shiftedTarget emitter.options.toolOffset target) >>= fun point => do
        rapidLines emitter.options (← word .x point.x) (← word .y point.y) (← word .z point.z))
        (emitter.sentTo target) := rfl
  rw [start, fromResult, ofExcept_bind_apply, targetTexts]
  cases shifted : shiftedTarget emitter.options.toolOffset target with
  | error fault => rfl
  | ok point =>
      exact axisWords_run point (rapidLines emitter.options) (emitter.sentTo target)

/-- Where a rapid move cannot have its feed rate, nothing is known of the letters. -/
theorem tells_unread (emitter : Emitter) {slots : Slots}
    (plane : slots.plane = emitter.slots.plane)
    (outOfRange : ¬emitter.options.FeedsInRange) :
    TellsInPlane emitter (emitter.withSlots slots) [] where
  options := rfl
  mode := .inl rfl
  precision := rfl
  written := by simp [withSlots]
  flat := by simp
  letters := fun feeds => absurd feeds outOfRange
  plane := plane
  planes := fun _ => rfl

/-- The axes are given their texts, and the lines have words for those that are
new. -/
structure MovesAxes (before after : Emitter) (texts : Coordinates (Option String))
    (axes : List Axis) (lines : List Line) : Prop where
  tells : Tells before after lines
  position : after.position = before.position
  held : ∀ axis : Axis,
    after.slots.get axis.letter = (before.slots.acceptAxes texts axes).get axis.letter
  gives : ∀ axis : Axis, Gives lines axis.letter ↔
    axis ∈ axes ∧ (before.slots.offerAxis texts axis).isSome

theorem MovesAxes.append {before middle after : Emitter} {others : List Axis}
    {lines more : List Line} (start : MovesAxes before middle texts axes lines)
    (later : MovesAxes middle after texts others more)
    (disjoint : ∀ axis ∈ others, axis ∉ axes) :
    MovesAxes before after texts (axes ++ others) (lines ++ more) where
  tells := start.tells.trans later.tells
  position := later.position.trans start.position
  held := by
    intro axis
    rw [later.held, Slots.get_acceptAxes, Slots.get_acceptAxes, start.held, Slots.get_acceptAxes]
    by_cases late : axis ∈ others
    · simp [late, disjoint axis late]
    · simp [late]
  gives := by
    intro axis
    rw [gives_append, start.gives, later.gives, List.mem_append]
    by_cases late : axis ∈ others
    · have untouched : middle.slots.get axis.letter = before.slots.get axis.letter := by
        rw [start.held, Slots.get_acceptAxes, if_neg (disjoint axis late)]
      rw [Slots.offerAxis_congr texts untouched]
      simp [late]
    · simp [late]

theorem accepted_of_unoffered
    (unoffered : ∀ axis ∈ axes, emitter.slots.offerAxis texts axis = none) :
    emitter.accepted texts axes = emitter := by
  rw [accepted, Slots.acceptAxes_of_unoffered unoffered, withSlots_slots]

theorem movesAxes_nothing
    (unoffered : ∀ axis ∈ axes, emitter.slots.offerAxis texts axis = none) :
    MovesAxes emitter emitter texts axes [] where
  tells := (tells_of_writer_eq rfl (.inl rfl) rfl).toTells
  position := rfl
  held := by
    intro axis
    rw [Slots.acceptAxes_of_unoffered unoffered]
  gives := by
    intro axis
    constructor
    · rintro ⟨line, member, -⟩
      cases member
    · rintro ⟨among, found⟩
      rw [unoffered axis among] at found
      cases found

/-- The line of some axes, with others waiting for theirs. -/
theorem rapidLine_moves (emitter : Emitter) (numbers : Slots.AreNumbers texts)
    (distinct : axes.Nodup) (others : List Axis) {feed : Quantity} {rate : Float}
    (shown : feed.toFloat .text = .ok rate) :
    ∃ lines middle, TellsInPlane emitter middle lines ∧
      rapidLine (axes.map (emitter.slots.offerAxis texts)) feed none
          ((emitter.accepted texts axes).accepted texts others) =
        .ok () (middle.accepted texts others) ∧
      MovesAxes emitter middle texts axes lines := by
  have feedNumber : ∀ text, some (feedText rate) = some text → Decimal.IsNumberText text :=
    fun _ => feedText_isNumberText (some rate)
  have tells := tells_straight emitter none (by decide : isMove "G0".toList = true) distinct
    numbers feedNumber
  have run := rapidLine_run (axes.map (emitter.slots.offerAxis texts)) feed none
    ((emitter.accepted texts axes).accepted texts others)
  rw [shown] at run
  refine ⟨_, _, tells, run.trans ?_, tells.toTells, position_line .., ?_, ?_⟩
  · simp only [accepted, slots_withSlots, withSlots_withSlots, slots_commanded,
      withSlots_commanded]
    rw [Slots.acceptAxes_accept _ texts Axis.f_ne_letter]
    rfl
  · intro axis
    rw [slots_commanded, slots_withSlots,
      Slots.get_accept_of_ne _ _ _ (Axis.f_ne_letter axis).symm]
  · intro axis
    exact gives_straight emitter.writer emitter.slots axes none (by decide) numbers feedNumber axis

/-- The line is left out where none of the axes has a new text, and it cannot be written
where its feed rate is out of range. -/
theorem rapidLine_part (emitter : Emitter) (numbers : Slots.AreNumbers texts)
    (distinct : axes.Nodup) (others : List Axis) {feed : Quantity}
    (inRange : emitter.options.FeedsInRange → ∃ rate, feed.toFloat .text = .ok rate)
    {condition : Bool}
    (offered : condition = true ↔ ∃ axis ∈ axes, (emitter.slots.offerAxis texts axis).isSome) :
    ∃ lines middle, TellsInPlane emitter middle lines ∧
      let action : Emission Unit :=
        if condition then rapidLine (axes.map (emitter.slots.offerAxis texts)) feed else pure ()
      let waiting := (emitter.accepted texts axes).accepted texts others
      (action waiting = .ok () (middle.accepted texts others) ∧
        MovesAxes emitter middle texts axes lines) ∨
      (¬emitter.options.FeedsInRange ∧
        ∃ fault, action waiting = .error fault (middle.accepted texts others)) := by
  cases condition with
  | false =>
      have unoffered : ∀ axis ∈ axes, emitter.slots.offerAxis texts axis = none := by
        intro axis member
        by_contra found
        exact absurd (offered.mpr ⟨axis, member, Option.isSome_iff_ne_none.mpr found⟩) (by decide)
      have nothing : TellsInPlane emitter emitter [] := tells_of_writer_eq rfl (.inl rfl) rfl
      refine ⟨[], emitter, nothing, .inl ⟨?_, movesAxes_nothing unoffered⟩⟩
      rw [accepted_of_unoffered unoffered]
      rfl
  | true =>
      cases shown : feed.toFloat .text with
      | error fault =>
          have outOfRange : ¬emitter.options.FeedsInRange := by
            intro feeds
            obtain ⟨rate, found⟩ := inRange feeds
            rw [shown] at found
            cases found
          have run := rapidLine_run (axes.map (emitter.slots.offerAxis texts)) feed none
            ((emitter.accepted texts axes).accepted texts others)
          rw [shown] at run
          exact ⟨[], emitter.accepted texts axes, tells_unread emitter (by simp) outOfRange,
            .inr ⟨outOfRange, fault, run⟩⟩
      | ok rate =>
          obtain ⟨lines, middle, tells, run, moves⟩ :=
            rapidLine_moves emitter numbers distinct others shown
          exact ⟨lines, middle, tells, .inl ⟨run, moves⟩⟩

theorem rapidLines_eq (options : Options) (x y z : Option String) :
    rapidLines options x y z =
      ((if x.isSome || y.isSome then rapidLine [x, y] options.rapidFeedXY else pure ()) >>=
        fun _ => if z.isSome then rapidLine [z] options.rapidFeedZ else pure ()) := by
  unfold rapidLines
  dsimp only
  split <;> rfl

/-- The lines of a rapid move, be they two, one or none. -/
theorem rapidLines_moves (emitter : Emitter) (numbers : Slots.AreNumbers texts) :
    ∃ lines after, TellsInPlane emitter after lines ∧
      let outcome := rapidLines emitter.options (emitter.slots.offerAxis texts .x)
        (emitter.slots.offerAxis texts .y) (emitter.slots.offerAxis texts .z)
        (emitter.accepted texts Axis.all)
      (outcome = .ok () after ∧ MovesAxes emitter after texts Axis.all lines) ∨
      (¬emitter.options.FeedsInRange ∧ ∃ fault, outcome = .error fault after) := by
  have level : ((emitter.slots.offerAxis texts .x).isSome ||
      (emitter.slots.offerAxis texts .y).isSome) = true ↔
      ∃ axis ∈ [Axis.x, Axis.y], (emitter.slots.offerAxis texts axis).isSome := by simp
  rw [rapidLines_eq]
  obtain ⟨first, middle, tells, ⟨ended, moves⟩ | ⟨outOfRange, fault, failed⟩⟩ :=
    rapidLine_part emitter numbers (by decide) [.z] (fun feeds => feeds.xy) level
  · have height : emitter.slots.offerAxis texts .z = middle.slots.offerAxis texts .z := by
      refine Slots.offerAxis_congr texts ?_
      rw [moves.held, Slots.get_acceptAxes, if_neg (by decide)]
    have raised : (middle.slots.offerAxis texts .z).isSome = true ↔
        ∃ axis ∈ [Axis.z], (middle.slots.offerAxis texts axis).isSome := by simp
    have upper := rapidLine_part middle numbers (by decide) [] (fun feeds => feeds.z) raised
    rw [tells.options] at upper
    rw [height]
    obtain ⟨second, after, rest, ⟨finished, higher⟩ | ⟨outOfRange, fault, failed⟩⟩ := upper
    · exact ⟨first ++ second, after, tells.trans rest,
        .inl ⟨(bind_of_ok ended).trans finished, moves.append higher (by decide)⟩⟩
    · exact ⟨first ++ second, after, tells.trans rest,
        .inr ⟨outOfRange, fault, (bind_of_ok ended).trans failed⟩⟩
  · have unread := tells_unread middle (middle.slots.plane_acceptAxes texts [Axis.z])
      (by rw [tells.options]; exact outOfRange)
    exact ⟨first ++ [], _, tells.trans unread, .inr ⟨outOfRange, fault, bind_of_error failed⟩⟩

theorem axisNumbers {target : Coordinates (Option Float)}
    (shown : emitter.targetTexts target = .ok texts) : Slots.AreNumbers texts := by
  obtain ⟨point, -, written⟩ := targetTexts_point shown
  exact fun axis text present => Writer.axisTexts_isNumberText written present

theorem rapid_moves {target : Coordinates (Option Float)} {after : Emitter}
    (returned : rapid target emitter = .ok () after) :
    ∃ texts lines, emitter.targetTexts target = .ok texts ∧
      MovesAxes (emitter.sentTo target) after texts Axis.all lines := by
  rw [rapid_run] at returned
  cases shown : emitter.targetTexts target with
  | error fault => simp [shown] at returned
  | ok texts =>
      rw [shown] at returned
      obtain ⟨lines, reached, -, ⟨ended, moves⟩ | ⟨-, fault, failed⟩⟩ :=
        rapidLines_moves (emitter.sentTo target) (axisNumbers shown)
      · cases returned.symm.trans ended
        exact ⟨texts, lines, rfl, moves⟩
      · cases returned.symm.trans failed

theorem keeps_rapid (target : Coordinates (Option Float)) :
    Keeps options ToldInPlane (rapid target) := by
  intro emitter _
  have run := rapid_run target emitter
  have sent := told_sentTo emitter target
  cases shown : emitter.targetTexts target with
  | error fault =>
      rw [shown] at run
      rw [leaves_of_error run]
      exact ⟨[], sent⟩
  | ok texts =>
      rw [shown] at run
      obtain ⟨lines, after, tells, ⟨ended, -⟩ | ⟨-, fault, failed⟩⟩ :=
        rapidLines_moves (emitter.sentTo target) (axisNumbers shown)
      · rw [leaves_of_ok (run.trans ended)]
        exact ⟨[] ++ lines, sent.trans tells⟩
      · rw [leaves_of_error (run.trans failed)]
        exact ⟨[] ++ lines, sent.trans tells⟩

/-- The line of a straight cut, whose axis words were offered before. -/
def linearLine (feed : Option Float) (x y z : Option String) : Emission Unit := do
  if x.isSome || y.isSome || z.isSome then
    command [some "G1", x, y, z, ← word .f feed true]
  else
    let feedWord ← word .f feed
    if feedWord.isSome then command [some "G1", feedWord]

theorem linear_run (target : Coordinates (Option Float)) (feed : Option Float)
    (emitter : Emitter) :
    linear target feed emitter =
      match emitter.targetTexts target with
      | .ok texts =>
          linearLine feed (emitter.slots.offerAxis texts .x) (emitter.slots.offerAxis texts .y)
            (emitter.slots.offerAxis texts .z) ((emitter.sentTo target).accepted texts Axis.all)
      | .error fault => .error fault (emitter.sentTo target) := by
  have start : linear target feed emitter =
      (fromResult (shiftedTarget emitter.options.toolOffset target) >>= fun point => do
        linearLine feed (← word .x point.x) (← word .y point.y) (← word .z point.z))
        (emitter.sentTo target) := rfl
  rw [start, fromResult, ofExcept_bind_apply, targetTexts]
  cases shifted : shiftedTarget emitter.options.toolOffset target with
  | error fault => rfl
  | ok point =>
      exact axisWords_run point (linearLine feed) (emitter.sentTo target)

theorem word_feed (feed : Option Float) (force : Bool) (emitter : Emitter) :
    word .f feed force emitter =
      .ok (emitter.slots.offer .f (feed.map feedText) force)
        (emitter.withSlots (emitter.slots.accept .f (feed.map feedText))) := by
  rw [word_run]
  cases feed <;> rfl

/-- The feed rate alone, where it is new. -/
def feedLines (emitter : Emitter) (feed : Option String) : List Line :=
  match emitter.slots.offer .f feed false with
  | some word => (emitter.writer.commandLine? [some "G1", some word] none).toList
  | none => []

/-- The axes that are offered have their words on the line. -/
theorem linearLine_offered (emitter : Emitter) (feed : Option Float)
    (offered : ∃ axis, (emitter.slots.offerAxis texts axis).isSome) :
    linearLine feed (emitter.slots.offerAxis texts .x) (emitter.slots.offerAxis texts .y)
        (emitter.slots.offerAxis texts .z) (emitter.accepted texts Axis.all) =
      .ok () ((emitter.withSlots ((emitter.slots.acceptAxes texts Axis.all).accept .f
        (feed.map feedText))).commanded
          (some "G1" :: straightWords emitter.slots texts Axis.all (feed.map feedText)) none) := by
  have some' : ((emitter.slots.offerAxis texts .x).isSome ||
      (emitter.slots.offerAxis texts .y).isSome || (emitter.slots.offerAxis texts .z).isSome) =
      true := by
    obtain ⟨axis, found⟩ := offered
    cases axis <;> simp [found]
  unfold linearLine
  rw [if_pos some']
  refine (bind_of_ok (word_feed feed true _)).trans ?_
  rw [Slots.offer_forced]
  rfl

/-- Where no axis is offered, the feed rate has a line of its own if it is new. -/
theorem linearLine_unoffered (emitter : Emitter) (feed : Option Float)
    (unoffered : ∀ axis, emitter.slots.offerAxis texts axis = none) :
    linearLine feed (emitter.slots.offerAxis texts .x) (emitter.slots.offerAxis texts .y)
        (emitter.slots.offerAxis texts .z) (emitter.accepted texts Axis.all) =
      match emitter.slots.offer .f (feed.map feedText) false with
      | none => .ok () emitter
      | some token => .ok () ((emitter.withSlots
          (emitter.slots.accept .f (feed.map feedText))).commanded
            [some "G1", some token] none) := by
  have run : linearLine feed none none none emitter =
      (do if (emitter.slots.offer .f (feed.map feedText) false).isSome then
            command [some "G1", emitter.slots.offer .f (feed.map feedText) false])
        (emitter.withSlots (emitter.slots.accept .f (feed.map feedText))) :=
    bind_of_ok (word_feed feed false emitter)
  rw [unoffered, unoffered, unoffered, accepted_of_unoffered fun axis _ => unoffered axis, run]
  cases offered : emitter.slots.offer .f (feed.map feedText) false with
  | none =>
      rw [Slots.accept_of_unoffered offered]
      rfl
  | some token => rfl

theorem linearLine_moved (emitter : Emitter) (numbers : Slots.AreNumbers texts)
    (feed : Option Float) (offered : ∃ axis, (emitter.slots.offerAxis texts axis).isSome) :
    ∃ lines after, linearLine feed (emitter.slots.offerAxis texts .x)
        (emitter.slots.offerAxis texts .y) (emitter.slots.offerAxis texts .z)
        (emitter.accepted texts Axis.all) = .ok () after ∧
      TellsInPlane emitter after lines ∧ MovesAxes emitter after texts Axis.all lines ∧
      after.slots.get .f = (feed.map feedText <|> emitter.slots.get .f) := by
  have tells := tells_straight emitter none (by decide : isMove "G1".toList = true)
    (by decide : Axis.all.Nodup) numbers fun _ => feedText_isNumberText feed
  refine ⟨_, _, linearLine_offered emitter feed offered, tells,
    ⟨tells.toTells, position_line .., ?_, ?_⟩, ?_⟩
  · intro axis
    rw [slots_commanded, slots_withSlots,
      Slots.get_accept_of_ne _ _ _ (Axis.f_ne_letter axis).symm]
  · intro axis
    exact gives_straight emitter.writer emitter.slots Axis.all none (by decide) numbers
      (fun _ => feedText_isNumberText feed) axis
  · rw [slots_commanded, slots_withSlots, Slots.get_accept, if_pos rfl,
      Slots.get_acceptAxes_of_ne _ _ _ fun axis _ => Axis.f_ne_letter axis]

theorem tells_feedAlone (emitter : Emitter) (numbers : Slots.AreNumbers texts) {text : String}
    (number : Decimal.IsNumberText text)
    (unoffered : ∀ axis, emitter.slots.offerAxis texts axis = none) :
    TellsInPlane emitter
        ((emitter.withSlots (emitter.slots.accept .f (some text))).commanded
          [some "G1", some (Letter.f.name ++ text)] none)
        (emitter.writer.commandLine? [some "G1", some (Letter.f.name ++ text)] none).toList ∧
      MovesAxes emitter
        ((emitter.withSlots (emitter.slots.accept .f (some text))).commanded
          [some "G1", some (Letter.f.name ++ text)] none) texts Axis.all
        (emitter.writer.commandLine? [some "G1", some (Letter.f.name ++ text)] none).toList := by
  have feedNumber : ∀ other, some text = some other → Decimal.IsNumberText other := by
    intro other same
    cases same
    exact number
  have tells := tells_straight emitter none (by decide : isMove "G1".toList = true)
    List.nodup_nil numbers feedNumber
  have alone : straightWords emitter.slots texts [] (some text) =
      [some (Letter.f.name ++ text)] := rfl
  rw [alone, Slots.acceptAxes] at tells
  refine ⟨tells, tells.toTells, position_line .., fun axis => ?_, fun axis => ?_⟩
  · rw [Slots.acceptAxes_of_unoffered fun axis _ => unoffered axis, slots_commanded,
      slots_withSlots, Slots.get_accept_of_ne _ _ _ (Axis.f_ne_letter axis).symm]
  · have given := gives_straight emitter.writer emitter.slots [] none
      (by decide : isMove "G1".toList = true) numbers feedNumber axis
    refine given.trans ?_
    simp [unoffered]

theorem linearLine_still (emitter : Emitter) (numbers : Slots.AreNumbers texts)
    (feed : Option Float)
    (unoffered : ∀ axis, emitter.slots.offerAxis texts axis = none) :
    ∃ after, linearLine feed (emitter.slots.offerAxis texts .x)
        (emitter.slots.offerAxis texts .y) (emitter.slots.offerAxis texts .z)
        (emitter.accepted texts Axis.all) = .ok () after ∧
      TellsInPlane emitter after (emitter.feedLines (feed.map feedText)) ∧
      MovesAxes emitter after texts Axis.all (emitter.feedLines (feed.map feedText)) ∧
      after.slots.get .f = (feed.map feedText <|> emitter.slots.get .f) := by
  have kept := Slots.get_accept emitter.slots .f (feed.map feedText) .f
  rw [if_pos rfl] at kept
  rw [linearLine_unoffered emitter feed unoffered, feedLines]
  cases offered : emitter.slots.offer .f (feed.map feedText) false with
  | none =>
      rw [Slots.accept_of_unoffered offered] at kept ⊢
      exact ⟨emitter, rfl, tells_of_writer_eq rfl (.inl rfl) rfl,
        movesAxes_nothing fun axis _ => unoffered axis, kept⟩
  | some token =>
      obtain ⟨text, shown, rfl⟩ := Slots.offer_eq_some offered
      rw [shown] at kept ⊢
      obtain ⟨tells, moves⟩ :=
        tells_feedAlone emitter numbers (feedText_isNumberText feed shown) unoffered
      refine ⟨(emitter.withSlots (emitter.slots.accept .f (some text))).commanded
        [some "G1", some (Letter.f.name ++ text)] none, rfl, tells, moves, ?_⟩
      rw [slots_commanded, slots_withSlots]
      exact kept

/-- A straight cut moves its axes or fails beforehand. If none of them has a new text,
at most the feed rate is written. -/
theorem linear_outcome (target : Coordinates (Option Float)) (feed : Option Float)
    (emitter : Emitter) :
    (∃ fault, emitter.targetTexts target = .error fault ∧
      linear target feed emitter = .error fault (emitter.sentTo target)) ∨
    ∃ texts lines after, linear target feed emitter = .ok () after ∧
      emitter.targetTexts target = .ok texts ∧
      TellsInPlane (emitter.sentTo target) after lines ∧
      MovesAxes (emitter.sentTo target) after texts Axis.all lines ∧
      after.slots.get .f = (feed.map feedText <|> emitter.slots.get .f) ∧
      ((∀ axis, emitter.slots.offerAxis texts axis = none) →
        lines = emitter.feedLines (feed.map feedText)) := by
  have run := linear_run target feed emitter
  cases shown : emitter.targetTexts target with
  | error fault =>
      rw [shown] at run
      exact .inl ⟨fault, rfl, run⟩
  | ok texts =>
      rw [shown] at run
      by_cases offered : ∃ axis, (emitter.slots.offerAxis texts axis).isSome
      · obtain ⟨lines, after, ended, tells, moves, fed⟩ :=
          linearLine_moved (emitter.sentTo target) (axisNumbers shown) feed offered
        refine .inr ⟨texts, lines, after, run.trans ended, rfl, tells, moves, fed,
          fun unoffered => ?_⟩
        obtain ⟨axis, found⟩ := offered
        rw [unoffered axis] at found
        cases found
      · have unoffered : ∀ axis, emitter.slots.offerAxis texts axis = none := by
          intro axis
          by_contra found
          exact offered ⟨axis, Option.isSome_iff_ne_none.mpr found⟩
        obtain ⟨after, ended, tells, moves, fed⟩ :=
          linearLine_still (emitter.sentTo target) (axisNumbers shown) feed unoffered
        exact .inr ⟨texts, _, after, run.trans ended, rfl, tells, moves, fed,
          fun _ => rfl⟩

theorem linear_moves {target : Coordinates (Option Float)} {feed : Option Float} {after : Emitter}
    (returned : linear target feed emitter = .ok () after) :
    ∃ texts lines, emitter.targetTexts target = .ok texts ∧
      MovesAxes (emitter.sentTo target) after texts Axis.all lines ∧
      after.slots.get .f = (feed.map feedText <|> emitter.slots.get .f) ∧
      ((∀ axis, emitter.slots.offerAxis texts axis = none) →
        lines = emitter.feedLines (feed.map feedText)) := by
  rcases linear_outcome target feed emitter with
    ⟨fault, -, failed⟩ | ⟨texts, lines, reached, ended, shown, -, moves, fed, still⟩
  · cases returned.symm.trans failed
  · cases returned.symm.trans ended
    exact ⟨texts, lines, shown, moves, fed, still⟩

theorem keeps_linear (target : Coordinates (Option Float)) (feed : Option Float) :
    Keeps options ToldInPlane (linear target feed) := by
  intro emitter _
  have sent := told_sentTo emitter target
  rcases linear_outcome target feed emitter with
    ⟨fault, -, failed⟩ | ⟨_, lines, _, ended, -, tells, -⟩
  · rw [leaves_of_error failed]
    exact ⟨[], sent⟩
  · rw [leaves_of_ok ended]
    exact ⟨[] ++ lines, sent.trans tells⟩

theorem keeps_linearThrough (feed : Option Float) (points : List (Coordinates Float)) :
    Keeps options ToldInPlane (linearThrough feed points) := by
  induction points with
  | nil => exact Keeps.nothing toldInPlane_progress ()
  | cons point rest ih =>
      exact Keeps.chain toldInPlane_progress (keeps_linear _ feed) fun _ => ih

theorem keeps_noticing {α : Type} (action : EStateM Fault (Array Notice) α) :
    Keeps options Idle (noticing action) := by
  intro emitter _
  unfold leaves noticing
  cases action emitter.notices <;> exact ⟨[], idles_nothing rfl (.inl rfl) rfl rfl rfl rfl⟩

theorem keeps_chordedArc (move : ArcMove) (start axis : Coordinates Float) :
    Keeps options ToldInPlane (chordedArc move start axis) :=
  Keeps.inspect fun _ _ =>
    Keeps.chain toldInPlane_progress (keepsInPlane_of_idle (keeps_noticing _)) fun _ =>
      Keeps.chain toldInPlane_progress (keepsInPlane_of_idle (keeps_notify _)) fun _ =>
        keeps_linearThrough _ _

end Emitter

end GantryCode
