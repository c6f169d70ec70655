import GantryCode.Proofs.MotionForms
import GantryCode.Proofs.WrittenNumbers

namespace GantryCode

/-! The lines with which an event moves the tool.

Which forms they have depends on the event. Rapid moves, cuts and arcs are written in lines of
their own forms and nothing else; startup and shutdown have other lines beside their moves.
-/

open Decimal (IsFinite)

/-- The forms of the lines that an event moves the tool with. -/
inductive Event.Takes : Event → Form → Prop where
  | level (target : Coordinates (Option Float)) : Takes (.rapid target) .level
  | height (target : Coordinates (Option Float)) : Takes (.rapid target) .height
  | cut (target : Coordinates (Option Float)) (feed : Option Float) :
      Takes (.linear target feed) .cut
  | arc {move : ArcMove} {plane : Plane} (inPlane : move.plane = some plane) :
      Takes (.circular move) (.arc plane)
  | chord {move : ArcMove} (noPlane : move.plane = none) : Takes (.circular move) .cut
  | usualPlane : Takes .endSection .plane
  | startHome (facts : Section) (axis : Axis) : Takes (.startSection facts) (.home axis)
  | startPlane (facts : Section) : Takes (.startSection facts) .plane
  | startRate (facts : Section) : Takes (.startSection facts) .rate
  | startHeight (facts : Section) : Takes (.startSection facts) .height
  | endHeight : Takes .endRun .height
  | endRate : Takes .endRun .rate
  | endHome : Takes .endRun (.home .x)
  | endPlace : Takes .endRun .level

/-- The events that are more than a move: they switch the laser and announce things. -/
def Event.announces : Event → Bool
  | .startSection _ | .endRun => true
  | _ => false

/-- The events that move the tool, or may do so. -/
def Event.movesTool : Event → Bool
  | .rapid _ | .linear .. | .circular _ | .endSection | .startSection _ | .endRun => true
  | _ => false

/-- The event gives a feed rate, if it is one that has to. -/
def Event.IsFed : Event → Prop
  | .linear _ feed => feed.isSome
  | .circular move => move.feed.isSome
  | _ => True

/-- Lines of startup and shutdown that do not move the tool: the laser is switched off, the
dialect has a command for some feature, the display shows a text, or it is a comment. -/
inductive Options.IsAside (options : Options) : Line → Prop where
  | laser (number : Option Nat) (note : Option String) :
      IsAside options (.command number (commandBody [some options.cutterOff]) note)
  | feature (target : Target) {feature : Feature} (among : feature ∈ Feature.commands)
      (number : Option Nat) (note : Option String) :
      IsAside options (.command number (commandBody [target.code? feature]) note)
  | display {target : Target} {message : String}
      (shown : target.code? .statusMessage = some message) (text : String) (number : Option Nat) :
      IsAside options (.command number (commandBody [some message, some (Remark.clean text)]) none)
  | comment (text : Option String) : IsAside options (.ofComment text)

namespace Options.WritesFinite

variable {options : Options}

theorem level (finite : options.WritesFinite) :
    ∀ rate, options.rapidFeedXY.toFloat .text = .ok rate → IsFinite rate :=
  finite _ (by simp [rapidFeeds])

theorem height (finite : options.WritesFinite) :
    ∀ rate, options.rapidFeedZ.toFloat .text = .ok rate → IsFinite rate :=
  finite _ (by simp [rapidFeeds])

end Options.WritesFinite

namespace Emitter

open Emission Reading

variable {options : Options} {emitter before after : Emitter} {event : Event} {form : Form}
  {target : Coordinates (Option Float)} {texts : Coordinates (Option String)} {rate : Float}

/-- The decimal places of the numbers that are written. -/
def places (emitter : Emitter) : Nat :=
  emitter.writer.precision.toNat

/-- What is written in between is a line of one of the event's forms, or an aside where the
event has those. -/
def Adds (event : Event) (before after : Emitter) : Prop :=
  ∃ lines, Writes before after lines ∧ ∀ line ∈ lines,
    (∃ form, event.Takes form ∧ form.Shows before.places line) ∨
      event.announces = true ∧ before.options.IsAside line

theorem Adds.of_writes {line : Option Line} (takes : event.Takes form)
    (writes : Writes before after line.toList)
    (shown : ∀ moving ∈ line, form.Shows before.places moving) : Adds event before after :=
  ⟨_, writes, fun moving member => .inl ⟨form, takes, shown moving (Option.mem_toList.mp member)⟩⟩

theorem Adds.nothing (same : Writes before after []) : Adds event before after :=
  ⟨[], same, by simp⟩

theorem Adds.trans {middle : Emitter} (start : Adds event before middle)
    (later : Adds event middle after) : Adds event before after := by
  obtain ⟨lines, writes, shown⟩ := start
  obtain ⟨more, writesMore, shownMore⟩ := later
  have same : middle.places = before.places := congrArg Int.toNat writes.precision
  refine ⟨lines ++ more, writes.trans writesMore, fun line member => ?_⟩
  rcases List.mem_append.mp member with early | late
  · exact shown line early
  · rw [← same, ← writes.options]
    exact shownMore line late

theorem adds_progress (event : Event) : Progress (Adds event) where
  refl := fun emitter => .nothing (.refl emitter)
  trans := Adds.trans
  serves := fun ⟨_, writes, _⟩ serves => writes.serves serves

/-- What is done after another thing adds no more than the two of them. -/
theorem Adds.bind {α β : Type} {action : Emission α} {next : α → Emission β}
    (first : Adds event emitter (leaves action emitter))
    (later : ∀ result after, action emitter = .ok result after → Adds event emitter after →
      Adds event after (leaves (next result) after)) :
    Adds event emitter (leaves (action >>= next) emitter) := by
  cases ended : action emitter with
  | error fault after =>
      rw [leaves_of_error ended] at first
      rw [leaves_of_error (bind_of_error ended)]
      exact first
  | ok result after =>
      rw [leaves_of_ok ended] at first
      rw [leaves, bind_of_ok ended]
      exact first.trans (later result after ended first)

section Moves

theorem writes_sentTo (emitter : Emitter) (target : Coordinates (Option Float)) :
    Writes emitter (emitter.sentTo target) [] :=
  (told_sentTo emitter target).toWrites

/-- A command behind words that were offered for it. -/
theorem writes_move (emitter : Emitter) (slots : Slots) {given : List (Option String)}
    (makes : form.Makes emitter.places given) (note : Option String) :
    ∃ line : Option Line,
      Writes emitter ((emitter.withSlots slots).commanded given note) line.toList ∧
      ∀ shown ∈ line, form.Shows emitter.places shown := by
  have slotted : Writes emitter (emitter.withSlots slots) [] :=
    (Writes.refl emitter).withSlots slots
  exact ⟨_, slotted.trans (writes_command _ given note), makes.shows _ note⟩

/-- The word of an axis is a word at the places of the emitter, if it is not left out. -/
theorem isWordOf_offered (shown : emitter.targetTexts target = .ok texts)
    (finite : ∀ value, Sends emitter.options.toolOffset target value → IsFinite value)
    (slots : Slots) (axis : Axis) :
    ∀ token ∈ slots.offerAxis texts axis, IsWordOf emitter.places axis.letter token := by
  intro token offered
  obtain ⟨text, present, rfl⟩ := Slots.offer_eq_some offered
  obtain ⟨point, shifted, written⟩ := targetTexts_point shown
  have each := Writer.axisTexts_get written axis
  have fraction : axis.letter.isWhole = false := by cases axis <;> rfl
  cases sent : point.get axis with
  | none =>
      rw [sent, present] at each
      cases each
  | some value =>
      rw [sent, present, Option.mapM_some, Writer.valueText_places] at each
      cases possible : emitter.writer.precisionFault? with
      | some fault => simp [possible] at each
      | none =>
          rw [possible] at each
          cases each
          exact .of_rounded fraction (finite value ⟨point, axis, shifted, sent⟩)

/-- The line of a rapid move is of the form that its words make. -/
theorem writes_rapidLine (emitter : Emitter) (form : Form) (words : List (Option String))
    {feed : Quantity} (note : Option String)
    (makes : ∀ rate, feed.toFloat .text = .ok rate →
      form.Makes emitter.places (some "G0" :: (words ++ [some (feedWord rate)]))) :
    ∃ line : Option Line, Writes emitter (leaves (rapidLine words feed note) emitter) line.toList ∧
      ∀ shown ∈ line, form.Shows emitter.places shown := by
  have run := rapidLine_run words feed note emitter
  cases rated : feed.toFloat .text with
  | error fault =>
      rw [rated] at run
      rw [leaves_of_error run]
      exact ⟨none, .refl emitter, by simp⟩
  | ok rate =>
      rw [rated] at run
      rw [leaves_of_ok run]
      exact writes_move emitter _ (makes rate rated) note

theorem makes_level {places : Nat} (x y : Option String) (moves : (x.isSome || y.isSome) = true)
    (spelledX : ∀ token ∈ x, IsWordOf places .x token)
    (spelledY : ∀ token ∈ y, IsWordOf places .y token) (finite : IsFinite rate) :
    Form.level.Makes places [some "G0", x, y, some (feedWord rate)] := by
  obtain ⟨kept, among, spelled⟩ := IsWordOf.of_present [.x, .y] [x, y]
    (.cons spelledX (.cons spelledY .nil))
  have nonempty : kept ≠ [] := by
    rintro rfl
    cases x <;> cases y <;> simp_all
  refine ⟨_, _, _, .level nonempty among, List.rel_append spelled (.cons (.feedWord finite) .nil),
    ?_⟩
  cases x <;> cases y <;> rfl

theorem makes_height {places : Nat} {token : String} (spelled : IsWordOf places .z token)
    (finite : IsFinite rate) :
    Form.height.Makes places [some "G0", some token, some (feedWord rate)] :=
  ⟨_, _, _, .height, .cons spelled (.cons (.feedWord finite) .nil), rfl⟩

theorem makes_rate (places : Nat) (finite : IsFinite rate) :
    Form.rate.Makes places [some "G0", some (feedWord rate)] :=
  ⟨_, _, _, .rate, .cons (.feedWord finite) .nil, rfl⟩

theorem makes_plane (places : Nat) : Form.plane.Makes places [some Plane.xy.code] :=
  ⟨_, _, _, .plane, .nil, rfl⟩

theorem makes_cut (places : Nat) {x y z : Option String}
    (spelledX : ∀ token ∈ x, IsWordOf places .x token)
    (spelledY : ∀ token ∈ y, IsWordOf places .y token)
    (spelledZ : ∀ token ∈ z, IsWordOf places .z token) (finite : IsFinite rate) :
    Form.cut.Makes places [some "G1", x, y, z, some (feedWord rate)] := by
  obtain ⟨kept, among, spelled⟩ := IsWordOf.of_present [.x, .y, .z] [x, y, z]
    (.cons spelledX (.cons spelledY (.cons spelledZ .nil)))
  refine ⟨_, _, _, .cut among, List.rel_append spelled (.cons (.feedWord finite) .nil), ?_⟩
  cases x <;> cases y <;> cases z <;> rfl

/-- A part of a rapid move, where one of its axes has a new text. -/
theorem writes_part (emitter : Emitter) (form : Form) (condition : Prop) [Decidable condition]
    (words : List (Option String)) (feed : Quantity)
    (makes : condition → ∀ rate, feed.toFloat .text = .ok rate →
      form.Makes emitter.places (some "G0" :: (words ++ [some (feedWord rate)]))) :
    ∃ line : Option Line,
      Writes emitter (leaves (if condition then rapidLine words feed else pure ()) emitter)
        line.toList ∧
      ∀ shown ∈ line, form.Shows emitter.places shown := by
  split
  · next moves => exact writes_rapidLine emitter form words none (makes moves)
  · exact ⟨none, .refl emitter, by simp⟩

theorem writes_rapidLines (emitter : Emitter) {x y z : Option String}
    (finite : options.WritesFinite)
    (spelledX : ∀ token ∈ x, IsWordOf emitter.places .x token)
    (spelledY : ∀ token ∈ y, IsWordOf emitter.places .y token)
    (spelledZ : ∀ token ∈ z, IsWordOf emitter.places .z token) :
    ∃ level height : Option Line,
      Writes emitter (leaves (rapidLines options x y z) emitter) (level.toList ++ height.toList) ∧
      (∀ line ∈ level, Form.level.Shows emitter.places line) ∧
      ∀ line ∈ height, Form.height.Shows emitter.places line := by
  rw [rapidLines_eq]
  obtain ⟨level, first, shown⟩ := writes_part emitter .level ((x.isSome || y.isSome) = true) [x, y]
    options.rapidFeedXY fun moves rate found =>
      makes_level x y moves spelledX spelledY (finite.level rate found)
  cases ended : (if x.isSome || y.isSome then rapidLine [x, y] options.rapidFeedXY
      else pure ()) emitter with
  | error fault middle =>
      rw [leaves_of_error ended] at first
      rw [leaves_of_error (bind_of_error ended)]
      exact ⟨level, none, by simpa using first, shown, by simp⟩
  | ok done middle =>
      rw [leaves_of_ok ended] at first
      rw [leaves, bind_of_ok ended]
      have same : middle.places = emitter.places := congrArg Int.toNat first.precision
      obtain ⟨height, second, shownToo⟩ := writes_part middle .height (z.isSome = true) [z]
        options.rapidFeedZ fun moves rate found => by
          obtain ⟨token, rfl⟩ := Option.isSome_iff_exists.mp moves
          rw [same]
          exact makes_height (spelledZ token rfl) (finite.height rate found)
      rw [same] at shownToo
      exact ⟨level, height, first.trans second, shown, shownToo⟩

/-- A rapid move is written in at most two lines, and that of the height comes last. -/
theorem writes_rapid (finiteOptions : emitter.options.WritesFinite)
    (finite : ∀ value, Sends emitter.options.toolOffset target value → IsFinite value) :
    ∃ level height : Option Line,
      Writes emitter (leaves (rapid target) emitter) (level.toList ++ height.toList) ∧
      (∀ line ∈ level, Form.level.Shows emitter.places line) ∧
      ∀ line ∈ height, Form.height.Shows emitter.places line := by
  have run := rapid_run target emitter
  cases shown : emitter.targetTexts target with
  | error fault =>
      rw [shown] at run
      rw [leaves_of_error run]
      exact ⟨none, none, writes_sentTo emitter target, by simp, by simp⟩
  | ok texts =>
      rw [shown] at run
      rw [leaves_of_eq run]
      have spelled := isWordOf_offered shown finite emitter.slots
      obtain ⟨level, height, writes, shownLevel, shownHeight⟩ := writes_rapidLines
        ((emitter.sentTo target).accepted texts Axis.all) finiteOptions (spelled .x) (spelled .y)
        (spelled .z)
      exact ⟨level, height, ((writes_sentTo emitter target).withSlots _).trans writes, shownLevel,
        shownHeight⟩

theorem writes_linearLine (emitter : Emitter) {x y z : Option String} (finite : IsFinite rate)
    (spelledX : ∀ token ∈ x, IsWordOf emitter.places .x token)
    (spelledY : ∀ token ∈ y, IsWordOf emitter.places .y token)
    (spelledZ : ∀ token ∈ z, IsWordOf emitter.places .z token) :
    ∃ line : Option Line,
      Writes emitter (leaves (linearLine (some rate) x y z) emitter) line.toList ∧
      ∀ shown ∈ line, Form.cut.Shows emitter.places shown := by
  have offered (force : Bool) := word_feed (some rate) force emitter
  unfold linearLine
  split
  · have run : (do command [some "G1", x, y, z, ← word .f (some rate) true]) emitter =
        .ok () ((emitter.withSlots (emitter.slots.accept .f (some (feedText rate)))).commanded
          [some "G1", x, y, z, some (feedWord rate)] none) :=
      (bind_of_ok (offered true)).trans (by rw [Slots.offer_forced]; rfl)
    rw [leaves_of_ok run]
    exact writes_move emitter _ (makes_cut _ spelledX spelledY spelledZ finite) none
  · rw [leaves, bind_of_ok (offered false)]
    cases new : emitter.slots.offer .f ((some rate).map feedText) false with
    | none => exact ⟨none, (Writes.refl emitter).withSlots _, by simp⟩
    | some token =>
        obtain ⟨text, ⟨⟩, rfl⟩ := Slots.offer_eq_some new
        have unspelled (letter : Letter) :
            ∀ token ∈ (none : Option String), IsWordOf emitter.places letter token := by simp
        exact writes_move emitter _
          (makes_cut _ (unspelled .x) (unspelled .y) (unspelled .z) finite) none

theorem writes_linear
    (finite : ∀ value, Sends emitter.options.toolOffset target value → IsFinite value)
    (finiteRate : IsFinite rate) :
    ∃ line : Option Line,
      Writes emitter (leaves (linear target (some rate)) emitter) line.toList ∧
      ∀ shown ∈ line, Form.cut.Shows emitter.places shown := by
  have run := linear_run target (some rate) emitter
  cases shown : emitter.targetTexts target with
  | error fault =>
      rw [shown] at run
      rw [leaves_of_error run]
      exact ⟨none, writes_sentTo emitter target, by simp⟩
  | ok texts =>
      rw [shown] at run
      rw [leaves_of_eq run]
      have spelled := isWordOf_offered shown finite emitter.slots
      obtain ⟨line, writes, shownLine⟩ := writes_linearLine
        ((emitter.sentTo target).accepted texts Axis.all) finiteRate (spelled .x) (spelled .y)
        (spelled .z)
      exact ⟨line, ((writes_sentTo emitter target).withSlots _).trans writes, shownLine⟩

theorem adds_linearThrough {points : List (Coordinates Float)} (takes : event.Takes .cut)
    (finite : ∀ point ∈ points, ∀ value,
      Sends emitter.options.toolOffset (point.map some) value → IsFinite value)
    (finiteRate : IsFinite rate) :
    Adds event emitter (leaves (linearThrough (some rate) points) emitter) := by
  induction points generalizing emitter with
  | nil => exact .nothing (.refl emitter)
  | cons point rest ih =>
      obtain ⟨line, writes, shown⟩ := writes_linear (finite point (by simp)) finiteRate
      refine Adds.bind (.of_writes takes writes shown) fun _ after _ reached => ?_
      obtain ⟨_, same, -⟩ := reached
      refine ih fun other member => ?_
      rw [same.options]
      exact finite other (by simp [member])

end Moves

section Arcs

variable {move : ArcMove} {plane : Plane} {start offsets finish : Coordinates Float}

theorem makes_arc (finiteEnd : ∀ axis : Axis, IsFinite (finish.get axis))
    (finiteCenter : ∀ axis ∈ plane.axes, IsFinite (offsets.get axis))
    (fed : move.feed = some rate) (finiteRate : IsFinite rate) :
    (Form.arc plane).Makes emitter.places (emitter.slots.offerPlane plane :: some (arcCode move) ::
      emitter.arcWords move plane offsets finish) := by
  have ends (axis : Axis) : ∀ token ∈ emitter.slots.offerAxis (emitter.arcTexts finish) axis,
      IsWordOf emitter.places axis.letter token := by
    intro token offered
    obtain ⟨text, present, rfl⟩ := Slots.offer_eq_some offered
    rw [arcTexts, Coordinates.get_map] at present
    cases present
    exact .of_rounded (by cases axis <;> rfl) (finiteEnd axis)
  have centers : List.Forall₂ (IsWordOf emitter.places) plane.offsetLetters
      ((Slots.forcedWords (emitter.centerFigures offsets plane.axes)).filterMap id) := by
    have present : (Slots.forcedWords (emitter.centerFigures offsets plane.axes)).filterMap id =
        plane.axes.map fun axis =>
          axis.offsetLetter.name ++ emitter.placesText (offsets.get axis) := by
      simp [Slots.forcedWords, centerFigures, List.filterMap_map, Function.comp_def]
    rw [present, Plane.offsetLetters, List.forall₂_map_left_iff, List.forall₂_map_right_iff,
      List.forall₂_same]
    exact fun axis among => .of_rounded (by cases axis <;> rfl) (finiteCenter axis among)
  obtain ⟨kept, among, spelled⟩ := IsWordOf.of_present (Axis.all.map Axis.letter)
    (Axis.all.map (emitter.slots.offerAxis (emitter.arcTexts finish)))
    (.cons (ends .x) (.cons (ends .y) (.cons (ends .z) .nil)))
  have selects : (emitter.slots.offerPlane plane).toList.Sublist [plane.code] := by
    rcases offerPlane_cases emitter.slots plane with ⟨-, left⟩ | ⟨-, written⟩
    · rw [left]
      exact List.nil_sublist _
    · rw [written]
      exact List.Sublist.refl _
  refine ⟨_, _, _, .arc selects move.clockwise among,
    List.rel_append (List.rel_append spelled centers) (.cons (.feedWord finiteRate) .nil), ?_⟩
  rw [arcWords, fed]
  cases emitter.slots.offerPlane plane <;>
    simp [arcCode, feedWord, List.filterMap_append]

theorem adds_arcLine (inPlane : move.plane = some plane)
    (makes : (Form.arc plane).Makes emitter.places (emitter.slots.offerPlane plane ::
      some (arcCode move) :: emitter.arcWords move plane offsets finish)) :
    Adds (.circular move) emitter (leaves (arcLine move plane offsets finish) emitter) := by
  have run := arcLine_run move plane offsets finish emitter
  cases possible : emitter.writer.precisionFault? with
  | some fault =>
      rw [possible] at run
      rw [leaves_of_error run]
      exact .nothing ((Writes.refl emitter).withSlots _)
  | none =>
      rw [possible] at run
      rw [leaves_of_ok run]
      obtain ⟨line, writes, shown⟩ := writes_move emitter _ makes none
      exact .of_writes (.arc inPlane) writes shown

theorem adds_planarArc (inPlane : move.plane = some plane) (fed : move.feed = some rate)
    (finite : ∀ value, Bends emitter.options.toolOffset move start plane value → IsFinite value) :
    Adds (.circular move) emitter (leaves (planarArc move start plane) emitter) := by
  have run := planarArc_run move start plane emitter
  have sent : Adds (.circular move) emitter (emitter.sentTo (move.finish.map some)) :=
    .nothing (writes_sentTo emitter _)
  cases figures : emitter.arcFigures move start with
  | error fault =>
      rw [figures] at run
      rw [leaves_of_error run]
      exact sent
  | ok both =>
      obtain ⟨offsets, finish⟩ := both
      have cut : planarArc move start plane emitter =
          arcLine move plane offsets finish (emitter.sentTo (move.finish.map some)) := by
        rw [run, figures]
      rw [leaves_of_eq cut]
      obtain ⟨center, begin, centered, begun, ended, rfl⟩ := arcFigures_ok figures
      refine sent.trans (adds_arcLine inPlane
        (makes_arc (fun axis => ?_) (fun axis among => ?_) fed ?_))
      · exact finite _ (.finish axis ended)
      · rw [Coordinates.get_zipWith]
        exact finite _ (.center among centered begun)
      · exact finite _ (.feed fed)

/-- An arc is one line in its plane or a row of straight cuts. -/
theorem adds_circular (fed : move.feed.isSome)
    (finite : ∀ value, emitter.Asks (.circular move) value → IsFinite value) :
    Adds (.circular move) emitter (leaves (circular move) emitter) := by
  obtain ⟨rate, given⟩ := Option.isSome_iff_exists.mp fed
  have started (next : Coordinates Float → Emission Unit)
      (later : ∀ start, (move.start <|> emitter.position.complete?) = some start →
        Adds (.circular move) emitter (leaves (next start) emitter)) :
      Adds (.circular move) emitter (leaves (startPoint move.start >>= next) emitter) := by
    have run := startPoint_run move.start emitter
    cases begun : move.start <|> emitter.position.complete? with
    | none =>
        rw [begun] at run
        rw [leaves_of_error (bind_of_error run)]
        exact .nothing (.refl emitter)
    | some start =>
        rw [begun] at run
        rw [leaves, bind_of_ok run]
        exact later start begun
  unfold circular
  cases inPlane : move.plane with
  | some plane =>
      exact started _ fun start begun =>
        adds_planarArc inPlane given fun value bent => finite value (.planar inPlane begun bent)
  | none =>
      cases turned : move.axis with
      | none => exact .nothing (.refl emitter)
      | some axis =>
          refine started _ fun start begun => ?_
          obtain ⟨notices, run⟩ := chordedArc_run move start axis emitter
          have noticed : Adds (.circular move) emitter { emitter with notices } :=
            .nothing ⟨⟨rfl, .inl rfl, rfl⟩, by simp⟩
          cases divided : chordPoints emitter.options move start axis with
          | error fault =>
              rw [divided] at run
              rw [leaves_of_error run]
              exact noticed
          | ok points =>
              rw [divided, given] at run
              rw [leaves_of_eq run]
              refine noticed.trans (adds_linearThrough (.chord inPlane)
                (fun point among value sent => ?_) (finite rate (.arcFeed given)))
              exact finite value (.chord inPlane turned begun divided among sent)

end Arcs

end Emitter

end GantryCode
