import GantryCode.Proofs.Motion

namespace GantryCode

/-! Arcs in a principal plane.

An arc is one line. In front of its code stands that of its plane, unless the slot of
the plane holds it; behind the words of the axes stand the two words of the center in
any case. The slot of the plane is filled before it is known whether the values can be
written, so an arc that is refused for the precision of the output leaves its plane
behind without a line.
-/

namespace Slots

def inPlane (slots : Slots) (plane : Plane) : Slots :=
  { slots with plane := some plane.code }

/-- The code of a plane, unless it is held. -/
def offerPlane (slots : Slots) (plane : Plane) : Option String :=
  if slots.plane = some plane.code then none else some plane.code

@[simp] theorem get_inPlane (slots : Slots) (plane : Plane) :
    (slots.inPlane plane).get = slots.get := by
  funext letter
  cases letter <;> rfl

/-- What is held once words were written in any case. -/
def acceptForced (slots : Slots) : List (Letter × String) → Slots
  | [] => slots
  | (letter, text) :: rest => (slots.accept letter (some text)).acceptForced rest

def forcedWords (figures : List (Letter × String)) : List (Option String) :=
  figures.map fun (letter, text) => some (letter.name ++ text)

variable (slots : Slots)

@[simp] theorem plane_acceptForced (figures : List (Letter × String)) :
    (slots.acceptForced figures).plane = slots.plane := by
  induction figures generalizing slots with
  | nil => rfl
  | cons figure rest ih => rw [acceptForced, ih, plane_accept]

theorem get_acceptForced_of_ne (figures : List (Letter × String)) {letter : Letter}
    (different : ∀ figure ∈ figures, letter ≠ figure.1) :
    (slots.acceptForced figures).get letter = slots.get letter := by
  induction figures generalizing slots with
  | nil => rfl
  | cons figure rest ih =>
      rw [acceptForced, ih _ fun other member => different other (by simp [member]),
        get_accept_of_ne slots _ _ (different figure (by simp))]

theorem foldl_forcedWords (figures : List (Letter × String)) :
    (forcedWords figures).foldl Registers.noteToken slots.get =
      (slots.acceptForced figures).get := by
  induction figures generalizing slots with
  | nil => rfl
  | cons figure rest ih =>
      have first := Registers.noteToken_offer slots figure.1 (some figure.2) true
      rw [offer_forced, Option.map_some] at first
      rw [forcedWords, List.map_cons, List.foldl_cons, first, acceptForced, ← ih]
      rfl

end Slots

namespace Emitter

open Emission Reading

variable {options : Options} {emitter : Emitter} {move : ArcMove} {plane : Plane}

/-- The center relative to the start, and the end, as the controller sees them. -/
def arcFigures (emitter : Emitter) (move : ArcMove) (start : Coordinates Float) :
    Except Fault (Coordinates Float × Coordinates Float) := do
  let center ← shifted emitter.options.toolOffset move.center
  let start ← shifted emitter.options.toolOffset start
  let finish ← shifted emitter.options.toolOffset move.finish
  return (center.zipWith (· - ·) start, finish)

def arcLine (move : ArcMove) (plane : Plane) (offsets finish : Coordinates Float) :
    Emission Unit := do
  let planeCode ← writing (Writer.planeCode plane.code false)
  let xWord ← word .x (some finish.x)
  let yWord ← word .y (some finish.y)
  let zWord ← word .z (some finish.z)
  let centerWords ← offsetWords offsets plane.axes
  let feedWord ← word .f move.feed true
  command ([planeCode, some (if move.clockwise then "G2" else "G3"), xWord, yWord, zWord] ++
    centerWords ++ [feedWord])

theorem planarArc_run (move : ArcMove) (start : Coordinates Float) (plane : Plane)
    (emitter : Emitter) :
    planarArc move start plane emitter =
      match emitter.arcFigures move start with
      | .ok (offsets, finish) =>
          arcLine move plane offsets finish (emitter.sentTo (move.finish.map some))
      | .error fault => .error fault (emitter.sentTo (move.finish.map some)) := by
  have begun : planarArc move start plane emitter =
      (do
        let center ← fromResult (shifted emitter.options.toolOffset move.center)
        let start ← fromResult (shifted emitter.options.toolOffset start)
        let finish ← fromResult (shifted emitter.options.toolOffset move.finish)
        arcLine move plane (center.zipWith (· - ·) start) finish)
        (emitter.sentTo (move.finish.map some)) := rfl
  rw [begun, arcFigures]
  simp only [fromResult]
  cases center : shifted emitter.options.toolOffset move.center with
  | error fault => rfl
  | ok center =>
      cases begin : shifted emitter.options.toolOffset start with
      | error fault => rfl
      | ok start =>
          cases finish : shifted emitter.options.toolOffset move.finish with
          | error fault => rfl
          | ok finish => rfl

theorem planeCode_run (plane : Plane) (emitter : Emitter) :
    writing (Writer.planeCode plane.code false) emitter =
      .ok (emitter.slots.offerPlane plane) (emitter.withSlots (emitter.slots.inPlane plane)) := by
  by_cases held : emitter.slots.plane = some plane.code
  · have same : emitter.slots.inPlane plane = emitter.slots := by
      rw [Slots.inPlane, ← held]
    have given : (!false && emitter.writer.slots.plane == some plane.code) = true := by
      simpa [slots] using held
    rw [same, withSlots_slots, Slots.offerPlane, if_pos held]
    simp only [writing, Writer.planeCode, get_bind_apply]
    rw [if_pos given]
    rfl
  · have missing : ¬(!false && emitter.writer.slots.plane == some plane.code) = true := by
      simpa [slots] using held
    rw [Slots.offerPlane, if_neg held]
    simp only [writing, Writer.planeCode, get_bind_apply]
    rw [if_neg missing]
    rfl

/-- The text of a value with decimal places, where the precision allows one. -/
def placesText (emitter : Emitter) (value : Float) : String :=
  Decimal.rounded emitter.writer.precision.toNat value

theorem valueText_of_possible (possible : emitter.writer.precisionFault? = none) (value : Float) :
    emitter.writer.valueText false value = .ok (emitter.placesText value) := by
  rw [Writer.valueText_places, possible]
  rfl

def centerFigures (emitter : Emitter) (offsets : Coordinates Float) (axes : List Axis) :
    List (Letter × String) :=
  axes.map fun axis => (axis.offsetLetter, emitter.placesText (offsets.get axis))

theorem offsetWords_run (emitter : Emitter) (possible : emitter.writer.precisionFault? = none)
    (offsets : Coordinates Float) (axes : List Axis) :
    offsetWords offsets axes emitter =
      .ok (Slots.forcedWords (emitter.centerFigures offsets axes))
        (emitter.withSlots (emitter.slots.acceptForced (emitter.centerFigures offsets axes))) := by
  induction axes generalizing emitter with
  | nil => rfl
  | cons axis rest ih =>
      have fraction : axis.offsetLetter.isWhole = false := by cases axis <;> rfl
      have first : word axis.offsetLetter (some (offsets.get axis)) true emitter =
          .ok (some (axis.offsetLetter.name ++ emitter.placesText (offsets.get axis)))
            (emitter.withSlots (emitter.slots.accept axis.offsetLetter
              (some (emitter.placesText (offsets.get axis))))) := by
        rw [word_run, fraction, Option.mapM_some, valueText_of_possible possible]
        exact congrArg (EStateM.Result.ok · _) (Slots.offer_forced emitter.slots _ _)
      rw [offsetWords]
      refine (bind_of_ok first).trans (bind_of_ok (ih _ ?_))
      exact possible

theorem axisTexts_of_possible (possible : emitter.writer.precisionFault? = none)
    (point : Coordinates Float) :
    emitter.writer.axisTexts (point.map some) =
      .ok (point.map fun value => some (emitter.placesText value)) := by
  simp [Writer.axisTexts, Coordinates.map, valueText_of_possible possible]
  rfl

def arcTexts (emitter : Emitter) (finish : Coordinates Float) : Coordinates (Option String) :=
  finish.map fun value => some (emitter.placesText value)

def arcSlots (emitter : Emitter) (move : ArcMove) (plane : Plane)
    (offsets finish : Coordinates Float) : Slots :=
  (((emitter.slots.inPlane plane).acceptAxes (emitter.arcTexts finish) Axis.all).acceptForced
    (emitter.centerFigures offsets plane.axes)).accept .f (move.feed.map feedText)

def arcWords (emitter : Emitter) (move : ArcMove) (plane : Plane)
    (offsets finish : Coordinates Float) : List (Option String) :=
  Axis.all.map (emitter.slots.offerAxis (emitter.arcTexts finish)) ++
    (Slots.forcedWords (emitter.centerFigures offsets plane.axes) ++
      [(move.feed.map feedText).map (Letter.f.name ++ ·)])

def arcCode (move : ArcMove) : String :=
  if move.clockwise then "G2" else "G3"

theorem arcLine_run (move : ArcMove) (plane : Plane) (offsets finish : Coordinates Float)
    (emitter : Emitter) :
    arcLine move plane offsets finish emitter =
      match emitter.writer.precisionFault? with
      | none => .ok ()
          ((emitter.withSlots (emitter.arcSlots move plane offsets finish)).commanded
            (emitter.slots.offerPlane plane :: some (arcCode move) ::
              emitter.arcWords move plane offsets finish) none)
      | some fault => .error fault (emitter.withSlots (emitter.slots.inPlane plane)) := by
  let rest (planeCode x y z : Option String) : Emission Unit := do
    let centerWords ← offsetWords offsets plane.axes
    let feedWord ← word .f move.feed true
    command ([planeCode, some (arcCode move), x, y, z] ++ centerWords ++ [feedWord])
  have begun : arcLine move plane offsets finish emitter =
      (do rest (emitter.slots.offerPlane plane) (← word .x (some finish.x))
            (← word .y (some finish.y)) (← word .z (some finish.z)))
        (emitter.withSlots (emitter.slots.inPlane plane)) :=
    bind_of_ok (planeCode_run plane emitter)
  have offered := axisWords_run (finish.map some) (rest (emitter.slots.offerPlane plane))
    (emitter.withSlots (emitter.slots.inPlane plane))
  rw [begun]
  refine offered.trans ?_
  have frame : (emitter.withSlots (emitter.slots.inPlane plane)).writer.axisTexts
      (finish.map some) = emitter.writer.axisTexts (finish.map some) := rfl
  rw [frame]
  cases possible : emitter.writer.precisionFault? with
  | some fault =>
      have refused : emitter.writer.axisTexts (finish.map some) = .error fault := by
        simp [Writer.axisTexts, Coordinates.map, Writer.valueText_places, possible]
        rfl
      rw [refused]
  | none =>
      rw [axisTexts_of_possible possible]
      refine (bind_of_ok (offsetWords_run _ ?_ offsets plane.axes)).trans ?_
      · exact possible
      · refine (bind_of_ok (word_feed move.feed true _)).trans ?_
        rw [Slots.offer_forced]
        rfl

theorem offerPlane_cases (slots : Slots) (plane : Plane) :
    slots.plane = some plane.code ∧ slots.offerPlane plane = none ∨
      slots.plane ≠ some plane.code ∧ slots.offerPlane plane = some plane.code := by
  by_cases held : slots.plane = some plane.code
  · exact .inl ⟨held, if_pos held⟩
  · exact .inr ⟨held, if_neg held⟩

section Line

variable (emitter : Emitter) (move : ArcMove) (plane : Plane) (offsets finish : Coordinates Float)

theorem isMove_arcCode : isMove (arcCode move).toList = true := by
  unfold arcCode
  split <;> decide

theorem placesText_isNumberText (value : Float) :
    Decimal.IsNumberText (emitter.placesText value) :=
  Decimal.rounded_isNumberText _ _

theorem arcWords_isWord :
    ∀ token, some token ∈ emitter.arcWords move plane offsets finish → IsWord token := by
  intro token member
  rcases List.mem_append.mp member with axisWord | others
  · obtain ⟨axis, -, offered⟩ := List.mem_map.mp axisWord
    obtain ⟨shown, present, rfl⟩ := Slots.offer_eq_some offered
    rw [arcTexts, Coordinates.get_map] at present
    cases present
    exact ⟨axis.letter, _, rfl, emitter.placesText_isNumberText _⟩
  · rcases List.mem_append.mp others with centerWord | feedWord
    · obtain ⟨figure, among, written⟩ := List.mem_map.mp centerWord
      obtain ⟨axis, -, rfl⟩ := List.mem_map.mp among
      cases written
      exact ⟨axis.offsetLetter, _, rfl, emitter.placesText_isNumberText _⟩
    · obtain ⟨text, shown, rfl⟩ := Option.map_eq_some_iff.mp (List.mem_singleton.mp feedWord).symm
      exact ⟨.f, text, rfl, feedText_isNumberText _ shown⟩

/-- What a reader hears of an arc. -/
def arcHeard (emitter : Emitter) (move : ArcMove) (plane : Plane)
    (offsets finish : Coordinates Float) : List (List Char) :=
  ((emitter.slots.offerPlane plane :: some (arcCode move) ::
    emitter.arcWords move plane offsets finish).filterMap id).map String.toList

theorem foldl_arcWords :
    (emitter.arcWords move plane offsets finish).foldl Registers.noteToken emitter.slots.get =
      (emitter.arcSlots move plane offsets finish).get := by
  have offers : emitter.slots.offerAxis (emitter.arcTexts finish) =
      (emitter.slots.inPlane plane).offerAxis (emitter.arcTexts finish) := by
    funext axis
    exact Slots.offerAxis_congr _ (by rw [Slots.get_inPlane])
  have feed (slots : Slots) := Registers.noteToken_offer slots .f (move.feed.map feedText) true
  rw [arcWords, arcSlots, List.foldl_append, List.foldl_append, offers,
    ← Slots.get_inPlane emitter.slots plane, Slots.foldl_offerAxis _ _ (by decide),
    Slots.foldl_forcedWords, ← feed, Slots.offer_forced]
  rfl

/-- What is heard of an arc: its plane if that is new, its code, and its words. -/
theorem arcHeard_cases :
    let rest := ((emitter.arcWords move plane offsets finish).filterMap id).map String.toList
    emitter.slots.offerPlane plane = none ∧
        emitter.arcHeard move plane offsets finish = (arcCode move).toList :: rest ∨
      emitter.slots.offerPlane plane = some plane.code ∧
        emitter.arcHeard move plane offsets finish =
          plane.code.toList :: (arcCode move).toList :: rest := by
  rw [arcHeard]
  rcases offerPlane_cases emitter.slots plane with ⟨-, left⟩ | ⟨-, written⟩
  · rw [left]
    exact .inl ⟨rfl, rfl⟩
  · rw [written]
    exact .inr ⟨rfl, rfl⟩

theorem arcWords_inPlane :
    ∀ word ∈ ((emitter.arcWords move plane offsets finish).filterMap id).map String.toList,
      isPlaneCode word = false := by
  intro word member
  obtain ⟨token, present, rfl⟩ := List.mem_map.mp member
  exact (arcWords_isWord emitter move plane offsets finish token
    (by simpa using present)).isPlaneCode

theorem withoutNumber_arcHeard :
    withoutNumber (emitter.arcHeard move plane offsets finish) =
      emitter.arcHeard move plane offsets finish := by
  rcases arcHeard_cases emitter move plane offsets finish with ⟨-, heard⟩ | ⟨-, heard⟩
  · rw [heard]
    exact withoutNumber_move (isMove_arcCode move)
  · rw [heard]
    exact withoutNumber_plane plane

theorem readWords_arcHeard :
    Registers.readWords emitter.slots.get (emitter.arcHeard move plane offsets finish) =
      (emitter.arcSlots move plane offsets finish).get := by
  rw [← foldl_arcWords, ← Registers.foldl_note]
  rcases arcHeard_cases emitter move plane offsets finish with ⟨-, heard⟩ | ⟨-, heard⟩
  · rw [heard]
    exact readWords_move _ (isMove_arcCode move)
  · rw [heard]
    exact readWords_plane _ plane (isMove_arcCode move)

theorem planeCodes_arcHeard :
    (planeCodes (emitter.arcHeard move plane offsets finish)).getLast?.map String.ofList =
      emitter.slots.offerPlane plane := by
  have others := arcWords_inPlane emitter move plane offsets finish
  rcases arcHeard_cases emitter move plane offsets finish with ⟨left, heard⟩ | ⟨written, heard⟩
  · rw [heard, left, planeCodes_move (isMove_arcCode move) others]
    rfl
  · rw [heard, written, planeCodes_plane plane (isMove_arcCode move) others]
    simp

theorem arcTokens_isToken :
    ∀ token, some token ∈ emitter.slots.offerPlane plane :: some (arcCode move) ::
      emitter.arcWords move plane offsets finish → IsToken token.toList := by
  intro token member
  rcases List.mem_cons.mp member with same | member
  · rcases offerPlane_cases emitter.slots plane with ⟨-, left⟩ | ⟨-, written⟩
    · rw [left] at same
      cases same
    · rw [written] at same
      cases same
      cases plane <;> decide
  · rcases List.mem_cons.mp member with same | member
    · cases same
      exact isMove_isToken (isMove_arcCode move)
    · exact (arcWords_isWord emitter move plane offsets finish token member).isToken

theorem tells_arc :
    ∃ line,
      Tells emitter
        ((emitter.withSlots (emitter.arcSlots move plane offsets finish)).commanded
          (emitter.slots.offerPlane plane :: some (arcCode move) ::
            emitter.arcWords move plane offsets finish) none) [line] ∧
      words line.chars = emitter.arcHeard move plane offsets finish ∧
      ∀ held, planeAfter held [line] = (emitter.slots.offerPlane plane <|> held) := by
  have alone := arcTokens_isToken emitter move plane offsets finish
  have body : tokens (commandBody (emitter.slots.offerPlane plane :: some (arcCode move) ::
      emitter.arcWords move plane offsets finish)).toList =
      emitter.arcHeard move plane offsets finish := tokens_commandBody alone
  have unnumbered := withoutNumber_arcHeard emitter move plane offsets finish
  have tells := tells_command emitter (emitter.arcSlots move plane offsets finish) none body
    unnumbered (commandBody_flat fun token member => (alone token member).flat)
    (readWords_arcHeard emitter move plane offsets finish).symm
  cases written : emitter.writer.commandLine? (emitter.slots.offerPlane plane ::
      some (arcCode move) :: emitter.arcWords move plane offsets finish) none with
  | none =>
      have empty := Writer.tokens_of_unwritten emitter.writer _ none written
      rw [body] at empty
      rcases arcHeard_cases emitter move plane offsets finish with ⟨-, heard⟩ | ⟨-, heard⟩
      · rw [heard] at empty
        cases empty
      · rw [heard] at empty
        cases empty
  | some line =>
      rw [written] at tells
      have words := Writer.commandLine_words emitter.writer none (by rw [body]; exact unnumbered)
        written
      rw [body] at words
      refine ⟨line, tells, words, fun held => ?_⟩
      change readPlane held line.chars = _
      rw [readPlane, words, planeCodes_arcHeard]

/-- The arc is one line, which has a word for each axis whose text is new and leaves its
plane selected. -/
structure CutsArc (before after : Emitter) (line : Line) : Prop where
  moves : MovesAxes before after (before.arcTexts finish) Axis.all [line]
  words : words line.chars = before.arcHeard move plane offsets finish
  selected : after.slots.plane = some plane.code
  fed : after.slots.get .f = (move.feed.map feedText <|> before.slots.get .f)
  planes : ∀ held, planeAfter held [line] = (before.slots.offerPlane plane <|> held)

theorem offsetLetter_ne (axis other : Axis) : axis.offsetLetter ≠ other.letter := by
  cases axis <;> cases other <;> decide

theorem moveWords_arc {line : Line}
    (heard : words line.chars = emitter.arcHeard move plane offsets finish) :
    moveWords (words line.chars) =
      ((emitter.arcWords move plane offsets finish).filterMap id).map String.toList := by
  rw [heard]
  rcases arcHeard_cases emitter move plane offsets finish with ⟨-, split⟩ | ⟨-, split⟩
  · rw [split, moveWords_move (isMove_arcCode move)]
  · rw [split, moveWords_plane plane (isMove_arcCode move)]

theorem gives_arc {line : Line}
    (heard : words line.chars = emitter.arcHeard move plane offsets finish)
    (axis : Axis) :
    Gives [line] axis.letter ↔
      axis ∈ Axis.all ∧ (emitter.slots.offerAxis (emitter.arcTexts finish) axis).isSome := by
  rw [gives_line (moveWords_arc emitter move plane offsets finish heard)]
  refine axisWords_prefix emitter.slots Axis.all (fun token member => ?_) axis
  rcases List.mem_append.mp member with centerWord | feedWord
  · obtain ⟨figure, among, written⟩ := List.mem_map.mp centerWord
    obtain ⟨other, -, rfl⟩ := List.mem_map.mp among
    cases written
    exact ⟨other.offsetLetter, _, rfl, offsetLetter_ne other⟩
  · obtain ⟨text, -, rfl⟩ := Option.map_eq_some_iff.mp (List.mem_singleton.mp feedWord).symm
    exact ⟨.f, text, rfl, Axis.f_ne_letter⟩

theorem held_arc (axis : Axis) :
    (emitter.arcSlots move plane offsets finish).get axis.letter =
      (emitter.slots.acceptAxes (emitter.arcTexts finish) Axis.all).get axis.letter := by
  have away : ∀ figure ∈ emitter.centerFigures offsets plane.axes, axis.letter ≠ figure.1 := by
    intro figure member
    obtain ⟨other, -, rfl⟩ := List.mem_map.mp member
    exact (offsetLetter_ne other axis).symm
  rw [arcSlots, Slots.get_accept_of_ne _ _ _ (Axis.f_ne_letter axis).symm,
    Slots.get_acceptForced_of_ne _ _ away, Slots.get_acceptAxes, Slots.get_acceptAxes,
    Slots.get_inPlane]

theorem plane_arcSlots : (emitter.arcSlots move plane offsets finish).plane = some plane.code := by
  simp [arcSlots, Slots.inPlane]

theorem fed_arc :
    (emitter.arcSlots move plane offsets finish).get .f =
      (move.feed.map feedText <|> emitter.slots.get .f) := by
  have away : ∀ figure ∈ emitter.centerFigures offsets plane.axes, Letter.f ≠ figure.1 := by
    intro figure member
    obtain ⟨other, -, rfl⟩ := List.mem_map.mp member
    exact (by cases other <;> decide : Letter.f ≠ other.offsetLetter)
  rw [arcSlots, Slots.get_accept, if_pos rfl, Slots.get_acceptForced_of_ne _ _ away,
    Slots.get_acceptAxes_of_ne _ _ _ fun axis _ => Axis.f_ne_letter axis, Slots.get_inPlane]

theorem arcLine_cuts (possible : emitter.writer.precisionFault? = none) :
    ∃ line after, arcLine move plane offsets finish emitter = .ok () after ∧
      CutsArc move plane offsets finish emitter after line := by
  obtain ⟨line, tells, heard, planes⟩ := tells_arc emitter move plane offsets finish
  have run := arcLine_run move plane offsets finish emitter
  rw [possible] at run
  refine ⟨line, _, run, ⟨⟨tells, position_line .., ?_, gives_arc _ _ _ _ _ heard⟩, heard, ?_, ?_,
    planes⟩⟩
  · intro axis
    rw [slots_commanded, slots_withSlots, held_arc]
  · rw [slots_commanded, slots_withSlots, plane_arcSlots]
  · rw [slots_commanded, slots_withSlots, fed_arc]

end Line

theorem shiftedTarget_some (offset : Coordinates Quantity) (point : Coordinates Float) :
    shiftedTarget offset (point.map some) = (shifted offset point).map (·.map some) := by
  unfold shiftedTarget shifted
  simp only [Coordinates.map, Option.mapM_some]
  cases offset.x.shift point.x with
  | error fault => rfl
  | ok x =>
      cases offset.y.shift point.y with
      | error fault => rfl
      | ok y => cases offset.z.shift point.z <;> rfl

theorem arcFigures_ok {start offsets finish : Coordinates Float}
    (figures : emitter.arcFigures move start = .ok (offsets, finish)) :
    ∃ center begin, shifted emitter.options.toolOffset move.center = .ok center ∧
      shifted emitter.options.toolOffset start = .ok begin ∧
      shifted emitter.options.toolOffset move.finish = .ok finish ∧
      offsets = center.zipWith (· - ·) begin := by
  unfold arcFigures at figures
  cases centered : shifted emitter.options.toolOffset move.center with
  | error fault => simp [centered, bind, Except.bind] at figures
  | ok center =>
      cases begun : shifted emitter.options.toolOffset start with
      | error fault => simp [centered, begun, bind, Except.bind] at figures
      | ok begin =>
          cases ended : shifted emitter.options.toolOffset move.finish with
          | error fault => simp [centered, begun, ended, bind, Except.bind] at figures
          | ok place =>
              rw [centered, begun, ended] at figures
              cases figures
              exact ⟨center, begin, rfl, rfl, rfl, rfl⟩

theorem targetTexts_of_arc {start offsets finish : Coordinates Float}
    (figures : emitter.arcFigures move start = .ok (offsets, finish))
    (possible : emitter.writer.precisionFault? = none) :
    emitter.targetTexts (move.finish.map some) = .ok (emitter.arcTexts finish) := by
  obtain ⟨_, _, -, -, ends, -⟩ := arcFigures_ok figures
  rw [targetTexts, shiftedTarget_some, ends]
  exact axisTexts_of_possible possible finish

/-- An arc either fails before anything is offered, or leaves nothing but its plane
behind, or is cut. -/
theorem planarArc_outcome (move : ArcMove) (start : Coordinates Float) (plane : Plane)
    (emitter : Emitter) :
    (∃ fault, emitter.arcFigures move start = .error fault ∧
      planarArc move start plane emitter = .error fault (emitter.sentTo (move.finish.map some))) ∨
    (∃ figures fault, emitter.arcFigures move start = .ok figures ∧
      emitter.writer.precisionFault? = some fault ∧
      planarArc move start plane emitter = .error fault
        ((emitter.sentTo (move.finish.map some)).withSlots (emitter.slots.inPlane plane))) ∨
    ∃ offsets finish line after, emitter.arcFigures move start = .ok (offsets, finish) ∧
      emitter.writer.precisionFault? = none ∧
      emitter.targetTexts (move.finish.map some) = .ok (emitter.arcTexts finish) ∧
      planarArc move start plane emitter = .ok () after ∧
      CutsArc move plane offsets finish (emitter.sentTo (move.finish.map some)) after line := by
  have run := planarArc_run move start plane emitter
  cases found : emitter.arcFigures move start with
  | error fault =>
      rw [found] at run
      exact .inl ⟨fault, rfl, run⟩
  | ok figures =>
      obtain ⟨offsets, finish⟩ := figures
      rw [found] at run
      cases possible : emitter.writer.precisionFault? with
      | some fault =>
          have refused := arcLine_run move plane offsets finish
            (emitter.sentTo (move.finish.map some))
          have same : (emitter.sentTo (move.finish.map some)).writer.precisionFault? = some fault :=
            possible
          rw [same] at refused
          exact .inr (.inl ⟨_, fault, rfl, rfl, run.trans refused⟩)
      | none =>
          obtain ⟨line, after, ended, cuts⟩ :=
            arcLine_cuts (emitter.sentTo (move.finish.map some)) move plane offsets finish possible
          exact .inr (.inr ⟨offsets, finish, line, after, rfl, rfl,
            targetTexts_of_arc found possible, run.trans ended, cuts⟩)

theorem circular_planar (inPlane : move.plane = some plane) (emitter : Emitter) :
    circular move emitter =
      match move.start <|> emitter.position.complete? with
      | some start => planarArc move start plane emitter
      | none => .error .unknownPosition emitter := by
  have chosen : circular move = startPoint move.start >>= fun start =>
    planarArc move start plane := by
    unfold circular
    rw [inPlane]
  rw [chosen]
  unfold startPoint
  cases found : (move.start <|> emitter.position.complete?) with
  | none => exact bind_of_error (by rw [get_bind_apply, found]; rfl)
  | some start => exact bind_of_ok (by rw [get_bind_apply, found]; rfl)

theorem startPoint_ok {given : Option (Coordinates Float)} {start : Coordinates Float}
    {after : Emitter} (found : startPoint given emitter = .ok start after) :
    (given <|> emitter.position.complete?) = some start ∧ after = emitter := by
  unfold startPoint at found
  rw [get_bind_apply] at found
  cases known : (given <|> emitter.position.complete?) with
  | none =>
      rw [known] at found
      cases found
  | some point =>
      rw [known] at found
      cases found
      exact ⟨rfl, rfl⟩

/-- An arc that ends well was one line in its plane or a series of chords. -/
theorem circular_ok {after : Emitter} (returned : circular move emitter = .ok () after) :
    (∃ plane start, move.plane = some plane ∧
      (move.start <|> emitter.position.complete?) = some start ∧
      planarArc move start plane emitter = .ok () after) ∨
    ∃ axis start, move.plane = none ∧ chordedArc move start axis emitter = .ok () after := by
  cases inside : move.plane with
  | none =>
      cases given : move.axis with
      | none =>
          simp only [circular, inside, given] at returned
          cases returned
      | some axis =>
          simp only [circular, inside, given] at returned
          obtain ⟨start, middle, found, cut⟩ := bind_ok returned
          obtain ⟨-, rfl⟩ := startPoint_ok found
          exact .inr ⟨axis, start, rfl, cut⟩
  | some plane =>
      simp only [circular, inside] at returned
      obtain ⟨start, middle, found, cut⟩ := bind_ok returned
      obtain ⟨known, rfl⟩ := startPoint_ok found
      exact .inl ⟨plane, start, rfl, known, cut⟩

/-- An arc in a plane that ends well has been cut from its start. -/
theorem circular_cuts {after : Emitter} (inPlane : move.plane = some plane)
    (returned : circular move emitter = .ok () after) :
    ∃ start offsets finish line, (move.start <|> emitter.position.complete?) = some start ∧
      emitter.arcFigures move start = .ok (offsets, finish) ∧
      emitter.writer.precisionFault? = none ∧
      emitter.targetTexts (move.finish.map some) = .ok (emitter.arcTexts finish) ∧
      CutsArc move plane offsets finish (emitter.sentTo (move.finish.map some)) after line := by
  have run := circular_planar inPlane emitter
  cases known : (move.start <|> emitter.position.complete?) with
  | none =>
      rw [known] at run
      cases returned.symm.trans run
  | some start =>
      rw [known] at run
      have ended : planarArc move start plane emitter = .ok () after := run.symm.trans returned
      rcases planarArc_outcome move start plane emitter with
        ⟨fault, -, failed⟩ | ⟨_, fault, -, -, failed⟩ |
        ⟨offsets, finish, line, reached, figures, possible, shown, cut, cuts⟩
      · cases ended.symm.trans failed
      · cases ended.symm.trans failed
      · cases ended.symm.trans cut
        exact ⟨start, offsets, finish, line, rfl, figures, possible, shown, cuts⟩

theorem keeps_startPoint (given : Option (Coordinates Float)) :
    Keeps options Idle (startPoint given) := by
  refine Keeps.inspect fun emitter _ => ?_
  cases given <|> emitter.position.complete? with
  | none => exact Keeps.failure idle_progress _
  | some start => exact Keeps.nothing idle_progress start

theorem keeps_planarArc (move : ArcMove) (start : Coordinates Float) (plane : Plane) :
    Keeps options Told (planarArc move start plane) := by
  intro emitter _
  have sent := (told_sentTo emitter (move.finish.map some)).toTells
  rcases planarArc_outcome move start plane emitter with
    ⟨fault, -, failed⟩ | ⟨_, fault, -, -, failed⟩ | ⟨_, _, line, after, -, -, -, ended, cuts⟩
  · rw [leaves_of_error failed]
    exact ⟨[], sent⟩
  · rw [leaves_of_error failed]
    refine ⟨[], { sent with letters := fun feeds => ?_ }⟩
    rw [slots_withSlots, Slots.get_inPlane]
    rfl
  · rw [leaves_of_ok ended]
    exact ⟨[] ++ [line], sent.trans cuts.moves.tells⟩

theorem keeps_circular (move : ArcMove) : Keeps options Told (circular move) := by
  have plain {α : Type} {action : Emission α} (keeps : Keeps options ToldInPlane action) :
      Keeps options Told action := keeps.weaken fun _ tells => tells.told
  unfold circular
  split
  · exact Keeps.failure told_progress _
  · exact Keeps.chain told_progress (plain (keepsInPlane_of_idle (keeps_startPoint _))) fun _ =>
      plain (keeps_chordedArc _ _ _)
  · exact Keeps.chain told_progress (plain (keepsInPlane_of_idle (keeps_startPoint _))) fun _ =>
      keeps_planarArc _ _ _

end Emitter

end GantryCode
