import GantryCode.Proofs.Emission
import GantryCode.Proofs.Registers

namespace GantryCode

/-! Words as they are offered to the controller.

A word is left out if the slot of its letter holds its text and it is not forced; the
slot holds the text in any case. So a reader that knows what the slots hold knows the
same after the words as before.
-/

theorem Coordinates.all_ok {α : Type} {x y z : Except Fault α} {point : Coordinates α}
    (ended : (do return (⟨← x, ← y, ← z⟩ : Coordinates α) : Except Fault (Coordinates α)) =
      .ok point) :
    x = .ok point.x ∧ y = .ok point.y ∧ z = .ok point.z := by
  cases x with
  | error fault => cases ended
  | ok x =>
      cases y with
      | error fault => cases ended
      | ok y =>
          cases z with
          | error fault => cases ended
          | ok z =>
              cases ended
              exact ⟨rfl, rfl, rfl⟩

theorem Axis.letter_injective {axis other : Axis} (same : axis.letter = other.letter) :
    axis = other := by
  cases axis <;> cases other <;> first | rfl | cases same

namespace Slots

variable (slots : Slots) (letter : Letter)

/-- The word for a text, if there is a text and it is not held already. -/
def offer (text : Option String) (force : Bool) : Option String :=
  text.bind fun text =>
    if !force && slots.get letter == some text then none else some (letter.name ++ text)

def accept (text : Option String) : Slots :=
  match text with
  | none => slots
  | some text => slots.set letter (some text)

theorem get_set (text : Option String) :
    (slots.set letter text).get = Function.update slots.get letter text := by
  funext other
  by_cases same : other = letter
  · subst same
    simp
  · rw [get_set_of_ne slots text same, Function.update_of_ne same]

theorem set_held {text : Option String} (held : slots.get letter = text) :
    slots.set letter text = slots := by
  subst held
  cases letter <;> rfl

@[simp] theorem plane_accept (text : Option String) :
    (slots.accept letter text).plane = slots.plane := by
  cases text with
  | none => rfl
  | some text => exact plane_set slots letter (some text)

theorem get_accept (text : Option String) (other : Letter) :
    (slots.accept letter text).get other =
      if other = letter then text <|> slots.get letter else slots.get other := by
  cases text with
  | none =>
      split
      · next same => simp [accept, same]
      · rfl
  | some text =>
      rw [accept, get_set]
      split
      · next same => simp [same]
      · next different => rw [Function.update_of_ne different]

theorem get_accept_of_ne {other : Letter} (text : Option String) (different : other ≠ letter) :
    (slots.accept letter text).get other = slots.get other := by
  rw [get_accept, if_neg different]

theorem get_forget (letters : List Letter) :
    (slots.forget letters).get letter = if letter ∈ letters then none else slots.get letter := by
  unfold forget
  induction letters generalizing slots with
  | nil => rfl
  | cons first rest ih =>
      rw [List.foldl_cons, ih, get_set]
      by_cases same : letter = first
      · subst same
        simp
      · simp [same]

theorem plane_forget (letters : List Letter) : (slots.forget letters).plane = slots.plane := by
  unfold forget
  induction letters generalizing slots with
  | nil => rfl
  | cons first rest ih => rw [List.foldl_cons, ih, plane_set]

theorem offer_accept {other : Letter} (different : other ≠ letter) (text next : Option String)
    (force : Bool) : (slots.accept letter text).offer other next force =
      slots.offer other next force := by
  simp [offer, get_accept_of_ne slots letter text different]

end Slots

namespace Registers

/-- A word that may be left out. -/
def noteToken (registers : Registers) : Option String → Registers
  | none => registers
  | some token => registers.note token.toList

theorem note_name (registers : Registers) (letter : Letter) (text : String) :
    registers.note (letter.name ++ text).toList =
      Function.update registers letter (some text) := by
  cases letter <;> simp [note, Letter.name, letterOf?, Letter.all]

theorem foldl_note (registers : Registers) (tokens : List (Option String)) :
    ((tokens.filterMap id).map String.toList).foldl note registers =
      tokens.foldl noteToken registers := by
  induction tokens generalizing registers with
  | nil => rfl
  | cons token rest ih =>
      cases token with
      | none => exact ih registers
      | some token => exact ih (registers.note token.toList)

/-- A reader that knows what the slots hold knows it behind a word, be it written or
left out. -/
theorem noteToken_offer (slots : Slots) (letter : Letter) (text : Option String) (force : Bool) :
    noteToken slots.get (slots.offer letter text force) = (slots.accept letter text).get := by
  cases text with
  | none => rfl
  | some text =>
      rw [Slots.offer, Option.bind_some]
      split
      · next held =>
          have same : slots.get letter = some text := by simp_all
          rw [Slots.accept, Slots.set_held slots letter same]
          rfl
      · rw [Slots.accept, Slots.get_set]
        exact note_name slots.get letter text

end Registers

namespace Writer

variable (writer : Writer)

/-- Why no value with decimal places can be written. That depends on the precision
alone, so either every such value can be written or none. -/
def precisionFault? : Option Fault :=
  if writer.precision < 0 then some .negativePrecision
  else if precisionTextLimit < writer.precision then some .precisionTooLong
  else if precisionLimit < writer.precision then some .precisionTooLarge
  else none

theorem valueText_places (value : Float) :
    writer.valueText false value =
      match writer.precisionFault? with
      | some fault => .error fault
      | none => .ok (Decimal.rounded writer.precision.toNat value) := by
  unfold valueText precisionFault?
  simp only [Bool.false_eq_true, if_false]
  repeat' split
  all_goals simp_all

variable {writer} {letter : Letter} {value : Float} {text : String}

/-- Every value is written rounded to some count of places. -/
theorem valueText_rounded {whole : Bool} (shown : writer.valueText whole value = .ok text) :
    ∃ places, text = Decimal.rounded places value := by
  cases whole with
  | true => exact ⟨0, (Except.ok.inj shown).symm⟩
  | false =>
      rw [valueText_places] at shown
      cases possible : writer.precisionFault? with
      | some fault => simp [possible] at shown
      | none =>
          rw [possible] at shown
          exact ⟨_, (Except.ok.inj shown).symm⟩

theorem valueText_isNumberText {whole : Bool} (shown : writer.valueText whole value = .ok text) :
    Decimal.IsNumberText text := by
  obtain ⟨places, rfl⟩ := valueText_rounded shown
  exact Decimal.rounded_isNumberText places value

theorem word_of_shown (shown : writer.valueText letter.isWhole value = .ok text) (force : Bool) :
    word letter (some value) force writer =
      .ok (writer.slots.offer letter (some text) force)
        { writer with slots := writer.slots.accept letter (some text) } := by
  unfold word
  simp only [Emission.get_bind_apply, Emission.ofExcept_bind_apply, shown]
  by_cases held : (!force && writer.slots.get letter == some text) = true
  · have same : writer.slots.get letter = some text := by simp_all
    rw [if_pos held, Slots.offer, Option.bind_some, if_pos held, Slots.accept,
      Slots.set_held _ letter same]
    rfl
  · rw [if_neg held, Slots.offer, Option.bind_some, if_neg held]
    rfl

def axisTexts (writer : Writer) (target : Coordinates (Option Float)) :
    Except Fault (Coordinates (Option String)) := do
  return ⟨← target.x.mapM (writer.valueText false), ← target.y.mapM (writer.valueText false),
    ← target.z.mapM (writer.valueText false)⟩

theorem axisTexts_get {target : Coordinates (Option Float)} {texts : Coordinates (Option String)}
    (shown : writer.axisTexts target = .ok texts) (axis : Axis) :
    (target.get axis).mapM (writer.valueText false) = .ok (texts.get axis) := by
  obtain ⟨x, y, z⟩ := Coordinates.all_ok shown
  cases axis with
  | x => exact x
  | y => exact y
  | z => exact z

theorem axisTexts_isNumberText {target : Coordinates (Option Float)}
    {texts : Coordinates (Option String)} (shown : writer.axisTexts target = .ok texts)
    {axis : Axis} (present : texts.get axis = some text) :
    Decimal.IsNumberText text := by
  have each := axisTexts_get shown axis
  cases given : target.get axis with
  | none =>
      rw [given, present] at each
      cases each
  | some value =>
      cases rendered : writer.valueText false value with
      | error fault => simp [given, rendered] at each
      | ok other =>
          rw [given, present, Option.mapM_some, rendered] at each
          cases each
          exact valueText_isNumberText rendered

end Writer

namespace Slots

def acceptAxes (slots : Slots) (texts : Coordinates (Option String)) : List Axis → Slots
  | [] => slots
  | axis :: rest => (slots.accept axis.letter (texts.get axis)).acceptAxes texts rest

def offerAxis (slots : Slots) (texts : Coordinates (Option String)) (axis : Axis) :
    Option String :=
  slots.offer axis.letter (texts.get axis) false

variable (slots : Slots) (texts : Coordinates (Option String))

@[simp] theorem plane_acceptAxes (axes : List Axis) :
    (slots.acceptAxes texts axes).plane = slots.plane := by
  induction axes generalizing slots with
  | nil => rfl
  | cons axis rest ih => rw [acceptAxes, ih, plane_accept]

theorem get_acceptAxes_of_ne (axes : List Axis) {letter : Letter}
    (different : ∀ axis ∈ axes, letter ≠ axis.letter) :
    (slots.acceptAxes texts axes).get letter = slots.get letter := by
  induction axes generalizing slots with
  | nil => rfl
  | cons axis rest ih =>
      rw [acceptAxes, ih _ fun other member => different other (by simp [member]),
        get_accept_of_ne slots _ _ (different axis (by simp))]

theorem get_acceptAxes (axes : List Axis) (axis : Axis) :
    (slots.acceptAxes texts axes).get axis.letter =
      if axis ∈ axes then (texts.get axis <|> slots.get axis.letter)
      else slots.get axis.letter := by
  induction axes generalizing slots with
  | nil => rfl
  | cons first rest ih =>
      rw [acceptAxes, ih, get_accept]
      by_cases same : axis = first
      · subst same
        cases texts.get axis <;> simp
      · have different : axis.letter ≠ first.letter := fun equal =>
          same (Axis.letter_injective equal)
        simp [same, different]

theorem offerAxis_congr {slots other : Slots} {axis : Axis}
    (same : slots.get axis.letter = other.get axis.letter) :
    slots.offerAxis texts axis = other.offerAxis texts axis := by
  rw [offerAxis, offerAxis, offer, offer, same]

theorem offerAxis_accept {axis other : Axis} (different : other ≠ axis) (text : Option String) :
    (slots.accept axis.letter text).offerAxis texts other = slots.offerAxis texts other := by
  exact offer_accept slots axis.letter (fun same => different (Axis.letter_injective same)) text _
    false

/-- The words of distinct axes tell what is held once their texts were accepted. -/
theorem foldl_offerAxis {axes : List Axis} (distinct : axes.Nodup) :
    (axes.map (slots.offerAxis texts)).foldl Registers.noteToken slots.get =
      (slots.acceptAxes texts axes).get := by
  induction axes generalizing slots with
  | nil => rfl
  | cons axis rest ih =>
      obtain ⟨absent, others⟩ := List.nodup_cons.mp distinct
      have first : Registers.noteToken slots.get (slots.offerAxis texts axis) =
          (slots.accept axis.letter (texts.get axis)).get :=
        Registers.noteToken_offer slots axis.letter (texts.get axis) false
      have later : rest.map (slots.offerAxis texts) =
          rest.map ((slots.accept axis.letter (texts.get axis)).offerAxis texts) := by
        refine List.map_congr_left fun other member => ?_
        have different : other ≠ axis := fun same => absent (same ▸ member)
        exact (offerAxis_accept slots texts different _).symm
      rw [List.map_cons, List.foldl_cons, first, later, ih _ others, acceptAxes]

end Slots

namespace Emitter

def slots (emitter : Emitter) : Slots :=
  emitter.writer.slots

def withSlots (emitter : Emitter) (slots : Slots) : Emitter :=
  { emitter with writer := { emitter.writer with slots } }

@[simp] theorem slots_withSlots (emitter : Emitter) (slots : Slots) :
    (emitter.withSlots slots).slots = slots := rfl

@[simp] theorem withSlots_withSlots (emitter : Emitter) (first second : Slots) :
    (emitter.withSlots first).withSlots second = emitter.withSlots second := rfl

@[simp] theorem withSlots_slots (emitter : Emitter) : emitter.withSlots emitter.slots = emitter :=
  rfl

@[simp] theorem valueText_withSlots (emitter : Emitter) (slots : Slots) :
    (emitter.withSlots slots).writer.valueText = emitter.writer.valueText := rfl

/-- A word is offered to the controller if its value can be written; otherwise
nothing happens. -/
theorem word_run (letter : Letter) (value : Option Float) (force : Bool) (emitter : Emitter) :
    word letter value force emitter =
      match value.mapM (emitter.writer.valueText letter.isWhole) with
      | .ok text => .ok (emitter.slots.offer letter text force)
          (emitter.withSlots (emitter.slots.accept letter text))
      | .error fault => .error fault emitter := by
  cases value with
  | none => rfl
  | some value =>
      cases shown : emitter.writer.valueText letter.isWhole value with
      | error fault => simp [word, writing, Writer.word, shown]
      | ok text =>
          simp only [word, writing, Writer.word_of_shown shown, Option.mapM_some, shown]
          rfl

theorem word_bind {α : Type} (letter : Letter) (value : Option Float) (force : Bool)
    (next : Option String → Emission α) (emitter : Emitter) :
    (word letter value force >>= next) emitter =
      match value.mapM (emitter.writer.valueText letter.isWhole) with
      | .ok text => next (emitter.slots.offer letter text force)
          (emitter.withSlots (emitter.slots.accept letter text))
      | .error fault => .error fault emitter := by
  have run := word_run letter value force emitter
  cases shown : value.mapM (emitter.writer.valueText letter.isWhole) with
  | error fault =>
      rw [shown] at run
      exact Emission.bind_of_error run
  | ok text =>
      rw [shown] at run
      exact Emission.bind_of_ok run

/-- The words of a target are offered together or not at all. -/
theorem axisWords_run {α : Type} (target : Coordinates (Option Float))
    (next : Option String → Option String → Option String → Emission α) (emitter : Emitter) :
    (do next (← word .x target.x) (← word .y target.y) (← word .z target.z)) emitter =
      match emitter.writer.axisTexts target with
      | .ok texts =>
          next (emitter.slots.offerAxis texts .x) (emitter.slots.offerAxis texts .y)
            (emitter.slots.offerAxis texts .z)
            (emitter.withSlots (emitter.slots.acceptAxes texts Axis.all))
      | .error fault => .error fault emitter := by
  obtain ⟨x, y, z⟩ := target
  have absent : (none : Option Float).mapM (emitter.writer.valueText false) = .ok none := rfl
  cases possible : emitter.writer.precisionFault? with
  | none =>
      have shown : ∀ value : Option Float, value.mapM (emitter.writer.valueText false) =
          .ok (value.map (Decimal.rounded emitter.writer.precision.toNat)) := by
        intro value
        cases value with
        | none => rfl
        | some value => simp [Writer.valueText_places, possible]
      simp only [word_bind, Letter.isWhole, Writer.axisTexts, shown, valueText_withSlots,
        slots_withSlots, withSlots_withSlots]
      rw [Slots.offer_accept _ _ (by decide), Slots.offer_accept _ _ (by decide),
        Slots.offer_accept _ _ (by decide)]
      rfl
  | some fault =>
      have refused : ∀ value : Float, (some value).mapM (emitter.writer.valueText false) =
          .error fault := fun value => by
        rw [Option.mapM_some, Writer.valueText_places, possible]
        rfl
      simp only [word_bind, Letter.isWhole, Writer.axisTexts, valueText_withSlots,
        slots_withSlots, withSlots_withSlots]
      cases x with
      | some x => rw [refused]; rfl
      | none =>
          cases y with
          | some y => rw [refused, absent]; rfl
          | none =>
              cases z with
              | some z => rw [refused, absent]; rfl
              | none => rw [absent]; rfl

end Emitter

end GantryCode
