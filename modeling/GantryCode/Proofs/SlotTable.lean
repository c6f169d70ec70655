import GantryCode.Proofs.Wording
import GantryCode.Writer.Named

namespace GantryCode

/-! What a value and a reset do to the table of what was last written.

Users name letters as they like, in either case, and some names are taken that are none: what
stands together in the order of the letters, and no letter at all. For such a name the table may
hold no slot, and then a value that is not forced has nothing to be compared with. A reset empties
one slot after the other, and stops only where it comes to a name without a slot.
-/

theorem setField_held {α : Type} {fields : List (String × α)} {name : String} {value : α}
    (held : fields.lookup name = some value) : setField name value fields = fields := by
  induction fields with
  | nil => cases held
  | cons field rest ih =>
      obtain ⟨other, old⟩ := field
      by_cases same : other = name
      · subst same
        have kept : old = value := by simpa using held
        rw [setField, if_pos rfl, kept]
      · have later : rest.lookup name = some value := by
          simpa [List.lookup_cons, beq_false_of_ne (Ne.symm same)] using held
        rw [setField, if_neg same, ih later]

namespace Slots

variable {slots : Slots} {key other : Key} {text : Option String}

@[simp] theorem find?_store (slots : Slots) (key : Key) (text : Option String) :
    (slots.store key text).find? key = some text := by
  cases key with
  | letter letter => simp [find?, store]
  | plane => rfl
  | stretch name => exact lookup_setField _ _ _

theorem find?_store_of_ne (slots : Slots) (text : Option String) (different : other ≠ key) :
    (slots.store key text).find? other = slots.find? other := by
  cases key with
  | letter letter =>
      cases other with
      | letter next =>
          have apart : next ≠ letter := fun same => different (congrArg Key.letter same)
          exact congrArg some (get_set_of_ne slots text apart)
      | plane => exact congrArg some (plane_set slots letter text)
      | stretch name => exact congrArg (List.lookup name) (stretches_set slots letter text)
  | plane =>
      cases other with
      | letter next => cases next <;> rfl
      | plane => exact absurd rfl different
      | stretch name => rfl
  | stretch name =>
      cases other with
      | letter next => cases next <;> rfl
      | plane => rfl
      | stretch next =>
          exact lookup_setField_of_ne _ _ fun same => different (congrArg Key.stretch same)

/-- Storing what is held changes nothing. -/
theorem store_held (held : slots.find? key = some text) : slots.store key text = slots := by
  cases key with
  | letter letter => exact slots.set_held letter (Option.some.inj held)
  | plane =>
      cases Option.some.inj held
      rfl
  | stretch name =>
      rw [store, setField_held held]

theorem isSome_find?_cleared (slots : Slots) (key : Key) :
    (slots.cleared.find? key).isSome = (slots.find? key).isSome := by
  cases key with
  | letter letter => rfl
  | plane => rfl
  | stretch name =>
      rw [cleared, find?, find?]
      induction slots.stretches with
      | nil => rfl
      | cons stretch rest ih =>
          obtain ⟨other, text⟩ := stretch
          rw [List.map_cons, List.lookup_cons, List.lookup_cons]
          cases name == other with
          | true => rfl
          | false => exact ih

/-- The slots that every table has. -/
def Key.IsUsual : Key → Prop
  | .letter _ | .plane => True
  | .stretch _ => False

/-- The slots with those of the names emptied. -/
def emptied (slots : Slots) (names : List String) : Slots :=
  names.foldl (fun slots name => slots.store (keyOf name) none) slots

def knows (slots : Slots) (name : String) : Bool :=
  (slots.find? (keyOf name)).isSome

/-- No slot is lost. -/
theorem isSome_find?_store (slots : Slots) (key other : Key) (text : Option String) :
    ((slots.store key text).find? other).isSome =
      (decide (other = key) || (slots.find? other).isSome) := by
  by_cases same : other = key
  · simp [same]
  · simp [same, find?_store_of_ne slots text same]

theorem knows_store (slots : Slots) {name : String} (known : slots.knows name = true) (key : Key)
    (text : Option String) : (slots.store key text).knows name = true := by
  rw [knows, isSome_find?_store, Bool.or_eq_true]
  exact .inr known

theorem find?_emptied (slots : Slots) (names : List String) (key : Key) :
    (slots.emptied names).find? key =
      if ∃ name ∈ names, keyOf name = key then some none else slots.find? key := by
  induction names generalizing slots with
  | nil => simp [emptied]
  | cons first rest ih =>
      have later : slots.emptied (first :: rest) =
        (slots.store (keyOf first) none).emptied rest := rfl
      rw [later, ih]
      by_cases among : ∃ name ∈ rest, keyOf name = key
      · simp [among]
      · by_cases same : keyOf first = key
        · subst same
          simp [among]
        · rw [if_neg among, find?_store_of_ne slots none (Ne.symm same)]
          simp [among, same]

/-- What is emptied was empty before, if the table is the same. -/
theorem emptied_eq_self_iff (slots : Slots) (names : List String) :
    slots.emptied names = slots ↔ ∀ name ∈ names, slots.find? (keyOf name) = some none := by
  constructor
  · intro same name member
    rw [← same, find?_emptied, if_pos ⟨name, member, rfl⟩]
  · intro empty
    induction names with
    | nil => rfl
    | cons first rest ih =>
        have later : slots.emptied (first :: rest) =
          (slots.store (keyOf first) none).emptied rest :=
          rfl
        rw [later, store_held (empty first (List.mem_cons_self ..))]
        exact ih fun name member => empty name (List.mem_cons_of_mem first member)

end Slots

theorem isStretchOf_iff {text whole : List Char} :
    isStretchOf text whole = true ↔ text <:+: whole := by
  rw [isStretchOf, List.any_eq_true]
  constructor
  · rintro ⟨start, -, found⟩
    exact (List.isPrefixOf_iff_prefix.mp found).isInfix.trans (List.drop_suffix start whole).isInfix
  · rintro ⟨front, behind, rfl⟩
    refine ⟨front.length, List.mem_range.mpr ?_, ?_⟩
    · simp only [List.length_append]
      omega
    · rw [List.append_assoc, List.drop_left]
      exact List.isPrefixOf_iff_prefix.mpr (List.prefix_append text behind)

namespace Writer

section Naming

variable {name : String} {letter : Letter} {value : Float} {force : Bool} {writer : Writer}

/-- The slot that a value is given for, if the name is taken. -/
def paramKey? (name : String) : Option Slots.Key :=
  match Letter.ofName? (Text.upper name) with
  | some letter => some (.letter letter)
  | none =>
      if isParameterName (Text.upper name) then some (.stretch (Text.upper name)) else none

theorem paramKey?_letter (named : Letter.ofName? (Text.upper name) = some letter) :
    paramKey? name = some (.letter letter) := by
  rw [paramKey?, named]

theorem paramKey?_unnamed (unnamed : Letter.ofName? (Text.upper name) = none) : paramKey? name =
    if isParameterName (Text.upper name) then some (.stretch (Text.upper name)) else none := by
  rw [paramKey?, unnamed]

theorem param_letter (named : Letter.ofName? (Text.upper name) = some letter)
    (value : Option Float) (force : Bool) :
    Writer.param name value force = word letter value force := by
  unfold Writer.param
  rw [named]

theorem param_unnamed (unnamed : Letter.ofName? (Text.upper name) = none) (value : Option Float)
    (force : Bool) : Writer.param name value force =
      if isParameterName (Text.upper name) then
        match value with
        | none => pure none
        | some value => stretchWord (Text.upper name) value force
      else throw (.undefinedParameter (Text.upper name)) := by
  unfold Writer.param
  split
  · next named => cases unnamed.symm.trans named
  · rfl

theorem stretch_upper {stretch : String} (taken : paramKey? name = some (.stretch stretch)) :
    Text.upper name = stretch ∧ Letter.ofName? stretch = none ∧ isParameterName stretch = true := by
  cases named : Letter.ofName? (Text.upper name) with
  | some letter =>
      rw [paramKey?_letter named] at taken
      cases taken
  | none =>
      rw [paramKey?_unnamed named] at taken
      split at taken
      · next accepted =>
          cases taken
          exact ⟨rfl, named, accepted⟩
      · cases taken

/-- A name that is neither a letter nor a stretch of letters is refused. -/
theorem param_refused (unknown : paramKey? name = none) (value : Option Float) (force : Bool)
    (writer : Writer) :
    Writer.param name value force writer =
      .error (.undefinedParameter (Text.upper name)) writer := by
  cases named : Letter.ofName? (Text.upper name) with
  | some letter =>
      rw [paramKey?_letter named] at unknown
      cases unknown
  | none =>
      rw [paramKey?_unnamed named] at unknown
      rw [param_unnamed named]
      split at unknown
      · cases unknown
      · next apart =>
          rw [if_neg apart]
          rfl

/-- Whether a value with this text is written: if it is forced, or a slot holds something else. -/
def isNews (force : Bool) (held : Option (Option String)) (text : String) : Bool :=
  force || held.any (· != some text)

theorem stretchWord_run (name : String) (value : Float) (force : Bool) (writer : Writer) :
    stretchWord name value force writer =
      match writer.namedText name value with
      | .error fault => .error fault writer
      | .ok text =>
          if isNews force (writer.slots.find? (.stretch name)) text then
            .ok (some (name ++ text)) (writer.setSlot (.stretch name) (some text))
          else if (writer.slots.find? (.stretch name)).isNone then .error (.noSlot name) writer
          else .ok none writer := by
  unfold stretchWord
  rw [Emission.get_bind_apply, Emission.ofExcept_bind_apply]
  cases writer.namedText name value with
  | error fault => rfl
  | ok text =>
      cases held : writer.slots.find? (.stretch name) with
      | none => cases force <;> rfl
      | some old =>
          cases force with
          | true => rfl
          | false =>
              by_cases same : old = some text
              · simp [isNews, same]
              · simp [isNews, same]

theorem letter_named (named : Letter.ofName? name = some letter) : letter.name = name := by
  simpa using List.find?_some named

/-- A value for a name that is taken is rendered, compared with what the slot holds, and stored if
it is written. Only a name of several letters or of none may have no slot to compare with. -/
theorem param_run {key : Slots.Key} (taken : paramKey? name = some key) (value : Float)
    (force : Bool) (writer : Writer) : Writer.param name (some value) force writer =
      match writer.namedText (Text.upper name) value with
      | .error fault => .error fault writer
      | .ok text =>
          if isNews force (writer.slots.find? key) text then
            .ok (some (Text.upper name ++ text)) (writer.setSlot key (some text))
          else if (writer.slots.find? key).isNone then .error (.noSlot (Text.upper name)) writer
          else .ok none writer := by
  cases named : Letter.ofName? (Text.upper name) with
  | none =>
      rw [paramKey?_unnamed named] at taken
      split at taken
      · next stretch =>
          cases taken
          rw [param_unnamed named, if_pos stretch]
          exact stretchWord_run _ value force writer
      · cases taken
  | some letter =>
      rw [paramKey?_letter named] at taken
      cases taken
      have whole : isWholeName letter.name = letter.isWhole := by cases letter <;> decide
      rw [param_letter named, ← letter_named named, namedText, whole]
      unfold word
      simp only [Emission.get_bind_apply, Emission.ofExcept_bind_apply]
      cases writer.valueText letter.isWhole value with
      | error fault => rfl
      | ok text =>
          cases force with
          | true => rfl
          | false =>
              by_cases same : writer.slots.get letter = some text
              · simp [isNews, Slots.find?, same]
              · simp [isNews, Slots.find?, same]

end Naming

section Resets

variable {name : String} {names front : List String} {writer : Writer}

theorem resetNames_known (known : writer.slots.knows name = true) (rest : List String) :
    resetNames (name :: rest) writer =
      resetNames rest (writer.setSlot (Slots.keyOf name) none) := by
  have there : (writer.slots.find? (Slots.keyOf name)).isNone = false := by
    rw [← Option.not_isSome, Bool.not_eq_false']
    exact known
  rw [resetNames]
  simp only [Emission.get_bind_apply, there]
  rfl

theorem resetNames_unknown (unknown : writer.slots.knows name = false) (rest : List String) :
    resetNames (name :: rest) writer = .error (.undefinedParameter name) writer := by
  have absent : (writer.slots.find? (Slots.keyOf name)).isNone = true := by
    rw [← Option.not_isSome, Bool.not_eq_true']
    exact unknown
  rw [resetNames]
  simp only [Emission.get_bind_apply, absent]
  rfl

/-- A reset empties the slots that it names, as long as there are such slots. -/
theorem resetNames_append (known : ∀ name ∈ front, writer.slots.knows name = true)
    (behind : List String) : resetNames (front ++ behind) writer =
      resetNames behind { writer with slots := writer.slots.emptied front } := by
  induction front generalizing writer with
  | nil => rfl
  | cons first rest ih =>
      rw [List.cons_append, resetNames_known (known first (List.mem_cons_self ..))]
      exact ih fun name member =>
        writer.slots.knows_store (known name (List.mem_cons_of_mem first member)) _ none

theorem resetNames_all (known : ∀ name ∈ names, writer.slots.knows name = true) :
    resetNames names writer = .ok () { writer with slots := writer.slots.emptied names } := by
  rw [← List.append_nil names, resetNames_append known, List.append_nil]
  rfl

/-- Every reset comes to its end, or to the first name that has no slot. -/
theorem reset_split (slots : Slots) (names : List String) :
    (∀ name ∈ names, slots.knows name = true) ∨
      ∃ front name behind, names = front ++ name :: behind ∧
        (∀ known ∈ front, slots.knows known = true) ∧ slots.knows name = false := by
  induction names with
  | nil => exact .inl (by simp)
  | cons first rest ih =>
      cases known : slots.knows first with
      | false => exact .inr ⟨[], first, rest, rfl, by simp, known⟩
      | true =>
          rcases ih with all | ⟨front, name, behind, rfl, before, unknown⟩
          · exact .inl (List.forall_mem_cons.mpr ⟨known, all⟩)
          · exact .inr ⟨first :: front, name, behind, rfl,
              List.forall_mem_cons.mpr ⟨known, before⟩, unknown⟩

end Resets

end Writer
end GantryCode
