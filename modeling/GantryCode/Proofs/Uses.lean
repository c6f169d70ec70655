import GantryCode.CommandLine
import GantryCode.Proofs.Emission
import Mathlib.Data.List.Forall2

namespace GantryCode

/-! What the arguments of the command line give settings.

Values are given one after the other, and the last one counts. Every one of them is for a
setting of the program, converted as the setting says.
-/

section Fields

variable {α : Type}

/-- The value that a name is given last. -/
def lastField (name : String) (fields : List (String × α)) : Option α :=
  fields.reverse.lookup name

/-- Fields given one after the other. -/
def setFields (fields more : List (String × α)) : List (String × α) :=
  more.foldl (fun fields field => setField field.1 field.2 fields) fields

theorem lastField_cons (name other : String) (value : α) (rest : List (String × α)) :
    lastField name ((other, value) :: rest) =
      (lastField name rest <|> if name = other then some value else none) := by
  unfold lastField
  rw [List.reverse_cons, List.lookup_append]
  by_cases same : name = other
  · simp [same]
  · simp [same, List.lookup_cons, beq_false_of_ne same]

theorem lookup_setFields (name : String) (fields more : List (String × α)) :
    (setFields fields more).lookup name = (lastField name more <|> fields.lookup name) := by
  induction more generalizing fields with
  | nil => rfl
  | cons field rest ih =>
      obtain ⟨other, value⟩ := field
      have later : setFields fields ((other, value) :: rest) =
        setFields (setField other value fields) rest := rfl
      rw [later, ih, lastField_cons]
      by_cases same : name = other
      · rw [same, lookup_setField]
        cases lastField other rest <;> simp
      · rw [lookup_setField_of_ne fields value same]
        simp [same]

theorem lookup_setFields_nil (name : String) (more : List (String × α)) :
    (setFields [] more).lookup name = lastField name more := by
  rw [lookup_setFields]
  cases lastField name more <;> rfl

theorem names_setField (name : String) (value : α) (fields : List (String × α)) :
    (setField name value fields).map (·.1) =
      if name ∈ fields.map (·.1) then fields.map (·.1) else fields.map (·.1) ++ [name] := by
  induction fields with
  | nil => rfl
  | cons field rest ih =>
      obtain ⟨other, old⟩ := field
      by_cases same : other = name
      · simp [setField, same]
      · by_cases held : name ∈ rest.map (·.1)
        · simp [setField, same, ih, held, Ne.symm same]
        · simp [setField, same, ih, held, Ne.symm same]

theorem nodup_setFields {fields : List (String × α)} (distinct : (fields.map (·.1)).Nodup)
    (more : List (String × α)) : ((setFields fields more).map (·.1)).Nodup := by
  induction more generalizing fields with
  | nil => exact distinct
  | cons field rest ih =>
      refine ih ?_
      rw [names_setField]
      split
      · exact distinct
      · next fresh =>
          refine List.nodup_append.mpr ⟨distinct, by simp, fun other held last only same => ?_⟩
          rw [same, List.mem_singleton.mp only] at held
          exact fresh held

theorem nodup_setFields_nil (more : List (String × α)) :
    ((setFields [] more).map (·.1)).Nodup :=
  nodup_setFields (by simp) more

theorem mem_setFields (name : String) (fields more : List (String × α)) :
    name ∈ (setFields fields more).map (·.1) ↔ name ∈ fields.map (·.1) ∨ name ∈ more.map (·.1) := by
  induction more generalizing fields with
  | nil => simp [setFields]
  | cons field rest ih =>
      have later : setFields fields (field :: rest) =
        setFields (setField field.1 field.2 fields) rest := rfl
      rw [later, ih, names_setField]
      split
      · next held =>
          simp only [List.map_cons, List.mem_cons]
          constructor
          · rintro (front | behind)
            · exact .inl front
            · exact .inr (.inr behind)
          · rintro (front | rfl | behind)
            · exact .inl front
            · exact .inl held
            · exact .inr behind
      · simp [or_assoc]

/-- Fields that correspond name by name correspond in what is given last. -/
theorem lastField_forall₂ {β : Type} {relation : String × α → String × β → Prop}
    (named : ∀ first second, relation first second → second.1 = first.1)
    {fields : List (String × α)} {others : List (String × β)}
    (related : List.Forall₂ relation fields others) (name : String) :
    Option.Rel (fun value other => relation (name, value) (name, other)) (lastField name fields)
      (lastField name others) := by
  induction related with
  | nil => exact .none
  | @cons first second _ _ head _ ih =>
      obtain ⟨firstName, value⟩ := first
      obtain ⟨secondName, other⟩ := second
      cases named _ _ head
      rw [lastField_cons, lastField_cons]
      revert ih
      generalize lastField name _ = tail
      generalize lastField name _ = otherTail
      intro ih
      cases ih with
      | some tail => exact .some tail
      | none =>
          by_cases same : name = firstName
          · subst same
            simpa using Option.Rel.some head
          · rw [if_neg same, if_neg same]
            exact .none

end Fields

namespace CommandLine

open Emission (bind_eq_ok)

section Uses

/-- What the arguments give settings, in the order in which they do: texts, or nothing where
two dashes stand behind an equals sign. The first operand is the stream of events. -/
def uses (awaits : Bool) : List Argument → List (String × Option String)
  | [] => []
  | .operand text :: rest =>
      if awaits then ("events", some text) :: uses false rest else uses false rest
  | .option (.setting given) (some text) :: rest =>
      (given.name, if text = "--" then none else some text) :: uses awaits rest
  | .option (.setting given) none :: .operand text :: rest =>
      (given.name, some text) :: uses awaits rest
  | .cluster (.setting given) others :: rest =>
      (given.name, some (String.ofList others)) :: uses awaits rest
  | _ :: rest => uses awaits rest

/-- What a use makes of a setting. -/
def readUse (conversion : Conversion) : Option String → Except ConversionFault Value
  | some text => conversion.readGiven text
  | none => .ok (.list [])

def Switch.Declared (switch : Switch) : Prop :=
  ∀ given, switch = .setting given → (given.name, given.conversion, given.usual) ∈ settings

def Argument.Declared : Argument → Prop
  | .option switch _ | .cluster switch _ => Switch.Declared switch
  | _ => True

theorem declared_of_mem {word : String} {switch : Switch} (member : (word, switch) ∈ switches) :
    Switch.Declared switch := by
  rintro given rfl
  exact List.mem_cons_of_mem _ (List.mem_filterMap.mpr ⟨_, member, rfl⟩)

theorem declared_of_lookup {word : String} {switch : Switch}
    (found : switches.lookup word = some switch) : Switch.Declared switch := by
  obtain ⟨front, behind, split, -⟩ := List.lookup_eq_some_iff.mp found
  have member : (word, switch) ∈ switches := by
    rw [split]
    simp
  exact declared_of_mem member

theorem candidates_declared {argument : List Char} {word : String} {meaning : Argument}
    (member : (word, meaning) ∈ candidates argument) : meaning.Declared := by
  unfold candidates at member
  split at member
  · obtain ⟨⟨other, switch⟩, among, same⟩ := List.mem_map.mp member
    cases same
    exact declared_of_mem (List.mem_filter.mp among).1
  · next letter others _ =>
      obtain ⟨switch, found, same⟩ := List.mem_map.mp member
      cases same
      exact declared_of_lookup (Option.mem_toList.mp found)
  · cases member

/-- Only settings of the program are set. -/
theorem classify_declared {argument : String} {meaning : Argument}
    (classified : classify argument = .ok meaning) : meaning.Declared := by
  unfold classify at classified
  dsimp only at classified
  split at classified
  · split at classified
    · next found =>
        cases classified
        exact declared_of_lookup found
    · next found =>
        split at classified <;> cases classified <;> exact declared_of_lookup found
    · split at classified
      · next only =>
          cases classified
          exact candidates_declared (only ▸ List.mem_singleton_self _)
      · split at classified <;> cases classified <;> trivial
      · cases classified
  · cases classified
    trivial

theorem classifyAll_declared {arguments : List String} {meanings : List Argument}
    (classified : classifyAll arguments = .ok meanings) :
    ∀ meaning ∈ meanings, meaning.Declared := by
  induction arguments generalizing meanings with
  | nil =>
      cases classified
      simp
  | cons argument rest ih =>
      unfold classifyAll at classified
      split at classified
      · cases classified
        intro meaning member
        rcases List.mem_cons.mp member with rfl | member
        · trivial
        · obtain ⟨text, -, rfl⟩ := List.mem_map.mp member
          trivial
      · obtain ⟨head, first, classified⟩ := bind_eq_ok.mp classified
        obtain ⟨tail, later, ⟨⟩⟩ := bind_eq_ok.mp classified
        intro meaning member
        rcases List.mem_cons.mp member with rfl | member
        · exact classify_declared first
        · exact ih later meaning member

/-- The value of a use, for a setting of its name. -/
def Reads (use : String × Option String) (field : String × Value) : Prop :=
  field.1 = use.1 ∧ ∃ conversion usual, (use.1, conversion, usual) ∈ settings ∧
    readUse conversion use.2 = .ok field.2

theorem giveValue_inv {given : Setting} {text : String} {reading next : Reading}
    (gave : giveValue given text reading = .ok next) :
    ∃ value, readUse given.conversion (some text) = .ok value ∧
      next = reading.give given.name value := by
  unfold giveValue at gave
  split at gave
  · next value converted =>
      cases gave
      exact ⟨value, converted, rfl⟩
  · cases gave

theorem giveJoined_inv {given : Setting} {text : String} {reading next : Reading}
    (gave : giveJoined given text reading = .ok next) :
    ∃ value, readUse given.conversion (if text = "--" then none else some text) = .ok value ∧
      next = reading.give given.name value := by
  unfold giveJoined at gave
  split
  · next dashes =>
      rw [if_pos dashes] at gave
      cases gave
      exact ⟨_, rfl, rfl⟩
  · next other =>
      rw [if_neg other] at gave
      exact giveValue_inv gave

/-- Fields that are given by uses, from a reading on, to the end. -/
def GivenBy (uses : List (String × Option String)) (reading final : Reading) : Prop :=
  ∃ fields, List.Forall₂ Reads uses fields ∧ final.given = setFields reading.given fields

theorem GivenBy.cons {use : String × Option String} {value : Value}
    {uses : List (String × Option String)} {reading next final : Reading}
    (head : Reads use (use.1, value)) (set : next.given = setField use.1 value reading.given)
    (tail : GivenBy uses next final) : GivenBy (use :: uses) reading final := by
  obtain ⟨fields, reads, given⟩ := tail
  refine ⟨(use.1, value) :: fields, .cons head reads, ?_⟩
  rw [given, set]
  rfl

theorem GivenBy.operand {text : String} {uses : List (String × Option String)}
    {reading final : Reading} (tail : GivenBy uses (reading.takeOperand text) final) :
    GivenBy (("events", some text) :: uses) reading final :=
  .cons ⟨rfl, .text, .text "-", List.mem_cons_self, rfl⟩ rfl tail

theorem GivenBy.setting {given : Setting} {use : Option String} {value : Value}
    {uses : List (String × Option String)} {reading final : Reading}
    (declared : Switch.Declared (.setting given))
    (converted : readUse given.conversion use = .ok value)
    (tail : GivenBy uses (reading.give given.name value) final) :
    GivenBy ((given.name, use) :: uses) reading final :=
  .cons ⟨rfl, given.conversion, given.usual, declared given rfl, converted⟩ rfl tail

/-- What is given in the end is given by the uses, one after the other. -/
theorem readFrom_given {arguments : List Argument} {reading final : Reading}
    (declared : ∀ meaning ∈ arguments, meaning.Declared)
    (ended : readFrom arguments reading = .ok final) :
    GivenBy (uses reading.awaitsOperand arguments) reading final := by
  fun_induction readFrom arguments reading with
  | case1 =>
      cases ended
      exact ⟨[], .nil, rfl⟩
  | case2 text rest reading awaits ih =>
      rw [awaits]
      exact .operand (ih (fun _ among => declared _ (by simp [among])) ended)
  | case3 text rest reading taken ih =>
      have given := ih (fun _ among => declared _ (by simp [among])) ended
      rw [Bool.not_eq_true] at taken
      rw [taken]
      rwa [show ((reading.leave text).leave "--").awaitsOperand = false from taken] at given
  | case4 text rest reading _ ih =>
      have given := ih (fun _ among => declared _ (by simp [among])) ended
      by_cases awaits : reading.awaitsOperand
      · rw [if_pos awaits] at given
        rw [awaits]
        exact .operand given
      · rw [if_neg awaits] at given
        rw [Bool.not_eq_true] at awaits
        rw [awaits]
        rwa [show (reading.leave text).awaitsOperand = false from awaits] at given
  | case5 text rest reading awaits ih =>
      rw [awaits]
      exact .operand (ih (fun _ among => declared _ (by simp [among])) ended)
  | case6 text rest reading taken ih =>
      have given := ih (fun _ among => declared _ (by simp [among])) ended
      rw [Bool.not_eq_true] at taken
      rw [taken]
      rwa [show ((reading.leave "--").leave text).awaitsOperand = false from taken] at given
  | case7 rest reading _ ih =>
      have given := ih (fun _ among => declared _ (by simp [among])) ended
      by_cases awaits : reading.awaitsOperand
      · rwa [if_pos awaits] at given
      · rwa [if_neg awaits] at given
  | case8 word rest reading ih =>
      exact ih (fun _ among => declared _ (by simp [among])) ended
  | case9 given value rest reading ih =>
      obtain ⟨next, gave, ended⟩ := bind_eq_ok.mp ended
      obtain ⟨read, converted, rfl⟩ := giveJoined_inv gave
      have own := declared (.option (.setting given) (some value)) (by simp)
      exact .setting own converted (ih _ (fun _ among => declared _ (by simp [among])) ended)
  | case10 given text rest reading ih =>
      obtain ⟨next, gave, ended⟩ := bind_eq_ok.mp ended
      obtain ⟨read, converted, rfl⟩ := giveValue_inv gave
      have own := declared (.option (.setting given) none) (by simp)
      exact .setting own converted (ih _ (fun _ among => declared _ (by simp [among])) ended)
  | case11 given others rest reading ih =>
      obtain ⟨next, gave, ended⟩ := bind_eq_ok.mp ended
      obtain ⟨read, converted, rfl⟩ := giveValue_inv gave
      have own := declared (.cluster (.setting given) others) (by simp)
      exact .setting own converted (ih _ (fun _ among => declared _ (by simp [among])) ended)
  | case12 => cases ended

end Uses

section Given

variable {arguments : List String} {meanings : List Argument} {reading : Reading}

theorem read_given (classified : classifyAll arguments = .ok meanings)
    (ended : read arguments = .ok reading) :
    ∃ fields, List.Forall₂ Reads (uses true meanings) fields ∧
      reading.given = setFields [] fields := by
  obtain ⟨_, again, ended⟩ := bind_eq_ok.mp ended
  cases classified.symm.trans again
  exact readFrom_given (classifyAll_declared classified) ended

theorem classified_of_read (ended : read arguments = .ok reading) :
    ∃ meanings, classifyAll arguments = .ok meanings := by
  obtain ⟨meanings, classified, -⟩ := bind_eq_ok.mp ended
  exact ⟨meanings, classified⟩

/-- What a setting is given is its last use, converted. -/
theorem given_lookup (classified : classifyAll arguments = .ok meanings)
    (ended : read arguments = .ok reading) (name : String) :
    Option.Rel (fun use value => Reads (name, use) (name, value))
      (lastField name (uses true meanings)) (reading.given.lookup name) := by
  obtain ⟨fields, reads, given⟩ := read_given classified ended
  rw [given, lookup_setFields_nil]
  exact lastField_forall₂ (fun _ _ read => read.1) reads name

end Given

end CommandLine

end GantryCode
