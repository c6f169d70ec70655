namespace GantryCode

/-! Named values in the order in which their names first occurred. -/

/-- Gives a name a value: a name that is already there keeps its place. -/
def setField {α : Type u} (name : String) (value : α) : List (String × α) → List (String × α)
  | [] => [(name, value)]
  | (other, old) :: rest =>
      if other = name then (other, value) :: rest else (other, old) :: setField name value rest

theorem lookup_setField {α : Type u} (fields : List (String × α)) (name : String) (value : α) :
    (setField name value fields).lookup name = some value := by
  induction fields with
  | nil => simp [setField]
  | cons field rest ih =>
      obtain ⟨other, old⟩ := field
      by_cases same : other = name
      · simp [setField, same]
      · have different : (name == other) = false := by simpa using Ne.symm same
        simp [setField, same, List.lookup_cons, different, ih]

theorem lookup_setField_of_ne {α : Type u} (fields : List (String × α)) {name other : String}
    (value : α) (different : other ≠ name) :
    (setField name value fields).lookup other = fields.lookup other := by
  induction fields with
  | nil => simp [setField, List.lookup_cons, beq_false_of_ne different]
  | cons field rest ih =>
      obtain ⟨first, old⟩ := field
      by_cases same : first = name
      · subst same
        simp [setField, List.lookup_cons, beq_false_of_ne different]
      · simp [setField, same, List.lookup_cons, ih]

end GantryCode
