import GantryCode.Axis
import GantryCode.Fields

namespace GantryCode

/-! What the controller was last told.

There is a slot for every letter and one for the interpolation plane; an empty slot
means that the controller's value is not known. Letters can also be named together,
as a stretch of their order. Such a name has a slot only after a value was forced
into it.
-/

structure Slots where
  x : Option String := none
  y : Option String := none
  z : Option String := none
  i : Option String := none
  j : Option String := none
  k : Option String := none
  f : Option String := none
  plane : Option String := none
  stretches : List (String × Option String) := []
deriving DecidableEq, Repr

namespace Slots

def get (slots : Slots) : Letter → Option String
  | .x => slots.x
  | .y => slots.y
  | .z => slots.z
  | .i => slots.i
  | .j => slots.j
  | .k => slots.k
  | .f => slots.f

def set (slots : Slots) (letter : Letter) (text : Option String) : Slots :=
  match letter with
  | .x => { slots with x := text }
  | .y => { slots with y := text }
  | .z => { slots with z := text }
  | .i => { slots with i := text }
  | .j => { slots with j := text }
  | .k => { slots with k := text }
  | .f => { slots with f := text }

variable (slots : Slots) (letter other : Letter) (text : Option String)

@[simp] theorem get_set_same : (slots.set letter text).get letter = text := by
  cases letter <;> rfl

theorem get_set_of_ne {letter other : Letter} (different : other ≠ letter) :
    (slots.set letter text).get other = slots.get other := by
  cases letter <;> cases other <;> first | rfl | exact absurd rfl different

@[simp] theorem plane_set : (slots.set letter text).plane = slots.plane := by
  cases letter <;> rfl

@[simp] theorem stretches_set : (slots.set letter text).stretches = slots.stretches := by
  cases letter <;> rfl

def planeGroup : String := "plane"

/-- The slot that a name is a key of. Letters are named in upper case or lower case,
the plane only by its own name. -/
inductive Key where
  | letter (letter : Letter)
  | plane
  | stretch (name : String)
deriving DecidableEq, Repr

def keyName (name : String) : String :=
  if name = planeGroup then name else Text.upper name

def keyOf (name : String) : Key :=
  if name = planeGroup then .plane
  else
    match Letter.ofName? (Text.upper name) with
    | some letter => .letter letter
    | none => .stretch (Text.upper name)

def find? (slots : Slots) : Key → Option (Option String)
  | .letter letter => some (slots.get letter)
  | .plane => some slots.plane
  | .stretch name => slots.stretches.lookup name

def store (slots : Slots) (key : Key) (text : Option String) : Slots :=
  match key with
  | .letter letter => slots.set letter text
  | .plane => { slots with plane := text }
  | .stretch name => { slots with stretches := setField name text slots.stretches }

def forget (slots : Slots) (letters : List Letter) : Slots :=
  letters.foldl (fun slots letter => slots.set letter none) slots

def cleared (slots : Slots) : Slots :=
  { stretches := slots.stretches.map fun (name, _) => (name, none) }

end Slots

end GantryCode
