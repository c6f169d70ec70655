import GantryCode.Writer.Basic

namespace GantryCode.Writer

/-! The writer as its users address it, by the names of parameters and groups.

A parameter is named by its letter in either case. Consecutive letters in their
order, and no letter at all, are accepted for names too, but such a name has no slot
until a value is forced into one.
-/

def parameterLetters : List Char :=
  ['X', 'Y', 'Z', 'I', 'J', 'K', 'F']

def isParameterName (name : String) : Bool :=
  isStretchOf name.toList parameterLetters

def isWholeName (name : String) : Bool :=
  isStretchOf name.toList ['F']

def namedText (writer : Writer) (name : String) (value : Float) : Except Fault String :=
  writer.valueText (isWholeName name) value

def stretchWord (name : String) (value : Float) (force : Bool) : Writing (Option String) := do
  let writer ← get
  let text ← MonadExcept.ofExcept (writer.namedText name value)
  let stored := writer.setSlot (.stretch name) (some text)
  match writer.slots.find? (.stretch name), force with
  | none, false => throw (.noSlot name)
  | some held, false =>
      if held == some text then
        pure none
      else
        set stored
        pure (some (name ++ text))
  | _, true =>
      set stored
      pure (some (name ++ text))

def param (name : String) (value : Option Float) (force : Bool) : Writing (Option String) :=
  match Letter.ofName? (Text.upper name) with
  | some letter => word letter value force
  | none =>
      if isParameterName (Text.upper name) then
        match value with
        | none => pure none
        | some value => stretchWord (Text.upper name) value force
      else throw (.undefinedParameter (Text.upper name))

/-- The code of a modal group, unless it is in effect already. The plane is the only
group. -/
def modal (group code : String) (force : Bool) : Writing (Option String) :=
  if group = Slots.planeGroup then planeCode code force
  else throw (.undefinedGroup group)

def resetNames : List String → Writing Unit
  | [] => pure ()
  | name :: rest => do
      let writer ← get
      let key := Slots.keyOf name
      if (writer.slots.find? key).isNone then throw (.undefinedParameter name)
      set (writer.setSlot key none)
      resetNames rest

def reset (names : Option (List String)) : Writing Unit :=
  match names with
  | none => modify forgetAll
  | some names => resetNames names

def lastValue (writer : Writer) (name : String) : Except Fault (Option String) :=
  match writer.slots.find? (Slots.keyOf name) with
  | some held => .ok held
  | none => .error (.noSlot (Slots.keyName name))

end GantryCode.Writer
