import GantryCode.Event
import GantryCode.Text.Blank
import GantryCode.Text.Upper

namespace GantryCode

/-! Events read from JSON, one on a line.

A field that is absent and a field that is null are often but not always alike.
Fields that an event does not know are ignored. Blank lines and lines that start
with a number sign hold no event.
-/

namespace Event

/-- A field where null stands for an absent one. -/
def given? (event : Value) (name : String) : Option Value :=
  match event.field? name with
  | none | some .null => none
  | some value => some value

def reject {α : Type} (reason : EventFault) : Except Fault α :=
  .error (.event none reason)

def isNumber : Value → Bool
  | .int _ | .float _ => true
  | _ => false

def toFloat : Value → Except Fault Float
  | .int n =>
      match Decimal.floatOfInt? n with
      | some x => .ok x
      | none => .error .integerTooLarge
  | .float x => .ok x
  | _ => .ok 0

def readNumber (event : Value) (name : String) : Except Fault (Option Float) :=
  match given? event name with
  | none => .ok none
  | some value => if isNumber value then (toFloat value).map some else reject (.notANumber name)

def requireNumber (event : Value) (name : String) : Except Fault Float := do
  match ← readNumber event name with
  | some x => .ok x
  | none => reject (.missingNumber name)

def readPoint (event : Value) (name : String) : Except Fault (Option (Coordinates Float)) :=
  match given? event name with
  | none => .ok none
  | some (.list [x, y, z]) =>
      if isNumber x && isNumber y && isNumber z then do
        .ok (some ⟨← toFloat x, ← toFloat y, ← toFloat z⟩)
      else reject (.notAPoint name)
  | some _ => reject (.notAPoint name)

def requirePoint (event : Value) (name : String) : Except Fault (Coordinates Float) := do
  match ← readPoint event name with
  | some point => .ok point
  | none => reject (.missingPoint name)

/-- A flag that may be absent only where there is a default; null is no flag. -/
def readFlag (event : Value) (name : String) (default : Option Bool) : Except Fault Bool :=
  match event.field? name, default with
  | some (.bool flag), _ => .ok flag
  | none, some flag => .ok flag
  | _, _ => reject (.notAFlag name)

def readText (event : Value) (name : String) : Except Fault (Option String) :=
  match given? event name with
  | none => .ok none
  | some (.text chars) => .ok (some chars)
  | some _ => reject (.notAText name)

section Shown

variable (platform : Platform)

def textOf (value : Value) : Except Fault String :=
  (value.asText platform.showDepth).mapError .ofObstacle

/-- The plane of an arc: null for none of the principal planes. -/
def readPlane (event : Value) : Except Fault (Option Plane) :=
  match event.field? "plane" with
  | none => .ok (some .xy)
  | some .null => .ok none
  | some value => do
      let name ← textOf platform value
      match Plane.ofName? (Text.upper name) with
      | some plane => .ok (some plane)
      | none => reject (.unknownPlane name)

end Shown

def readJetMode (event : Value) : Except Fault Int :=
  match event.field? "jet_mode" with
  | none => .ok 0
  | some (.int mode) => .ok mode
  | some _ => reject (.notAnInteger "jet_mode")

def readSection (event : Value) : Except Fault Section := do
  let jetMode ← readJetMode event
  let isFirst ← readFlag event "is_first" (some false)
  let isJet ← readFlag event "is_jet" (some true)
  let comment ← readText event "comment"
  .ok { isFirst, isJet, jetMode, comment }

def readTarget (event : Value) : Except Fault (Coordinates (Option Float)) := do
  .ok ⟨← readNumber event "x", ← readNumber event "y", ← readNumber event "z"⟩

section Events

variable (platform : Platform)

def readArc (event : Value) : Except Fault ArcMove := do
  let plane ← readPlane platform event
  let axis ← readPoint event "normal"
  if plane.isNone && axis.isNone then reject .missingNormal
  let clockwise ← readFlag event "clockwise" (some false)
  let center ← requirePoint event "center"
  let finish ← requirePoint event "end"
  let feed ← requireNumber event "feed"
  let start ← readPoint event "start"
  .ok { clockwise, center, finish, feed := some feed, plane, start, axis }

def ofNamed (name : String) (event : Value) : Except Fault Event :=
  match name with
  | "start_run" => (readText event "comment").map .startRun
  | "start_section" => (readSection event).map .startSection
  | "end_section" => .ok .endSection
  | "dwell" => (requireNumber event "seconds").map .dwell
  | "power" => (readFlag event "on" none).map .power
  | "rapid" => (readTarget event).map .rapid
  | "linear" => do
      let target ← readTarget event
      let feed ← requireNumber event "feed"
      .ok (.linear target (some feed))
  | "circular" => (readArc platform event).map .circular
  | "end_run" => .ok .endRun
  | _ => reject (.unknownEvent name)

def ofValue (value : Value) : Except Fault Event :=
  match value with
  | .object _ =>
      match value.field? "event" with
      | some (.text name) => ofNamed platform name value
      | some (.list _) => .error .listAsName
      | some (.object _) => .error .objectAsName
      | some other => do reject (.unknownEvent (← textOf platform other))
      | none => reject (.unknownEvent Value.null.shown)
  | _ => reject .notAnObject

def faultOfJson : Json.Fault → Fault
  | .malformed reason place => .event none (.malformed reason place)
  | .tooManyDigits count => .tooManyDigits count
  | .tooDeep nest => .nestedTooDeep nest

def readLine (line : String) : Except Fault (Option Value) :=
  let text := Text.stripped line
  if text = "" || text.toList.head? = some '#' then .ok none
  else
    match Json.read platform.half platform.readDepth text with
    | .ok value => .ok (some value)
    | .error fault => .error (faultOfJson fault)

/-- The values on the lines of a stream with the numbers of their lines, up to the
first fault. The first line has the number that is given. -/
def readLines (number : Nat) : List String → List (Nat × Value) × Option Fault
  | [] => ([], none)
  | line :: rest =>
      match readLine platform line with
      | .error fault => ([], some (fault.atLine number))
      | .ok none => readLines (number + 1) rest
      | .ok (some value) =>
          let (values, fault) := readLines (number + 1) rest
          ((number, value) :: values, fault)

end Events

end Event

namespace Emitter

def dispatch (value : Value) : Emission Unit := do
  let event ← fromResult (Event.ofValue (← get).options.platform value)
  perform event

def atLine {α : Type} (line : Nat) (action : Emission α) : Emission α := fun emitter =>
  match action emitter with
  | .ok result emitter => .ok result emitter
  | .error fault emitter => .error (fault.atLine line) emitter

/-- Performs what a line asks for; the count of events grows if it held one. -/
def replayLine (number count : Nat) (line : String) : Emission Nat :=
  atLine number do
    match ← fromResult (Event.readLine (← get).options.platform line) with
    | none => return count
    | some value =>
        dispatch value
        return count + 1

/-- Performs the events of the lines in turn. The first line has the number that is
given. -/
def replayFrom (number count : Nat) : List String → Emission Nat
  | [] => pure count
  | line :: rest => do
      let count ← replayLine number count line
      replayFrom (number + 1) count rest

def replay (lines : List String) : Emission Nat := do
  let count ← replayFrom 1 0 lines
  notify (.replayed count)
  return count

end Emitter

end GantryCode
