namespace GantryCode

/-! Dialects of the controllers that G code is written for. -/

inductive Target where
  | generic
  | marlin
  | grbl
deriving DecidableEq, Repr

/-- What a controller has a code or a word of its own for. -/
inductive Feature where
  | description
  | setUnitsMm
  | absolutePositioning
  | home
  | dwell
  | dwellParam
  | finishMoves
  | disableMotors
  | beep
  | statusMessage
deriving DecidableEq, Repr

namespace Feature

def name : Feature → String
  | .description => "description"
  | .setUnitsMm => "set_units_mm"
  | .absolutePositioning => "absolute_positioning"
  | .home => "home"
  | .dwell => "dwell"
  | .dwellParam => "dwell_param"
  | .finishMoves => "finish_moves"
  | .disableMotors => "disable_motors"
  | .beep => "beep"
  | .statusMessage => "status_message"

def all : List Feature :=
  [.description, .setUnitsMm, .absolutePositioning, .home, .dwell, .dwellParam, .finishMoves,
    .disableMotors, .beep, .statusMessage]

def ofName? (name : String) : Option Feature :=
  all.find? (·.name == name)

/-- What every controller writes unless its dialect says otherwise. -/
def usual : Feature → String
  | .description => "Marlin 2.x"
  | .setUnitsMm => "G21"
  | .absolutePositioning => "G90"
  | .home => "G28"
  | .dwell => "G4"
  | .dwellParam => "S"
  | .finishMoves => "M400"
  | .disableMotors => "M84"
  | .beep => "M300 S440 P200"
  | .statusMessage => "M117"

end Feature

namespace Target

def name : Target → String
  | .generic => "default"
  | .marlin => "marlin"
  | .grbl => "grbl"

def all : List Target :=
  [.generic, .marlin, .grbl]

def selectable : List Target :=
  [.marlin, .grbl]

/-- Upper and lower case are alike. The names are of ASCII letters none of which is
the lower case of a letter outside ASCII. -/
def ofName? (name : String) : Option Target :=
  all.find? (·.name == name.toLower)

/-- What the dialect itself lays down: the code for a feature, or that there is
none. -/
def ownCode? : Target → Feature → Option (Option String)
  | .generic, feature => some (some feature.usual)
  | .marlin, _ => none
  | .grbl, .description => some (some "GRBL 1.1")
  | .grbl, .dwellParam => some (some "P")
  | .grbl, .finishMoves => some (some "G4 P0")
  | .grbl, .disableMotors => some none
  | .grbl, .beep => some none
  | .grbl, .statusMessage => some none
  | .grbl, _ => none

/-- The code for a feature; without one of its own the dialect has the usual one. -/
def code? (target : Target) (feature : Feature) : Option String :=
  (target.ownCode? feature).getD (some feature.usual)

/-- The code for a feature given by name. What the dialect does not lay down is the
fallback, or without a fallback the usual code. -/
def lookup? (target : Target) (name : String) (fallback : Option String) : Option String :=
  match Feature.ofName? name with
  | some feature => (target.ownCode? feature).getD (fallback <|> some feature.usual)
  | none => fallback

end Target

end GantryCode
