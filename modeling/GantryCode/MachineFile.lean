import GantryCode.Path
import GantryCode.Yaml.Document

namespace GantryCode

/-! Machine files: mappings of option names to values.

What a file holds is for a loader to say. Dashes in names stand for underscores.
-/

inductive MachineFault where
  | file (fault : FileFault)
  | malformed (message : String)
  | notAMapping
  | unknownOptions (names : List String)
deriving DecidableEq, Repr

/-- Faults of a machine file that no user is told of in plain words. -/
inductive MachineCrash where
  | listAsPath
  | nulInPath
  | undecodable (fault : Text.Utf8.Fault)
  | codeOutOfRange
  | codeTooLarge
  | badInteger (base : Nat) (digits : String)
  | tooManyDigits (count : Nat)
  | nameTooLong
  | nameTooDeep
  | integerTooLarge
  | unforeseen (message : String)
deriving DecidableEq, Repr

def MachineFault.message (path : String) (fault : MachineFault) : String :=
  path ++ ": " ++
    match fault with
    | .file fault => fault.message
    | .malformed message => message
    | .notAMapping => "machine options must be a mapping"
    | .unknownOptions names => "unknown options: " ++ ", ".intercalate names

def MachineCrash.message : MachineCrash → String
  | .listAsPath => "'list' object has no attribute 'open'"
  | .nulInPath => "embedded null byte"
  | .undecodable fault => fault.message
  | .codeOutOfRange => "chr() arg not in range(0x110000)"
  | .codeTooLarge => "Python int too large to convert to C int"
  | .badInteger base digits =>
      "invalid literal for int() with base " ++ Text.decimal base ++ ": " ++ Text.quoted digits
  | .tooManyDigits count => (Fault.tooManyDigits count).message
  | .nameTooLong => Fault.integerTextTooLong.message
  | .nameTooDeep => Fault.shownTooDeep.message
  | .integerTooLarge => Fault.integerTooLarge.message
  | .unforeseen message => message

/-- What keeps a loader from saying what a file holds. -/
inductive LoadFault where
  | malformed (message : String)
  | crash (crash : MachineCrash)
deriving DecidableEq, Repr

abbrev Loader := List UInt8 → Except LoadFault Yaml.Content

namespace MachineFile

inductive Failure where
  | fault (fault : MachineFault)
  | crash (crash : MachineCrash)
deriving DecidableEq, Repr

def crashOf : Value.Obstacle → MachineCrash
  | .tooLong => .nameTooLong
  | .tooDeep => .nameTooDeep

def optionName (key : String) : String :=
  key.map fun c => if c = '-' then '_' else c

/-- The options in the order in which their names first occur. Of several values for
a name the last counts. A key that cannot be shown is no name. -/
def optionsOf (depth : Nat) (entries : Yaml.Entries) : Except Failure (List (String × Value)) :=
  entries.foldlM (fun options (key, value) =>
    match key.asText depth with
    | .ok name => .ok (setField (optionName name) value options)
    | .error obstacle => .error (.crash (crashOf obstacle))) []

def ofFile (load : Loader) (depth : Nat) (content : Except FileFault (List UInt8)) :
    Except Failure (List (String × Value)) :=
  match content with
  | .error fault => .error (.fault (.file fault))
  | .ok bytes =>
      match load bytes with
      | .ok .nothing => .ok []
      | .ok (.mapping entries) => optionsOf depth entries
      | .ok .other => .error (.fault .notAMapping)
      | .error (.malformed message) => .error (.fault (.malformed message))
      | .error (.crash crash) => .error (.crash crash)

end MachineFile

namespace Yaml

def Fault.toLoadFault : Fault → LoadFault
  | .malformed | .unfinished => .malformed "<yaml error>"
  | .undecodable fault => .crash (.undecodable fault)
  | .codeOutOfRange => .crash .codeOutOfRange
  | .codeTooLarge => .crash .codeTooLarge
  | .badInteger base digits => .crash (.badInteger base digits)
  | .tooManyDigits count => .crash (.tooManyDigits count)
  | .integerTooLarge => .crash .integerTooLarge

/-- The loader for plain YAML: no anchors, tags or block scalars, and dates are texts. -/
def load : Loader := fun bytes =>
  (Content.read (.ofBytes bytes)).mapError Fault.toLoadFault

end Yaml

end GantryCode
