import GantryCode.Json

namespace GantryCode

/-! Everything that can go wrong while events become G code, by cause.

A fault of an event carries the number of its line once the line is known.
-/

inductive EventFault where
  | malformed (reason : Json.Reason) (place : Json.Place)
  | notAnObject
  | unknownEvent (shown : String)
  | missingNumber (field : String)
  | notANumber (field : String)
  | missingPoint (field : String)
  | notAPoint (field : String)
  | notAFlag (field : String)
  | notAText (field : String)
  | notAnInteger (field : String)
  | unknownPlane (shown : String)
  | missingNormal
deriving DecidableEq, Repr

inductive OptionFault where
  | rapidFeed
  | tolerance
  | segmentLimit
  | target (name : String)
deriving DecidableEq, Repr

/-- What a value is needed for that values of its type cannot be used for. -/
inductive Purpose where
  | text
  | sum
  | lowerBound
  | count
  | name
  | command
deriving DecidableEq, Repr

inductive Fault where
  | unknownTarget (name : String)
  | undefinedParameter (name : String)
  | undefinedGroup (name : String)
  | noSlot (name : String)
  | negativePrecision
  | precisionTooLarge
  | precisionTooLong
  | zeroAxis
  | startOnAxis
  | missingAxis
  | unknownPosition
  | divisionByZero
  | arccosineDomain
  | roundingNotANumber
  | roundingInfinity
  | integerTooLarge
  | tooManyDigits (count : Nat)
  | integerTextTooLong
  | nestedTooDeep (nest : Json.Nest)
  | shownTooDeep
  | listAsName
  | objectAsName
  | wrongType (purpose : Purpose) (typeName : String)
  | options (reason : OptionFault)
  | event (line : Option Nat) (reason : EventFault)
deriving DecidableEq, Repr

def inQuotes (text : String) : String :=
  "\"" ++ text ++ "\""

def EventFault.message : EventFault → String
  | .malformed reason place =>
      reason.message ++ ": line " ++ Text.decimal place.line ++ " column " ++
        Text.decimal place.column ++ " (char " ++ Text.decimal place.offset ++ ")"
  | .notAnObject => "event must be a JSON object"
  | .unknownEvent shown => "unknown event " ++ inQuotes shown
  | .missingNumber field => "missing value for " ++ inQuotes field
  | .notANumber field => inQuotes field ++ " must be a number"
  | .missingPoint field => "missing point " ++ inQuotes field
  | .notAPoint field => inQuotes field ++ " must be a list of three numbers"
  | .notAFlag field => inQuotes field ++ " must be true or false"
  | .notAText field => inQuotes field ++ " must be a string"
  | .notAnInteger field => inQuotes field ++ " must be an integer"
  | .unknownPlane shown => "unknown plane " ++ inQuotes shown
  | .missingNormal => "\"normal\" is required when \"plane\" is null"

def OptionFault.message : OptionFault → String
  | .rapidFeed => "Rapid feed rates must be greater than zero."
  | .tolerance => "Arc tolerance must be greater than zero."
  | .segmentLimit => "Arc segment limit must be at least one."
  | .target name => "Unknown target machine: " ++ name

def Purpose.message (typeName : String) : Purpose → String
  | .text => "unsupported format string passed to " ++ typeName ++ ".__format__"
  | .sum => "unsupported operand type(s) for +: 'float' and '" ++ typeName ++ "'"
  | .lowerBound => "'<=' not supported between instances of '" ++ typeName ++ "' and 'int'"
  | .count => "'<' not supported between instances of '" ++ typeName ++ "' and 'int'"
  | .name => "'" ++ typeName ++ "' object has no attribute 'lower'"
  | .command =>
      if typeName = "bytes" then "sequence item 0: expected str instance, bytes found"
      else "'" ++ typeName ++ "' object has no attribute 'strip'"

namespace Fault

def message : Fault → String
  | .unknownTarget name => "Unknown target machine: " ++ name
  | .undefinedParameter name => "Undefined parameter " ++ name
  | .undefinedGroup name => "Undefined modal group " ++ name
  | .noSlot name => Text.quoted name
  | .negativePrecision => "Format specifier missing precision"
  | .precisionTooLarge => "precision too big"
  | .precisionTooLong => "Too many decimal digits in format string"
  | .zeroAxis => "Arc axis has zero length."
  | .startOnAxis => "Arc start point lies on the arc axis."
  | .missingAxis => "An arc outside the XY, ZX and YZ planes needs an axis."
  | .unknownPosition => "Current position is unknown, cannot start an arc."
  | .divisionByZero => "float division by zero"
  | .arccosineDomain => "math domain error"
  | .roundingNotANumber => "cannot convert float NaN to integer"
  | .roundingInfinity => "cannot convert float infinity to integer"
  | .integerTooLarge => "int too large to convert to float"
  | .tooManyDigits count =>
      "Exceeds the limit (4300 digits) for integer string conversion: value has " ++
        Text.decimal count ++ " digits; use sys.set_int_max_str_digits() to increase the limit"
  | .integerTextTooLong =>
      "Exceeds the limit (4300 digits) for integer string conversion; use " ++
        "sys.set_int_max_str_digits() to increase the limit"
  | .nestedTooDeep .array =>
      "maximum recursion depth exceeded while decoding a JSON array from a unicode string"
  | .nestedTooDeep .object =>
      "maximum recursion depth exceeded while decoding a JSON object from a unicode string"
  | .shownTooDeep => "maximum recursion depth exceeded while getting the repr of an object"
  | .listAsName => "unhashable type: 'list'"
  | .objectAsName => "unhashable type: 'dict'"
  | .wrongType purpose typeName => purpose.message typeName
  | .options reason => reason.message
  | .event none reason => reason.message
  | .event (some line) reason => "line " ++ Text.decimal line ++ ": " ++ reason.message

def ofObstacle : Value.Obstacle → Fault
  | .tooLong => .integerTextTooLong
  | .tooDeep => .shownTooDeep

def atLine (line : Nat) : Fault → Fault
  | .event _ reason => .event (some line) reason
  | fault => fault

end Fault

end GantryCode
