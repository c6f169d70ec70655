import GantryCode.Decimal.Shortest
import GantryCode.Fields
import GantryCode.Text.Quoted

namespace GantryCode

/-! Values of the data formats: events, machine files and option settings.

An integer and a floating-point number of the same size are different values. The
fields of an object are in the order in which their names first occurred. Machine
files can hold values of further types, such as dates, which are good for nothing
but to be shown.
-/

structure Foreign where
  typeName : String
  /-- The value by itself, and inside a list or an object. -/
  message : String
  shown : String
  isTruthy : Bool
  /-- What it is as the name of a file, if it can be one, as bytes can. -/
  path? : Option String := none
  /-- It is not a mere word: there is something else than letters in it. -/
  marked : message.toList.any (fun c => c.toNat < 128 && !c.isAlpha) = true
deriving DecidableEq, Repr

inductive Value where
  | null
  | bool (flag : Bool)
  | int (n : Int)
  | float (x : Float)
  | text (chars : String)
  | list (items : List Value)
  | object (fields : List (String × Value))
  | foreign (other : Foreign)
deriving Inhabited

namespace Value

def isNull : Value → Bool
  | .null => true
  | _ => false

/-- The value of a field of an object; other values have no fields. -/
def field? (name : String) : Value → Option Value
  | .object fields => fields.lookup name
  | _ => none

def boolText (flag : Bool) : String :=
  if flag then "True" else "False"

mutual

/-- The value as it is shown inside a list or an object, with texts in quotes. -/
def shown : Value → String
  | .null => "None"
  | .bool flag => boolText flag
  | .int n => Text.signedDecimal n
  | .float x => Decimal.shortest x
  | .text chars => Text.quoted chars
  | .list items => "[" ++ shownItems items ++ "]"
  | .object fields => "\x7b" ++ shownFields fields ++ "\x7d"
  | .foreign other => other.shown

def shownItems : List Value → String
  | [] => ""
  | [item] => item.shown
  | item :: rest => item.shown ++ ", " ++ shownItems rest

def shownFields : List (String × Value) → String
  | [] => ""
  | [(name, value)] => Text.quoted name ++ ": " ++ value.shown
  | (name, value) :: rest => Text.quoted name ++ ": " ++ value.shown ++ ", " ++ shownFields rest

end

def message : Value → String
  | .text chars => chars
  | .foreign other => other.message
  | value => value.shown

def typeName : Value → String
  | .null => "NoneType"
  | .bool _ => "bool"
  | .int _ => "int"
  | .float _ => "float"
  | .text _ => "str"
  | .list _ => "list"
  | .object _ => "dict"
  | .foreign other => other.typeName

def digitLimit : Nat := 4300

/-- Whether an integer has few enough digits to be shown. -/
@[irreducible] def isShort (n : Int) : Bool :=
  n.natAbs < Nat.pow 10 digitLimit

/-- What keeps a value from being shown. -/
inductive Obstacle where
  | tooLong
  | tooDeep
deriving DecidableEq, Repr

mutual

/-- The first thing in a value that cannot be shown: an integer with too many digits, or
a value that is inside of more others than the depth allows. -/
def obstacle? : Nat → Value → Option Obstacle
  | 0, _ => some .tooDeep
  | _ + 1, .int n => if isShort n then none else some .tooLong
  | depth + 1, .list items => itemsObstacle? depth items
  | depth + 1, .object fields => fieldsObstacle? depth fields
  | _ + 1, _ => none

def itemsObstacle? (depth : Nat) : List Value → Option Obstacle
  | [] => none
  | item :: rest => obstacle? depth item <|> itemsObstacle? depth rest

def fieldsObstacle? (depth : Nat) : List (String × Value) → Option Obstacle
  | [] => none
  | (_, value) :: rest => obstacle? depth value <|> fieldsObstacle? depth rest

end

/-- The value as a text. A text is what it is. -/
def asText (depth : Nat) : Value → Except Obstacle String
  | .text chars => .ok chars
  | value =>
      match value.obstacle? depth with
      | some obstacle => .error obstacle
      | none => .ok value.message

def isTruthy : Value → Bool
  | .null => false
  | .bool flag => flag
  | .int n => n != 0
  | .float x => x != 0
  | .text chars => chars != ""
  | .list items => !items.isEmpty
  | .object fields => !fields.isEmpty
  | .foreign other => other.isTruthy

/-- Yes and no are the numbers one and zero. -/
def isNumeric : Value → Bool
  | .bool _ | .int _ | .float _ => true
  | _ => false

def isText : Value → Bool
  | .text _ => true
  | _ => false

/-- The name of a file that a value is. -/
def path? : Value → Option String
  | .text name => some name
  | .foreign other => other.path?
  | _ => none

end Value

end GantryCode
