import GantryCode.Decimal.Reader
import GantryCode.Value
import GantryCode.Yaml.Token

namespace GantryCode.Yaml

/-! What a plain scalar stands for by its form: nothing, yes or no, a number, or its
own text.

Numbers may hold underscores. A leading zero makes an octal number, and digits in
groups that colons part are in base sixty.
-/

namespace Plain

def isOneOf (words : List String) (text : List Char) : Bool :=
  words.any (·.toList == text)

def nullWords : List String :=
  ["", "~", "null", "Null", "NULL"]

def yesWords : List String :=
  ["yes", "Yes", "YES", "true", "True", "TRUE", "on", "On", "ON"]

def noWords : List String :=
  ["no", "No", "NO", "false", "False", "FALSE", "off", "Off", "OFF"]

def isDigitOrUnderscore (c : Char) : Bool :=
  c.isDigit || c = '_'

def isDigitRun (text : List Char) : Bool :=
  !text.isEmpty && text.all Char.isDigit

/-- A digit and after it digits and underscores. -/
def isNumberRun (text : List Char) : Bool :=
  text.head?.any Char.isDigit && text.all isDigitOrUnderscore

def isExponent (text : List Char) : Bool :=
  match text with
  | [] => true
  | mark :: sign :: digits =>
      (mark = 'e' || mark = 'E') && (sign = '+' || sign = '-') && isDigitRun digits
  | _ => false

def colonGroups (text : List Char) : List (List Char) :=
  text.splitOn ':'

/-- A group of base sixty after the first: one or two digits below sixty. -/
def isMinute (text : List Char) : Bool :=
  match text with
  | [digit] => digit.isDigit
  | [tens, digit] => '0' ≤ tens && tens ≤ '5' && digit.isDigit
  | _ => false

def splitPoint (text : List Char) : List Char × Option (List Char) :=
  match text.dropWhile (· ≠ '.') with
  | '.' :: rest => (text.takeWhile (· ≠ '.'), some rest)
  | _ => (text, none)

def isPointNumber (text : List Char) : Bool :=
  match splitPoint text with
  | (whole, some rest) =>
      (whole.isEmpty && rest.head?.any Char.isDigit || isNumberRun whole) &&
        isExponent (rest.dropWhile isDigitOrUnderscore)
  | (_, none) => false

/-- Groups of base sixty the last of which has a fraction. -/
def isSexagesimalFloat (text : List Char) : Bool :=
  match splitPoint text with
  | (whole, some fraction) =>
      match colonGroups whole with
      | first :: minute :: rest =>
          isNumberRun first && (minute :: rest).all isMinute && fraction.all isDigitOrUnderscore
      | _ => false
  | (_, none) => false

def withoutUnderscores (text : List Char) : List Char :=
  text.filter (· ≠ '_')

def decimalFloat (text : List Char) : Float :=
  (Decimal.readMagnitude? text).getD 0

/-- The value of groups of base sixty, from the last to the first. `base` is the weight
of the first of them, and `sum` the value of those before. Even a group of zero needs
a weight that is a floating-point number. -/
def sexagesimalFloat (sum : Float) (base : Nat) : List (List Char) → Except Fault Float
  | [] => .ok sum
  | group :: rest =>
      match Decimal.floatOfInt? base with
      | some weight => sexagesimalFloat (sum + decimalFloat group * weight) (base * 60) rest
      | none => .error .integerTooLarge

/-- The number that a text with a point stands for. A number that starts with its
point has no sign. -/
def float? (text : List Char) : Option (Except Fault Float) :=
  let (negative, unsigned) := Decimal.readSign text
  let isSigned := unsigned.length ≠ text.length
  let plain := withoutUnderscores unsigned
  if isPointNumber unsigned && !(isSigned && unsigned.head? = some '.') then
    some (.ok (Decimal.signed negative (decimalFloat plain)))
  else if isSexagesimalFloat unsigned then
    some ((sexagesimalFloat 0 1 (colonGroups plain).reverse).map (Decimal.signed negative))
  else if isOneOf [".inf", ".Inf", ".INF"] unsigned then
    some (.ok (Decimal.signed negative (1 / 0)))
  else if isOneOf [".nan", ".NaN", ".NAN"] text then some (.ok (0 / 0))
  else none

def isHex (c : Char) : Bool :=
  (hexValue? c).isSome

def basedDigits? (letter : Char) (isDigit : Char → Bool) (text : List Char) :
    Option (List Char) :=
  match text with
  | '0' :: mark :: digits =>
      if mark = letter && !digits.isEmpty && digits.all (fun c => isDigit c || c = '_') then
        some (withoutUnderscores digits)
      else none
  | _ => none

def based (base : Nat) (digits : List Char) : Except Fault Nat :=
  if digits.isEmpty then .error (.badInteger base "") else .ok (Text.natOfDigits base digits)

def decimalNat (digits : List Char) : Except Fault Nat :=
  if Decimal.integerDigitLimit < digits.length then .error (.tooManyDigits digits.length)
  else .ok (Text.natOfDigits 10 digits)

def isOctal (c : Char) : Bool :=
  '0' ≤ c && c ≤ '7'

def startsAboveZero (text : List Char) : Bool :=
  text.head?.any fun c => '1' ≤ c && c ≤ '9'

def nat? (text : List Char) : Option (Except Fault Nat) :=
  match basedDigits? 'b' (fun c => c = '0' || c = '1') text, basedDigits? 'x' isHex text with
  | some digits, _ => some (based 2 digits)
  | none, some digits => some (based 16 digits)
  | none, none =>
      let plain := withoutUnderscores text
      if text.head? = some '0' then
        if text.tail.all (fun c => isOctal c || c = '_') then some (.ok (Text.natOfDigits 8 plain))
        else none
      else if !startsAboveZero text then none
      else if text.all isDigitOrUnderscore then some (decimalNat plain)
      else
        match colonGroups text with
        | first :: minute :: rest =>
            if isNumberRun first && (minute :: rest).all isMinute then
              some ((decimalNat (withoutUnderscores first)).map fun first =>
                (minute :: rest).foldl
                  (fun sum group => sum * 60 + Text.natOfDigits 10 group) first)
            else none
        | _ => none

def int? (text : List Char) : Option (Except Fault Int) :=
  let (negative, unsigned) := Decimal.readSign text
  (nat? unsigned).map fun size => size.map fun n => if negative then -(n : Int) else n

/-- Words that stand for something only as a key of a mapping. -/
def reservedWords : List String :=
  ["=", "<<"]

def read (text : String) : Except Fault Value :=
  let chars := text.toList
  if isOneOf nullWords chars then .ok .null
  else if isOneOf yesWords chars then .ok (.bool true)
  else if isOneOf noWords chars then .ok (.bool false)
  else if isOneOf reservedWords chars then .error .malformed
  else
    match float? chars, int? chars with
    | some x, _ => x.map .float
    | none, some n => n.map .int
    | none, none => .ok (.text text)

end Plain

end GantryCode.Yaml
