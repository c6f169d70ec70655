import GantryCode.Decimal.Reader
import GantryCode.Path
import GantryCode.Text.Blank
import GantryCode.Value

namespace GantryCode

/-! How the text of an option becomes its value. -/

inductive Conversion where
  | text
  | path
  | choice (allowed : List String)
  | flag
  | number
  | optionalNumber
  | count
deriving DecidableEq, Repr

inductive ConversionFault where
  | notAFlag (text : String)
  | notANumber (text : String)
  | invalidNumber (text : String)
  | invalidCount (text : String)
  | notAChoice (text : String) (allowed : List String)
deriving DecidableEq, Repr

def ConversionFault.message : ConversionFault → String
  | .notAFlag text => "Not a boolean value: " ++ text
  | .notANumber text => "Not a number: " ++ text
  | .invalidNumber text => "invalid float value: " ++ Text.quoted text
  | .invalidCount text => "invalid int value: " ++ Text.quoted text
  | .notAChoice text allowed =>
      "invalid choice: " ++ Text.quoted text ++ " (choose from " ++
        ", ".intercalate (allowed.map Text.quoted) ++ ")"

namespace Conversion

def trueWords : List String :=
  ["true", "yes", "on", "1"]

def falseWords : List String :=
  ["false", "no", "off", "0"]

/-- Blanks around a word and the case of its letters do not matter. None of the
letters is the lower case of a letter outside ASCII. -/
def lowerWord (text : String) : String :=
  (Text.stripped text).toLower

def flagOf : Value → Except ConversionFault Bool
  | .bool given => .ok given
  | value =>
      let word := lowerWord value.message
      if trueWords.contains word then .ok true
      else if falseWords.contains word then .ok false
      else .error (.notAFlag value.message)

/-- The number that a text writes; an empty text and the word for none are no
number, but allowed. -/
def optionalNumberOf (text : String) : Except ConversionFault (Option Float) :=
  let word := Text.stripped text
  if word = "" || word.toLower = "none" then .ok none
  else
    match Decimal.readFloat? word with
    | some x => .ok (some x)
    | none => .error (.notANumber text)

def read (conversion : Conversion) (text : String) : Except ConversionFault Value :=
  match conversion with
  | .text | .choice _ => .ok (.text text)
  | .path => .ok (.text (Path.normal text))
  | .flag => (flagOf (.text text)).map .bool
  | .number =>
      match Decimal.readFloat? text with
      | some x => .ok (.float x)
      | none => .error (.invalidNumber text)
  | .optionalNumber => do
      match ← optionalNumberOf text with
      | some x => .ok (.float x)
      | none => .ok .null
  | .count =>
      match Decimal.readInt? text with
      | some n => .ok (.int n)
      | none => .error (.invalidCount text)

def readGiven (conversion : Conversion) (text : String) : Except ConversionFault Value :=
  match conversion with
  | .choice allowed =>
      if allowed.contains text then .ok (.text text) else .error (.notAChoice text allowed)
  | conversion => conversion.read text

/-- The value of a default. Only texts are converted. -/
def readDefault (conversion : Conversion) : Value → Except ConversionFault Value
  | .text chars => conversion.read chars
  | value => .ok value

end Conversion

end GantryCode
