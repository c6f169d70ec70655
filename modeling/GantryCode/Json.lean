import GantryCode.Decimal.Reader
import GantryCode.Value

namespace GantryCode.Json

/-! Reading of JSON text.

Besides the standard grammar the words `NaN`, `Infinity` and `-Infinity` are
numbers. A number is an integer unless it has a fraction or an exponent. A fault
names what was missing and the place where it was missed. There is an end to how
many arrays and objects can be inside one another.
-/

inductive Reason where
  | expectedValue
  | expectedName
  | expectedColon
  | expectedComma
  | extraData
  | unterminatedString
  | controlCharacter
  | unknownEscape
  | badCodeEscape
  | byteOrderMark
deriving DecidableEq, Repr

def Reason.message : Reason → String
  | .expectedValue => "Expecting value"
  | .expectedName => "Expecting property name enclosed in double quotes"
  | .expectedColon => "Expecting ':' delimiter"
  | .expectedComma => "Expecting ',' delimiter"
  | .extraData => "Extra data"
  | .unterminatedString => "Unterminated string starting at"
  | .controlCharacter => "Invalid control character at"
  | .unknownEscape => "Invalid \\escape"
  | .badCodeEscape => "Invalid \\uXXXX escape"
  | .byteOrderMark => "Unexpected UTF-8 BOM (decode using utf-8-sig)"

/-- A place in a text: the characters before it, and its line and column from one. -/
structure Place where
  offset : Nat
  line : Nat
  column : Nat
deriving DecidableEq, Repr

def Place.after (passed : List Char) : Place :=
  { offset := passed.length
    line := passed.count '\n' + 1
    column := (passed.reverse.takeWhile (· != '\n')).length + 1 }

/-- What can have values inside. -/
inductive Nest where
  | array
  | object
deriving DecidableEq, Repr

inductive Fault where
  | malformed (reason : Reason) (place : Place)
  | tooManyDigits (count : Nat)
  | tooDeep (nest : Nest)
deriving DecidableEq, Repr

/-- A fault inside the reader: the place is given by the text that is left there. -/
inductive Stop where
  | malformed (reason : Reason) (rest : List Char)
  | tooManyDigits (count : Nat)
  | tooDeep (nest : Nest)

def isSpace (c : Char) : Bool :=
  c = ' ' || c = '\t' || c = '\n' || c = '\r'

def skipSpace (text : List Char) : List Char :=
  text.dropWhile isSpace

def hexValue? (c : Char) : Option Nat :=
  if Text.isAsciiDigit c then some (c.toNat - 48)
  else if 'a' ≤ c && c ≤ 'f' then some (c.toNat - 87)
  else if 'A' ≤ c && c ≤ 'F' then some (c.toNat - 55)
  else none

/-- The code that four hexadecimal digits write, and the text after them, which is
not empty since a string has yet to end. -/
def readCode? : List Char → Option (Nat × List Char)
  | a :: b :: c :: d :: next :: rest => do
      let a ← hexValue? a
      let b ← hexValue? b
      let c ← hexValue? c
      let d ← hexValue? d
      pure (((a * 16 + b) * 16 + c) * 16 + d, next :: rest)
  | _ => none

def isHighSurrogate (code : Nat) : Bool :=
  0xD800 ≤ code && code < 0xDC00

def isLowSurrogate (code : Nat) : Bool :=
  0xDC00 ≤ code && code < 0xE000

section Halves

-- What half a character is taken for, which is no character of its own.
variable (half : Nat → Char)

def charOfCode (code : Nat) : Char :=
  if isHighSurrogate code || isLowSurrogate code then half code else Char.ofNat code

/-- The character of an escape by code. The text starts at the letter of the escape.
A second escape is taken as the other half of a character only if the two fit. -/
def readCodeEscape (text : List Char) : Except Stop (Char × List Char) :=
  match readCode? text.tail with
  | none => .error (.malformed .badCodeEscape text)
  | some (code, rest) =>
      match isHighSurrogate code && 7 ≤ rest.length, rest with
      | true, '\\' :: 'u' :: second =>
          match readCode? second with
          | none => .error (.malformed .badCodeEscape ('u' :: second))
          | some (low, rest') =>
              if isLowSurrogate low then
                .ok (Char.ofNat (0x10000 + (code - 0xD800) * 0x400 + (low - 0xDC00)), rest')
              else .ok (charOfCode half code, rest)
      | _, _ => .ok (charOfCode half code, rest)

def simpleEscape? (c : Char) : Option Char :=
  match c with
  | '"' => some '"'
  | '\\' => some '\\'
  | '/' => some '/'
  | 'b' => some '\x08'
  | 'f' => some '\x0c'
  | 'n' => some '\n'
  | 'r' => some '\r'
  | 't' => some '\t'
  | _ => none

/-- The characters of a string up to its closing quote, in reverse in front of
`seen`. `opening` is the text from the opening quote on. -/
def readChars (opening : List Char) :
    Nat → List Char → List Char → Except Stop (String × List Char)
  | 0, _, _ => .error (.malformed .unterminatedString opening)
  | fuel + 1, seen, text =>
      match text with
      | [] => .error (.malformed .unterminatedString opening)
      | '"' :: rest => .ok (String.ofList seen.reverse, rest)
      | '\\' :: rest =>
          match rest with
          | [] => .error (.malformed .unterminatedString opening)
          | 'u' :: _ => do
              let (c, rest) ← readCodeEscape half rest
              readChars opening fuel (c :: seen) rest
          | c :: rest =>
              match simpleEscape? c with
              | some c => readChars opening fuel (c :: seen) rest
              | none => .error (.malformed .unknownEscape text)
      | c :: rest =>
          if c.toNat < 32 then .error (.malformed .controlCharacter text)
          else readChars opening fuel (c :: seen) rest

def readString (text : List Char) : Except Stop (String × List Char) :=
  readChars half text text.length [] text.tail

def splitFraction (text : List Char) : List Char × List Char :=
  match text with
  | '.' :: rest =>
      match rest.takeWhile Text.isAsciiDigit with
      | [] => ([], text)
      | digits => (digits, rest.dropWhile Text.isAsciiDigit)
  | _ => ([], text)

def splitExponent (text : List Char) : Option Int × List Char :=
  match text with
  | mark :: rest =>
      if mark = 'e' || mark = 'E' then
        let (negative, rest) := Decimal.readSign rest
        match rest.takeWhile Text.isAsciiDigit with
        | [] => (none, text)
        | digits =>
            let size : Int := Text.natOfDigits 10 digits
            (some (if negative then -size else size), rest.dropWhile Text.isAsciiDigit)
      else (none, text)
  | [] => (none, text)

/-- The integer part of a number has no superfluous zero in front. -/
def splitWhole (text : List Char) : List Char × List Char :=
  match text with
  | '0' :: rest => (['0'], rest)
  | _ => (text.takeWhile Text.isAsciiDigit, text.dropWhile Text.isAsciiDigit)

/-- A number behind its sign. -/
def readUnsigned (text : List Char) (negative : Bool) (unsigned : List Char) :
    Except Stop (Value × List Char) :=
  let (whole, rest) := splitWhole unsigned
  if whole.isEmpty then .error (.malformed .expectedValue text)
  else
    let (fraction, rest) := splitFraction rest
    let (exponent, rest) := splitExponent rest
    if fraction.isEmpty && exponent.isNone then
      if Decimal.integerDigitLimit < whole.length then .error (.tooManyDigits whole.length)
      else
        let size : Int := Text.natOfDigits 10 whole
        .ok (.int (if negative then -size else size), rest)
    else
      let magnitude := Decimal.ofDigits whole fraction (exponent.getD 0)
      .ok (.float (Decimal.signed negative magnitude), rest)

def readNumber (text : List Char) : Except Stop (Value × List Char) :=
  match text with
  | '-' :: rest => readUnsigned text true rest
  | _ => readUnsigned text false text

def dropWord? (word : String) (text : List Char) : Option (List Char) :=
  if word.toList.isPrefixOf text then some (text.drop word.length) else none

def words : List (String × Value) :=
  [("null", .null), ("true", .bool true), ("false", .bool false), ("NaN", .float (0 / 0)),
    ("Infinity", .float (1 / 0)), ("-Infinity", .float (-1 / 0))]

def readWord? (text : List Char) : Option (Value × List Char) :=
  words.findSome? fun (word, value) => (dropWord? word text).map (value, ·)

mutual

/-- The value at the start of a text, with arrays and objects inside one another down to
the given depth, and the text behind it. -/
def readValue (depth : Nat) : Nat → List Char → Except Stop (Value × List Char)
  | 0, text => .error (.malformed .expectedValue text)
  | fuel + 1, text =>
      match text with
      | '"' :: _ => do
          let (chars, rest) ← readString half text
          .ok (.text chars, rest)
      | '[' :: rest =>
          match depth, skipSpace rest with
          | 0, _ => .error (.tooDeep .array)
          | _ + 1, ']' :: rest => .ok (.list [], rest)
          | depth + 1, rest => readItems depth fuel [] rest
      | '\x7b' :: rest =>
          match depth, skipSpace rest with
          | 0, _ => .error (.tooDeep .object)
          | _ + 1, '\x7d' :: rest => .ok (.object [], rest)
          | depth + 1, rest => readFields depth fuel [] rest
      | _ =>
          match readWord? text with
          | some (value, rest) => .ok (value, rest)
          | none => readNumber text

def readItems (depth : Nat) : Nat → List Value → List Char → Except Stop (Value × List Char)
  | 0, _, text => .error (.malformed .expectedValue text)
  | fuel + 1, seen, text => do
      let (item, rest) ← readValue depth fuel text
      match skipSpace rest with
      | ']' :: rest => .ok (.list (item :: seen).reverse, rest)
      | ',' :: rest => readItems depth fuel (item :: seen) (skipSpace rest)
      | rest => .error (.malformed .expectedComma rest)

def readFields (depth : Nat) :
    Nat → List (String × Value) → List Char → Except Stop (Value × List Char)
  | 0, _, text => .error (.malformed .expectedName text)
  | fuel + 1, seen, text =>
      match text with
      | '"' :: _ => do
          let (name, rest) ← readString half text
          match skipSpace rest with
          | ':' :: rest => do
              let (value, rest) ← readValue depth fuel (skipSpace rest)
              let fields := setField name value seen
              match skipSpace rest with
              | '\x7d' :: rest => .ok (.object fields, rest)
              | ',' :: rest => readFields depth fuel fields (skipSpace rest)
              | rest => .error (.malformed .expectedComma rest)
          | rest => .error (.malformed .expectedColon rest)
      | _ => .error (.malformed .expectedName text)

end

def readDocument (depth : Nat) (text : List Char) : Except Stop Value :=
  if text.head? = some '\uFEFF' then .error (.malformed .byteOrderMark text)
  else do
    let (value, rest) ← readValue half depth (2 * text.length + 2) (skipSpace text)
    match skipSpace rest with
    | [] => .ok value
    | rest => .error (.malformed .extraData rest)

def Stop.fault (text : List Char) : Stop → Fault
  | .malformed reason rest => .malformed reason (.after (text.take (text.length - rest.length)))
  | .tooManyDigits count => .tooManyDigits count
  | .tooDeep nest => .tooDeep nest

/-- The value that a text writes, blanks around it allowed. -/
def read (depth : Nat) (text : String) : Except Fault Value :=
  (readDocument half depth text.toList).mapError (Stop.fault text.toList)

end Halves

end GantryCode.Json
