import GantryCode.Text.Blank
import GantryCode.Text.Digit

namespace GantryCode.Decimal

/-! Numbers read from text.

The text of a number may have blanks at its ends, digits of any script, and single
underscores between two digits.
-/

/-- The floating-point number nearest to `mantissa * 10 ^ exponent`. -/
def nearestFloat (mantissa : Nat) (exponent : Int) : Float :=
  .ofModel (Float.Model.ofScientific mantissa exponent)

def ofDigits (whole fraction : List Char) (exponent : Int) : Float :=
  nearestFloat (Text.natOfDigits 10 (whole ++ fraction)) (exponent - fraction.length)

def signed (negative : Bool) (value : Float) : Float :=
  if negative then -value else value

def floatOfInt? (n : Int) : Option Float :=
  let value := nearestFloat n.natAbs 0
  if value.isInf then none else some (signed (n < 0) value)

def readSign : List Char → Bool × List Char
  | '-' :: rest => (true, rest)
  | '+' :: rest => (false, rest)
  | text => (false, text)

def readExponent? : List Char → Option Int
  | [] => some 0
  | mark :: rest =>
      if mark = 'e' || mark = 'E' then
        let (negative, digits) := readSign rest
        if digits.isEmpty || !digits.all Text.isAsciiDigit then none
        else
          let size : Int := Text.natOfDigits 10 digits
          some (if negative then -size else size)
      else none

/-- Digits with an optional point among or beside them, and an optional exponent. -/
def readMagnitude? (text : List Char) : Option Float :=
  let whole := text.takeWhile Text.isAsciiDigit
  let rest := text.dropWhile Text.isAsciiDigit
  let (fraction, rest) :=
    match rest with
    | '.' :: rest => (rest.takeWhile Text.isAsciiDigit, rest.dropWhile Text.isAsciiDigit)
    | rest => ([], rest)
  if whole.isEmpty && fraction.isEmpty then none
  else (readExponent? rest).map (ofDigits whole fraction)

def infinityWords : List (List Char) :=
  ["inf".toList, "infinity".toList]

def readUnsigned? (text : List Char) : Option Float :=
  let lower := text.map Char.toLower
  if infinityWords.contains lower then some (1 / 0)
  else if lower = "nan".toList then some (0 / 0)
  else readMagnitude? text

/-- Writes digits of any script as those of ASCII, and blanks outside ASCII as
spaces. -/
def plainChar (c : Char) : Char :=
  if c.toNat < 128 then c
  else if Text.isBlank c then ' '
  else ((Text.digitValue? c).map Text.digitChar).getD c

def isPlainBlank (c : Char) : Bool :=
  c = ' ' || (9 ≤ c.toNat && c.toNat ≤ 13)

def plainNumber (text : List Char) : List Char :=
  let plain := (text.map plainChar).dropWhile isPlainBlank
  (plain.reverse.dropWhile isPlainBlank).reverse

/-- The text without its underscores, if a digit stands on either side of each. -/
def withoutUnderscores? (previous : Option Char) : List Char → Option (List Char)
  | [] => if previous = some '_' then none else some []
  | c :: rest =>
      let afterDigit := previous.any Text.isAsciiDigit
      if c = '_' then
        if afterDigit then withoutUnderscores? (some c) rest else none
      else if previous = some '_' && !Text.isAsciiDigit c then none
      else (withoutUnderscores? (some c) rest).map (c :: ·)

def readFloat? (text : String) : Option Float := do
  let plain ← withoutUnderscores? none (plainNumber text.toList)
  let (negative, magnitude) := readSign plain
  (readUnsigned? magnitude).map (signed negative)

def integerDigitLimit : Nat := 4300

def readInt? (text : String) : Option Int := do
  let plain ← withoutUnderscores? none (plainNumber text.toList)
  let (negative, digits) := readSign plain
  if digits.isEmpty || !digits.all Text.isAsciiDigit || integerDigitLimit < digits.length then none
  else
    let size : Int := Text.natOfDigits 10 digits
    some (if negative then -size else size)

end GantryCode.Decimal
