import GantryCode.Text.Digit

namespace GantryCode.Decimal

/-! Floating-point numbers written with a fixed count of decimal places.

A finite number is an integer times a power of two, so its decimal expansion is
rounded exactly: to the nearest multiple of the last place, and from the middle
between two multiples to the even one.
-/

open Float.Model (UnpackedFloat)

/-- The quotient rounded to the nearest integer, a half to the even neighbour. -/
def roundQuotient (numerator denominator : Nat) : Nat :=
  let floor := numerator / denominator
  let twice := 2 * (numerator % denominator)
  if twice < denominator then floor
  else if denominator < twice then floor + 1
  else if floor % 2 = 0 then floor
  else floor + 1

/-- How many units of the last place the number `mantissa * 2 ^ exponent` rounds
to. -/
def unitsAt (places mantissa : Nat) : Int → Nat
  | .ofNat shift => mantissa * Nat.pow 2 shift * Nat.pow 10 places
  | .negSucc shift => roundQuotient (mantissa * Nat.pow 10 places) (Nat.pow 2 (shift + 1))

/-- Decimal digits with a point in front of the last `places` of them, and at
least one digit in front of the point. -/
def withPoint (places units : Nat) : List Char :=
  let digits := Text.decimalDigits units
  let padded := List.replicate (places + 1 - digits.length) '0' ++ digits
  let whole := padded.length - places
  if places = 0 then padded else padded.take whole ++ '.' :: padded.drop whole

def signChars : UnpackedFloat.Sign → List Char
  | .negative => ['-']
  | .positive => []

def fixedChars (places : Nat) (value : Float) : List Char :=
  match value.toModel.unpack with
  | .notANumber => ['n', 'a', 'n']
  | .infinity sign => signChars sign ++ ['i', 'n', 'f']
  | .zero sign => signChars sign ++ withPoint places 0
  | .finite sign mantissa exponent _ =>
      signChars sign ++ withPoint places (unitsAt places mantissa exponent)

def fixed (places : Nat) (value : Float) : String :=
  String.ofList (fixedChars places value)

def dropTrailing (unwanted : Char) (text : List Char) : List Char :=
  (text.reverse.dropWhile (· == unwanted)).reverse

/-- Removes the zeros at the end of a fraction, the point of an empty fraction and
the sign of a zero. -/
def shortened (text : List Char) : List Char :=
  let trimmed := if text.contains '.' then dropTrailing '.' (dropTrailing '0' text) else text
  if trimmed = ['-', '0'] then ['0'] else trimmed

/-- Decimal places that hold the number exactly: as many as it has binary places, since
every power of two divides that power of ten. -/
def exactPlaces (value : Float) : Nat :=
  match value.toModel.unpack with
  | .finite _ _ exponent _ => (-exponent).toNat
  | _ => 0

/-- The number rounded to at most `places` decimal places, in its shortest form. Places
beyond those that hold it exactly would only be zeros. -/
def rounded (places : Nat) (value : Float) : String :=
  String.ofList (shortened (fixedChars (min places (exactPlaces value)) value))

end GantryCode.Decimal
