import GantryCode.Decimal.Fixed

namespace GantryCode.Decimal

/-! The shortest decimal text that reads back as a given floating-point number.

Among the texts with the fewest digits the one nearest to the number is taken. It
is found on the grids of the powers of ten, from coarse to fine: the first grid
that has a point among the reals that round to the number holds it, and such a
point is one of the number's two neighbours on that grid.
-/

open Float.Model (UnpackedFloat)

/-- The reals that round to a floating-point number, as multiples of one quarter
of its last binary place, over a common denominator. -/
structure RoundingInterval where
  lower : Nat
  value : Nat
  upper : Nat
  denominator : Nat
  closed : Bool

/-- The interval of `mantissa * 2 ^ exponent`. Below a power of two the numbers lie
twice as close. -/
def RoundingInterval.of (mantissa : Nat) (exponent : Int) : RoundingInterval :=
  let below := if mantissa = Nat.pow 2 52 && -1074 < exponent then 1 else 2
  let unit := Nat.pow 2 (exponent - 2).toNat
  { lower := (4 * mantissa - below) * unit
    value := 4 * mantissa * unit
    upper := (4 * mantissa + 2) * unit
    denominator := Nat.pow 2 (2 - exponent).toNat
    closed := mantissa % 2 = 0 }

def RoundingInterval.scale (interval : RoundingInterval) (place : Int) : RoundingInterval :=
  let finer := Nat.pow 10 (-place).toNat
  { interval with
    lower := interval.lower * finer
    value := interval.value * finer
    upper := interval.upper * finer
    denominator := interval.denominator * Nat.pow 10 place.toNat }

def RoundingInterval.holds (interval : RoundingInterval) (point : Nat) : Bool :=
  let scaled := point * interval.denominator
  if interval.closed then interval.lower ≤ scaled && scaled ≤ interval.upper
  else interval.lower < scaled && scaled < interval.upper

/-- The integer of the interval that is nearest to its number, if there is one among
the two neighbours. -/
def RoundingInterval.nearest? (interval : RoundingInterval) : Option Nat :=
  let below := interval.value / interval.denominator
  let nearest := roundQuotient interval.value interval.denominator
  if interval.holds nearest then some nearest
  else if interval.holds below then some below
  else if interval.holds (below + 1) then some (below + 1)
  else none

def firstHit (interval : RoundingInterval) (place : Int) : Nat → Nat × Int
  | 0 => (0, place)
  | grids + 1 =>
      match (interval.scale place).nearest? with
      | some digits => (digits, place)
      | none => firstHit interval (place - 1) grids

/-- The digits of the shortest decimal and the power of ten of the last of them.
The first grid is coarser than the number, and seventeen digits always suffice. -/
def shortestDigits (mantissa : Nat) (exponent : Int) : Nat × Int :=
  let binaryPlaces := (mantissa.log2 : Int) + 1 + exponent
  firstHit (.of mantissa exponent) (binaryPlaces * 30103 / 100000 + 1) 24

/-- Where positional notation ends: a first digit below the place `fewest` or at the
place `most` and above is written with an exponent. -/
structure NumberStyle where
  fewest : Int
  most : Int
  exponentDigits : Nat

/-- Positional from one ten-thousandth up to sixteen digits before the point, and
exponents of two digits or more. -/
def messageStyle : NumberStyle := ⟨-4, 16, 2⟩

def exponentChars (width : Nat) (exponent : Int) : List Char :=
  let digits := Text.decimalDigits exponent.natAbs
  (if exponent < 0 then '-' else '+') :: List.replicate (width - digits.length) '0' ++ digits

/-- The digits with a point after the first `before` of them, and a digit on either
side of it. -/
def positional (digits : List Char) (before : Int) : List Char :=
  if before ≤ 0 then '0' :: '.' :: List.replicate (-before).toNat '0' ++ digits
  else
    let count := before.toNat
    if digits.length ≤ count then
      digits ++ List.replicate (count - digits.length) '0' ++ ['.', '0']
    else digits.take count ++ '.' :: digits.drop count

def scientific (width : Nat) (digits : List Char) (exponent : Int) : List Char :=
  match digits with
  | [] => []
  | first :: [] => first :: 'e' :: exponentChars width exponent
  | first :: rest => first :: '.' :: rest ++ 'e' :: exponentChars width exponent

def NumberStyle.write (style : NumberStyle) (digits : List Char) (lastPlace : Int) : List Char :=
  let firstPlace := lastPlace + digits.length - 1
  if firstPlace < style.fewest || style.most ≤ firstPlace then
    scientific style.exponentDigits digits firstPlace
  else positional digits (firstPlace + 1)

def shortestChars (style : NumberStyle) (value : Float) : List Char :=
  match value.toModel.unpack with
  | .notANumber => ['n', 'a', 'n']
  | .infinity sign => signChars sign ++ ['i', 'n', 'f']
  | .zero sign => signChars sign ++ ['0', '.', '0']
  | .finite sign mantissa exponent _ =>
      let (digits, lastPlace) := shortestDigits mantissa exponent
      signChars sign ++ style.write (Text.decimalDigits digits) lastPlace

def shortest (value : Float) : String :=
  String.ofList (shortestChars messageStyle value)

end GantryCode.Decimal
