import GantryCode.Angle
import GantryCode.Scalar

namespace GantryCode.Binary64

/-! Binary floating-point numbers as an arithmetic for arcs.

Sums, products, quotients and square roots are those of the standard. The length
of a pair is the exact root rounded once. The angle of a cosine is the exact one
rounded once, and the platform decides where two numbers are as good as equally near.
Ceilings are exact integers.
-/

open Float.Model (UnpackedFloat Format)

def pi : Float :=
  .ofBits 0x400921FB54442D18

/-- The least integer that is not below `± mantissa * 2 ^ exponent`. -/
def ceilingOf (sign : UnpackedFloat.Sign) (mantissa : Nat) : Int → Int
  | .ofNat shift => sign.apply (mantissa * Nat.pow 2 shift : Nat)
  | .negSucc shift => -((-sign.apply mantissa) / (Nat.pow 2 (shift + 1) : Nat))

def ceiling (value : Float) : Except Unbounded Int :=
  match value.toModel.unpack with
  | .notANumber => .error .notANumber
  | .infinity _ => .error .infinity
  | .zero _ => .ok 0
  | .finite sign mantissa exponent _ => .ok (ceilingOf sign mantissa exponent)

/-- A number that is not negative as a mantissa and an exponent. -/
def magnitudeParts : UnpackedFloat → Nat × Int
  | .finite _ mantissa exponent _ => (mantissa, exponent)
  | _ => (0, 0)

def rootOf (mantissa : Nat) (exponent : Int) : Float :=
  if positive : 0 < mantissa then
    .ofModel (.pack (UnpackedFloat.sqrt Format.binary64
      (.finite .positive mantissa exponent positive)))
  else 0

def hypotOf (first second : Nat × Int) : Float :=
  let exponent := min first.2 second.2
  let square (part : Nat × Int) : Nat :=
    let scaled := part.1 * Nat.pow 2 (part.2 - exponent).toNat
    scaled * scaled
  rootOf (square first + square second) (2 * exponent)

def hypot (x y : Float) : Float :=
  if x.isInf || y.isInf then 1 / 0
  else if x.isNaN || y.isNaN then 0 / 0
  else hypotOf (magnitudeParts x.toModel.unpack) (magnitudeParts y.toModel.unpack)

/-- The angle of a cosine. The platform's inverse cosine is heard only where the angle is next
to the middle between two numbers, so that no more hangs on it than the last bit. -/
def arccos (cosine : Float) : Float :=
  match Angle.ofNumber? cosine with
  | some angle => Angle.towards angle cosine.acos
  | none => 0 / 0

def arccos? (cosine : Float) : Option Float :=
  if cosine < -1 || 1 < cosine then none else some (arccos cosine)

instance : Scalar Float where
  ofNat := Float.ofNat
  less a b := a < b
  atMost a b := a ≤ b
  isZero a := a == 0
  magnitude := Float.abs
  sqrt := Float.sqrt
  hypot := hypot
  arccos? := arccos?
  pi := pi
  ceiling := ceiling

end GantryCode.Binary64
