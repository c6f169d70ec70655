namespace GantryCode.Angle

/-! Angles by their cosines.

How many chords an arc takes jumps at certain tolerances, so the angle that a chord
may span has to be known to the last bit. It is computed here on integers, in units
far below the last place of the result, and rounded once.
-/

open Float.Model (UnpackedFloat Format)

/-- Binary places of the integers that stand for numbers. -/
def places : Nat := 200

def unit : Nat := Nat.pow 2 places

/-- Newton's iteration from above for the root of `square`. It stops where it no
longer falls. -/
def rootFrom (square : Nat) : Nat → Nat → Nat
  | 0, guess => guess
  | steps + 1, guess =>
      let next := (guess + square / guess) / 2
      if next < guess then rootFrom square steps next else guess

def root (square : Nat) : Nat :=
  if square = 0 then 0 else rootFrom square (square.log2 + 1) (Nat.pow 2 (square.log2 / 2 + 1))

/-- The terms of the series of the arc tangent from the one of order `index` on,
divided by the power of the tangent that they share. `square` stands for the square
of the tangent. -/
def seriesFrom (square : Nat) (index : Nat) : Nat → Nat
  | 0 => 0
  | terms + 1 =>
      unit / (2 * index + 1) - square * seriesFrom square (index + 1) terms / unit

def seriesLength : Nat := 32

/-- The angle of a tangent below one twentieth. -/
def ofSmallTangent (tangent : Nat) : Nat :=
  tangent * seriesFrom (tangent * tangent / unit) 0 seriesLength / unit

def halfTangent (tangent : Nat) : Nat :=
  tangent * unit / (unit + root (unit * unit + tangent * tangent))

/-- The angle of a tangent that is at most one, by halving it until it is small. -/
def ofTangent (tangent : Nat) : Nat :=
  16 * ofSmallTangent (halfTangent (halfTangent (halfTangent (halfTangent tangent))))

/-- The angle of a cosine from zero to one: twice that of the tangent of its half. -/
def ofCosine (cosine : Nat) : Nat :=
  2 * ofTangent (root (unit * unit - cosine * cosine) * unit / (unit + cosine))

def straight : Nat :=
  2 * ofCosine 0

def scaled (mantissa : Nat) (exponent : Int) : Nat :=
  match exponent + places with
  | .ofNat shift => mantissa * Nat.pow 2 shift
  | .negSucc shift => mantissa / Nat.pow 2 (shift + 1)

def toFloat (angle : Nat) : Float :=
  .ofModel (.pack (UnpackedFloat.round Format.binary64 .positive angle (-places)))

/-- The angle from zero to a half turn that has the given cosine, which is from minus
one to one. -/
def ofNumber? (cosine : Float) : Option Nat :=
  match cosine.toModel.unpack with
  | .notANumber | .infinity _ => none
  | .zero _ => some (ofCosine 0)
  | .finite .positive mantissa exponent _ => some (ofCosine (scaled mantissa exponent))
  | .finite .negative mantissa exponent _ =>
      some (straight - ofCosine (scaled mantissa exponent))

/-- How little of an angle may decide to which of two numbers it is rounded. -/
def tie (angle : Nat) : Nat :=
  angle / Nat.pow 2 56

/-- The number for an angle. If the angle is next to the middle between two numbers, it is
that of the two that is the other number. -/
def towards (angle : Nat) (other : Float) : Float :=
  let low := toFloat (angle - tie angle)
  let high := toFloat (angle + tie angle)
  if other.toBits = low.toBits then low
  else if other.toBits = high.toBits then high
  else toFloat angle

end GantryCode.Angle
