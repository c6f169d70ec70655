import GantryCode.Binary64
import GantryCode.Decimal.Reader
import GantryCode.Value

namespace GantryCode

/-! Numbers that options are set to.

An integer is kept as it was given, however large. It becomes a floating-point number
only where it is used, and only there does it turn out whether it is too large for
one. The same goes for what is no number at all and still comes in the place of one.
-/

inductive Quantity where
  | whole (n : Int)
  | real (x : Float)
  | other (value : Value)

namespace Quantity

/-- The number that a value stands for: yes and no count as one and zero. -/
def ofValue : Value → Quantity
  | .bool flag => .whole (if flag then 1 else 0)
  | .int n => .whole n
  | .float x => .real x
  | value => .other value

def toValue : Quantity → Value
  | .whole n => .int n
  | .real x => .float x
  | .other value => value

def toFloat (purpose : Purpose) : Quantity → Except Fault Float
  | .whole n =>
      match Decimal.floatOfInt? n with
      | some x => .ok x
      | none => .error .integerTooLarge
  | .real x => .ok x
  | .other value => .error (.wrongType purpose value.typeName)

/-- Whether the number is neither zero nor below. What is not a number is not below
zero. -/
def isAboveZero : Quantity → Except Fault Bool
  | .whole n => .ok (0 < n)
  | .real x => .ok !(x ≤ 0)
  | .other value => .error (.wrongType .lowerBound value.typeName)

def isNonzero : Quantity → Bool
  | .whole n => n != 0
  | .real x => x != 0
  | .other value => value.isTruthy

/-- Whether the number is no less than another. Integers are compared as what they
are, not as what they are rounded to. -/
def reaches (quantity : Quantity) (x : Float) : Bool :=
  match quantity with
  | .whole n =>
      match Binary64.ceiling x with
      | .ok least => least ≤ n
      | .error .infinity => x < 0
      | .error .notANumber => false
  | .real y => x ≤ y
  | .other _ => false

def shift (offset : Quantity) (x : Float) : Except Fault Float :=
  (offset.toFloat .sum).map (x + ·)

end Quantity

end GantryCode
