import GantryCode.Fault

namespace GantryCode

/-! Arithmetic as arcs need it.

The geometry of arcs is written for any arithmetic with these operations. The
program runs it on binary floating-point numbers.
-/

/-- A number that has no integer above it. -/
inductive Unbounded where
  | notANumber
  | infinity
deriving DecidableEq, Repr

class Scalar (α : Type) extends Add α, Sub α, Mul α, Div α, Neg α where
  ofNat : Nat → α
  less : α → α → Bool
  atMost : α → α → Bool
  isZero : α → Bool
  magnitude : α → α
  sqrt : α → α
  /-- The length of a pair, without overflow in between. -/
  hypot : α → α → α
  /-- Undefined outside the range of the cosine. -/
  arccos? : α → Option α
  pi : α
  ceiling : α → Except Unbounded Int

namespace Scalar

variable {α : Type} [Scalar α]

def one : α := ofNat 1

def two : α := ofNat 2

def larger (a b : α) : α :=
  if less a b then b else a

def quotient (a b : α) : Except Fault α :=
  if isZero b then .error .divisionByZero else .ok (a / b)

def arccos (a : α) : Except Fault α :=
  match arccos? a with
  | some angle => .ok angle
  | none => .error .arccosineDomain

def roundUp (a : α) : Except Fault Int :=
  match ceiling a with
  | .ok n => .ok n
  | .error .notANumber => .error .roundingNotANumber
  | .error .infinity => .error .roundingInfinity

def toDegrees (angle : α) : α :=
  angle * (ofNat 180 / pi)

end Scalar

end GantryCode
