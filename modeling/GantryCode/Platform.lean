import GantryCode.Arc
import GantryCode.Binary64

namespace GantryCode

/-! What the program does not bring itself, but finds where it runs. -/

namespace Geometry

/-- Lengths and angles below this are taken for zero. -/
def resolution : Float := 1e-8

/-- Whether two numbers agree up to the resolution, relative to the larger of them
if that exceeds one. -/
def agreeRoughly (a b : Float) : Bool :=
  let scale := Scalar.larger a.abs b.abs
  let tolerance := if 1 < scale then resolution * scale else resolution
  (a - b).abs < tolerance

def usual : Geometry Float where
  arctan2 := Float.atan2
  isNegligible a := -resolution < a && a < resolution
  agree := agreeRoughly
  polar radius angle := (radius * angle.cos, radius * angle.sin)

end Geometry

/-- The geometry, and what is made of values: how many inside one another can be read
and shown, and what half a character in a text is taken for. -/
structure Platform where
  geometry : Geometry Float := .usual
  readDepth : Nat := 985
  showDepth : Nat := readDepth
  half : Nat → Char := fun _ => Char.ofNat 0xFFFD
  /-- What can be read can be shown. -/
  showsRead : readDepth ≤ showDepth := by decide

def Platform.usual : Platform := {}

end GantryCode
