import GantryCode.Axis
import GantryCode.Scalar

namespace GantryCode

/-! Arcs in any plane and their division into chords.

An arc is given by its start, its center, its end and its axis. The axis tells a
short arc from its long complement and orients half circles and full circles, which
their end points alone cannot do. An end that is not at the height or the radius of
the start makes a helix or a spiral.
-/

namespace Coordinates

variable {α : Type} [Scalar α]

def minus (a b : Coordinates α) : Coordinates α :=
  ⟨a.x - b.x, a.y - b.y, a.z - b.z⟩

def scale (a : Coordinates α) (factor : α) : Coordinates α :=
  ⟨a.x * factor, a.y * factor, a.z * factor⟩

def dot (a b : Coordinates α) : α :=
  a.x * b.x + a.y * b.y + a.z * b.z

def cross (a b : Coordinates α) : Coordinates α :=
  ⟨a.y * b.z - a.z * b.y, a.z * b.x - a.x * b.z, a.x * b.y - a.y * b.x⟩

def length (a : Coordinates α) : α :=
  Scalar.sqrt (dot a a)

end Coordinates

/-- The plane geometry that arcs are worked out with. -/
structure Geometry (α : Type) where
  /-- The angle of the point with the given height and distance. -/
  arctan2 : α → α → α
  /-- Whether a length or an angle is taken for zero. -/
  isNegligible : α → Bool
  /-- Whether two lengths are taken for the same. -/
  agree : α → α → Bool
  /-- The distance and the height of the point with a radius and an angle. -/
  polar : α → α → α × α

/-- An arc in the coordinates of its own plane: `e1` points from the axis to the
start, `e2` a quarter turn further counter-clockwise, and `normal` along the axis.
Heights are measured from the center along the axis. -/
structure Arc (α : Type) where
  center : Coordinates α
  finish : Coordinates α
  e1 : Coordinates α
  e2 : Coordinates α
  normal : Coordinates α
  startHeight : α
  rise : α
  radius : α
  endRadius : α
  /-- The angle from the start to the end, positive counter-clockwise. -/
  sweep : α

namespace Arc

variable {α : Type} [Scalar α] (geometry : Geometry α)

open Scalar

/-- The sweep to a direction: the angle itself if it turns the right way, else the
angle by the other way round. A negligible angle is a full turn. -/
def sweepTo (clockwise : Bool) (angle : α) : α :=
  let turn : α := two * pi
  if clockwise then
    if less angle (ofNat 0) && !geometry.isNegligible angle then angle else angle - turn
  else
    if less (ofNat 0) angle && !geometry.isNegligible angle then angle else angle + turn

/-- The arc from `start` to `finish`. Clockwise is as seen from the tip of the
axis. -/
def between (start center finish axis : Coordinates α) (clockwise : Bool) :
    Except Fault (Arc α) :=
  let u := start.minus center
  let v := finish.minus center
  let axisLength := axis.length
  if geometry.isNegligible axisLength then .error .zeroAxis
  else
    let normal := axis.scale (one / axisLength)
    let startHeight := u.dot normal
    let rise := v.dot normal - startHeight
    let radial := u.minus (normal.scale startHeight)
    let radius := radial.length
    if geometry.isNegligible radius then .error .startOnAxis
    else
      let e1 := radial.scale (one / radius)
      let e2 := normal.cross e1
      let endX := v.dot e1
      let endY := v.dot e2
      .ok
        { center, finish, e1, e2, normal, startHeight, rise, radius
          endRadius := hypot endX endY
          sweep := sweepTo geometry clockwise (geometry.arctan2 endY endX) }

def radiiDiffer (arc : Arc α) : Bool :=
  !geometry.agree arc.radius arc.endRadius

def quarterTurn : α :=
  pi / two

def stepWithin (radius tolerance : α) : Except Fault α := do
  let ratio ← quotient tolerance radius
  let angle ← arccos (one - ratio)
  .ok (two * angle)

/-- The widest angle whose chord stays within the tolerance of a circle: a quarter
turn if the tolerance reaches the radius. -/
def widestStep (radius tolerance : α) : Except Fault α :=
  if atMost radius tolerance then .ok quarterTurn else stepWithin radius tolerance

/-- How many steps a sweep takes, but at least one and no more than allowed. -/
def stepCount (step sweep : α) (limit : Int) : Except Fault Int := do
  let steps ← quotient (magnitude sweep) step
  let count ← roundUp steps
  .ok (max 1 (min count limit))

/-- How many chords an arc takes: as many as the tolerance asks for, but at least one
and no more than allowed. -/
def segmentCount (radius sweep tolerance : α) (limit : Int) : Except Fault Int := do
  stepCount (← widestStep radius tolerance) sweep limit

def widestRadius (arc : Arc α) : α :=
  larger arc.radius arc.endRadius

def segments (arc : Arc α) (tolerance : α) (limit : Int) : Except Fault Int :=
  segmentCount arc.widestRadius arc.sweep tolerance limit

def pointAt (arc : Arc α) (t : α) : Coordinates α :=
  let radius := arc.radius + (arc.endRadius - arc.radius) * t
  let (x, y) := geometry.polar radius (arc.sweep * t)
  let height := arc.startHeight + arc.rise * t
  let along (center e1 e2 normal : α) : α := center + e1 * x + e2 * y + normal * height
  { x := along arc.center.x arc.e1.x arc.e2.x arc.normal.x
    y := along arc.center.y arc.e1.y arc.e2.y arc.normal.y
    z := along arc.center.z arc.e1.z arc.e2.z arc.normal.z }

/-- The ends of the chords. The last of them is the end of the arc as it was given. -/
def points (arc : Arc α) (count : Nat) : List (Coordinates α) :=
  (List.range (count - 1)).map (fun k => arc.pointAt geometry (ofNat (k + 1) / ofNat count)) ++
    [arc.finish]

def linearize (start center finish axis : Coordinates α) (clockwise : Bool) (tolerance : α)
    (limit : Int) : Except Fault (List (Coordinates α)) := do
  let arc ← between geometry start center finish axis clockwise
  let count ← arc.segments tolerance limit
  .ok (arc.points geometry count.toNat)

end Arc

end GantryCode
