import GantryCode.Text.Upper

namespace GantryCode

/-! Axes of the gantry, the letters of the words that a line of G code is made of,
and the planes in which the controller can interpolate arcs.
-/

inductive Axis where
  | x
  | y
  | z
deriving DecidableEq, Repr

/-- Letters of the words whose last value the controller remembers, in the order in
which they stand on a line. -/
inductive Letter where
  | x
  | y
  | z
  | i
  | j
  | k
  | f
deriving DecidableEq, Repr

namespace Letter

def name : Letter → String
  | .x => "X"
  | .y => "Y"
  | .z => "Z"
  | .i => "I"
  | .j => "J"
  | .k => "K"
  | .f => "F"

def all : List Letter :=
  [.x, .y, .z, .i, .j, .k, .f]

def ofName? (name : String) : Option Letter :=
  all.find? (·.name == name)

/-- Only the feed rate is a whole value. -/
def isWhole : Letter → Bool
  | .f => true
  | _ => false

end Letter

def isStretchOf (text whole : List Char) : Bool :=
  (List.range (whole.length + 1)).any fun start => text.isPrefixOf (whole.drop start)

namespace Axis

def all : List Axis :=
  [.x, .y, .z]

def letter : Axis → Letter
  | .x => .x
  | .y => .y
  | .z => .z

def name (axis : Axis) : String :=
  axis.letter.name

def offsetLetter : Axis → Letter
  | .x => .i
  | .y => .j
  | .z => .k

def names : List Char :=
  ['X', 'Y', 'Z']

/-- Where the name of an axis stands in the order of the axes. Consecutive axes may
be named together: their place is that of the first. -/
def place? (name : String) : Option Nat :=
  (List.range 4).find? fun start => (Text.upper name).toList.isPrefixOf (names.drop start)

end Axis

structure Coordinates (α : Type u) where
  x : α
  y : α
  z : α
deriving DecidableEq, Repr

namespace Coordinates

variable {α β : Type u}

def get (coordinates : Coordinates α) : Axis → α
  | .x => coordinates.x
  | .y => coordinates.y
  | .z => coordinates.z

def set (coordinates : Coordinates α) (axis : Axis) (value : α) : Coordinates α :=
  match axis with
  | .x => { coordinates with x := value }
  | .y => { coordinates with y := value }
  | .z => { coordinates with z := value }

def map (f : α → β) (coordinates : Coordinates α) : Coordinates β :=
  ⟨f coordinates.x, f coordinates.y, f coordinates.z⟩

def zipWith {γ : Type u} (f : α → β → γ) (left : Coordinates α) (right : Coordinates β) :
    Coordinates γ :=
  ⟨f left.x right.x, f left.y right.y, f left.z right.z⟩

theorem eq_of_get {left right : Coordinates α} (same : ∀ axis, left.get axis = right.get axis) :
    left = right := by
  obtain ⟨x, y, z⟩ := left
  obtain ⟨otherX, otherY, otherZ⟩ := right
  have sameX : x = otherX := same .x
  have sameY : y = otherY := same .y
  have sameZ : z = otherZ := same .z
  rw [sameX, sameY, sameZ]

@[simp] theorem get_set_same (coordinates : Coordinates α) (axis : Axis) (value : α) :
    (coordinates.set axis value).get axis = value := by
  cases axis <;> rfl

theorem get_set_of_ne (coordinates : Coordinates α) {axis other : Axis} (value : α)
    (different : other ≠ axis) :
    (coordinates.set axis value).get other = coordinates.get other := by
  cases axis <;> cases other <;> first | rfl | exact absurd rfl different

@[simp] theorem get_map (f : α → β) (coordinates : Coordinates α) (axis : Axis) :
    (coordinates.map f).get axis = f (coordinates.get axis) := by
  cases axis <;> rfl

@[simp] theorem get_zipWith {γ : Type u} (f : α → β → γ) (left : Coordinates α)
    (right : Coordinates β) (axis : Axis) :
    (zipWith f left right).get axis = f (left.get axis) (right.get axis) := by
  cases axis <;> rfl

def complete? (coordinates : Coordinates (Option α)) : Option (Coordinates α) :=
  match coordinates with
  | ⟨some x, some y, some z⟩ => some ⟨x, y, z⟩
  | _ => none

end Coordinates

/-- Principal planes of circular interpolation. -/
inductive Plane where
  | xy
  | zx
  | yz
deriving DecidableEq, Repr

namespace Plane

def all : List Plane :=
  [.xy, .zx, .yz]

def name : Plane → String
  | .xy => "XY"
  | .zx => "ZX"
  | .yz => "YZ"

def ofName? (name : String) : Option Plane :=
  all.find? (·.name == name)

def code : Plane → String
  | .xy => "G17"
  | .zx => "G18"
  | .yz => "G19"

def axes : Plane → List Axis
  | .xy => [.x, .y]
  | .zx => [.x, .z]
  | .yz => [.y, .z]

def offsetLetters (plane : Plane) : List Letter :=
  plane.axes.map Axis.offsetLetter

theorem ofName?_name (plane : Plane) : ofName? plane.name = some plane := by
  cases plane <;> decide

end Plane

end GantryCode
