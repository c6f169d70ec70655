import GantryCode.Proofs.SegmentCounts

namespace GantryCode

/-! Arcs seen from the other side.

Who looks along the axis of an arc from its other end sees the arc wind the other way. Heights
and everything that the second vector of the plane enters into are then the opposite of what
they were, the radii are the same, and the chords end in the same points. Of the geometry, which
the platform provides, no more is taken for granted than how it treats signs and zeros.
-/

open Binary64 (IsZero Opposite SameValue)

namespace Geometry

/-- What is taken for granted of the geometry, and of the sines and cosines that are in it. Sines
are odd, cosines are even, and points that mirror each other have opposite angles. The angle of a
point on the line itself is zero ahead and a half turn behind, where zero is ahead or behind by its
sign. An angle is taken for zero if its opposite is, and a half turn is not. -/
structure IsLawful (geometry : Geometry Float) (sin cos : Float → Float) : Prop where
  polar : ∀ radius angle, geometry.polar radius angle = (radius * cos angle, radius * sin angle)
  sin : ∀ {x y}, Opposite x y → Opposite (sin x) (sin y)
  cos : ∀ {x y}, Opposite x y → SameValue (cos x) (cos y)
  arctan2 : ∀ {x x' y y'}, ¬IsZero y → Opposite y y' → SameValue x x' →
    Opposite (geometry.arctan2 y x) (geometry.arctan2 y' x')
  ahead : ∀ {x y}, IsZero y → 0 < x ∨ x = 0 → IsZero (geometry.arctan2 y x)
  behind : ∀ {x y}, IsZero y → x < 0 ∨ x = -0 →
    geometry.arctan2 y x = Binary64.pi ∨ geometry.arctan2 y x = -Binary64.pi
  undefined : ∀ {x y}, IsZero y → x.isNaN = true → (geometry.arctan2 y x).isNaN = true
  isNegligible : ∀ {x y}, Opposite x y → geometry.isNegligible x = geometry.isNegligible y
  halfTurn : geometry.isNegligible Binary64.pi = false

end Geometry

namespace Coordinates

/-- Points that are the same but for the signs of zeros. -/
def Same (a b : Coordinates Float) : Prop :=
  ∀ axis, SameValue (a.get axis) (b.get axis)

/-- Directions of which the one points where the other comes from. -/
def Opposed (a b : Coordinates Float) : Prop :=
  ∀ axis, Opposite (a.get axis) (b.get axis)

def reversed (a : Coordinates Float) : Coordinates Float :=
  a.map (-·)

def HasNegativeZero (a : Coordinates Float) : Prop :=
  ∃ axis, a.get axis = -0

variable {a a' b b' : Coordinates Float} {x y : Float}

theorem opposed_reversed (a : Coordinates Float) : Opposed a.reversed a := by
  intro axis
  rw [reversed, get_map]
  exact .neg _

theorem Same.refl (a : Coordinates Float) : Same a a :=
  fun _ => .refl _

theorem get_minus (a b : Coordinates Float) (axis : Axis) :
    (a.minus b).get axis = a.get axis - b.get axis := by
  cases axis <;> rfl

theorem get_scale (a : Coordinates Float) (factor : Float) (axis : Axis) :
    (a.scale factor).get axis = a.get axis * factor := by
  cases axis <;> rfl

theorem Same.minus (first : Same a a') (second : Same b b') : Same (a.minus b) (a'.minus b') := by
  intro axis
  rw [get_minus, get_minus]
  exact (first axis).sub (second axis)

/-- What is taken away from a number can be either zero, unless the number is the negative one. -/
theorem Same.minus_eq (same : Same b b') (plain : ¬HasNegativeZero a) : a.minus b = a.minus b' := by
  have each (axis : Axis) : (a.minus b).get axis = (a.minus b').get axis := by
    rw [get_minus, get_minus]
    exact Binary64.sub_eq_of_sameValue (fun negative => plain ⟨axis, negative⟩) (same axis)
  exact Coordinates.eq_of_get each

theorem Same.scale (same : Same a b) (factor : Float) : Same (a.scale factor) (b.scale factor) := by
  intro axis
  rw [get_scale, get_scale]
  exact (same axis).mul (.refl factor)

theorem Opposed.scale (opposed : Opposed a b) (factor : Float) :
    Opposed (a.scale factor) (b.scale factor) := by
  intro axis
  rw [get_scale, get_scale]
  exact (opposed axis).mul_left (.refl factor)

theorem Opposed.scale_opposite (opposed : Opposed a b) (opposite : Opposite x y) :
    Same (a.scale x) (b.scale y) := by
  intro axis
  rw [get_scale, get_scale]
  exact (opposed axis).mul opposite

theorem Same.dot (same : Same b b') (a : Coordinates Float) : SameValue (a.dot b) (a.dot b') :=
  (((SameValue.refl a.x).mul (same .x)).add ((SameValue.refl a.y).mul (same .y))).add
    ((SameValue.refl a.z).mul (same .z))

theorem Opposed.dot (opposed : Opposed b b') (a : Coordinates Float) :
    Opposite (a.dot b) (a.dot b') :=
  ((Opposite.mul_right (.refl a.x) (opposed .x)).add (.mul_right (.refl a.y) (opposed .y))).add
    (.mul_right (.refl a.z) (opposed .z))

theorem length_congr (squares : ∀ axis, a.get axis * a.get axis = b.get axis * b.get axis) :
    a.length = b.length := by
  have same : a.dot a = b.dot b := by
    change a.x * a.x + a.y * a.y + a.z * a.z = b.x * b.x + b.y * b.y + b.z * b.z
    have x : a.x * a.x = b.x * b.x := squares .x
    have y : a.y * a.y = b.y * b.y := squares .y
    have z : a.z * a.z = b.z * b.z := squares .z
    rw [x, y, z]
  exact congrArg Float.sqrt same

theorem Same.length (same : Same a b) : a.length = b.length :=
  length_congr fun axis => (same axis).mul_self

theorem Opposed.length (opposed : Opposed a b) : a.length = b.length :=
  length_congr fun axis => (opposed axis).mul_self

theorem Opposed.cross (opposed : Opposed a a') (same : Same b b') :
    Opposed (a.cross b) (a'.cross b') := by
  intro axis
  cases axis with
  | x => exact ((opposed .y).mul_left (same .z)).sub ((opposed .z).mul_left (same .y))
  | y => exact ((opposed .z).mul_left (same .x)).sub ((opposed .x).mul_left (same .z))
  | z => exact ((opposed .x).mul_left (same .y)).sub ((opposed .y).mul_left (same .x))

end Coordinates

namespace Arc

open Coordinates (Same Opposed HasNegativeZero)
variable {geometry : Geometry Float} {sin cos : Float → Float}
  {start center finish axis other : Coordinates Float} {arc mirror : Arc Float}
  {angle turned : Float}

section Sweeps

def fullTurn : Float :=
  Scalar.two * Scalar.pi

/-- The way round to the opposite angle is the opposite way. -/
theorem sweepTo_opposite (lawful : geometry.IsLawful sin cos) (opposite : Opposite turned angle) :
    Opposite (sweepTo geometry false turned) (sweepTo geometry true angle) := by
  have same : (decide (0 < turned) && !geometry.isNegligible turned) =
      (decide (angle < 0) && !geometry.isNegligible angle) := by
    rw [decide_eq_decide.mpr (Opposite.zero.lt_iff opposite), lawful.isNegligible opposite]
  change Opposite (if (decide (0 < turned) && !geometry.isNegligible turned) = true then turned
    else turned + fullTurn) (if (decide (angle < 0) && !geometry.isNegligible angle) = true then
    angle else angle - fullTurn)
  rw [same]
  split
  · exact opposite
  · rw [Binary64.sub_eq_add_negated]
    exact opposite.add (Opposite.neg fullTurn).symm

/-- Either half turn becomes the one that goes the right way. -/
theorem sweepTo_half (lawful : geometry.IsLawful sin cos)
    (half : angle = Binary64.pi ∨ angle = -Binary64.pi) :
    sweepTo geometry false angle = Binary64.pi ∧ sweepTo geometry true angle = -Binary64.pi := by
  have right := lawful.halfTurn
  have left : geometry.isNegligible (-Binary64.pi) = false :=
    (lawful.isNegligible (.neg _)).trans right
  have signs : Scalar.less (Scalar.ofNat 0) Binary64.pi = true ∧
      Scalar.less Binary64.pi (Scalar.ofNat 0) = false ∧
      Scalar.less (Scalar.ofNat 0) (-Binary64.pi) = false ∧
      Scalar.less (-Binary64.pi) (Scalar.ofNat 0) = true := by decide
  obtain ⟨above, notBelow, notAbove, below⟩ := signs
  have round : Binary64.pi - fullTurn = -Binary64.pi ∧ -Binary64.pi + fullTurn = Binary64.pi := by
    decide
  rcases half with rfl | rfl
  · simp only [sweepTo, above, notBelow, right]
    exact ⟨rfl, round.1⟩
  · simp only [sweepTo, below, notAbove, left]
    exact ⟨round.2, rfl⟩

/-- The directions to the end are mirror images, so the arcs turn to it by opposite ways. Where
the end has no direction, a zero has to tell which way is ahead. -/
theorem sweepTo_mirrored (lawful : geometry.IsLawful sin cos) {endX endY mirrorX mirrorY : Float}
    (same : SameValue mirrorX endX) (opposite : Opposite mirrorY endY)
    (directed : IsZero endX → IsZero endY → mirrorX = endX) :
    Opposite (sweepTo geometry false (geometry.arctan2 mirrorY mirrorX))
      (sweepTo geometry true (geometry.arctan2 endY endX)) := by
  by_cases flat : IsZero endY
  · have level : IsZero mirrorY := opposite.isZero_iff.mpr flat
    have equal : mirrorX = endX := same.elim id fun zeros => directed zeros.2 flat
    rw [equal]
    have back (behind : endX < 0 ∨ endX = -0) :
        Opposite (sweepTo geometry false (geometry.arctan2 mirrorY endX))
          (sweepTo geometry true (geometry.arctan2 endY endX)) := by
      rw [(sweepTo_half lawful (lawful.behind level behind)).1,
        (sweepTo_half lawful (lawful.behind flat behind)).2]
      exact (Opposite.neg _).symm
    have on (ahead : 0 < endX ∨ endX = 0) :
        Opposite (sweepTo geometry false (geometry.arctan2 mirrorY endX))
          (sweepTo geometry true (geometry.arctan2 endY endX)) :=
      sweepTo_opposite lawful (.inr ⟨lawful.ahead level ahead, (lawful.ahead flat ahead).neg⟩)
    rcases Binary64.sign_cases endX with none | below | zero | above
    · have undefined := lawful.undefined flat none
      have alike := Binary64.isNaN_unique (lawful.undefined level none) undefined
      refine sweepTo_opposite lawful ?_
      rw [alike]
      exact .inl (Binary64.isNaN_unique undefined (Binary64.isNaN_neg undefined))
    · exact back (.inl below)
    · rcases zero.cases with rfl | rfl
      · exact on (.inr rfl)
      · exact back (.inr rfl)
    · exact on (.inl above)
  · have straight : ¬IsZero mirrorY := fun level => flat (opposite.isZero_iff.mp level)
    exact sweepTo_opposite lawful (lawful.arctan2 straight opposite same)

end Sweeps

section Figures

/-- The part of the way to the start that leads away from the axis. -/
def radial (start center normal : Coordinates Float) : Coordinates Float :=
  let toStart := start.minus center
  toStart.minus (normal.scale (toStart.dot normal))

/-- The arc about an axis of length one. -/
def around (geometry : Geometry Float) (start center finish normal : Coordinates Float)
    (clockwise : Bool) : Arc Float :=
  let toEnd := finish.minus center
  let startHeight := (start.minus center).dot normal
  let radius := (radial start center normal).length
  let e1 := (radial start center normal).scale (Scalar.one / radius)
  let e2 := normal.cross e1
  { center, finish, e1, e2, normal, startHeight, radius
    rise := toEnd.dot normal - startHeight
    endRadius := Binary64.hypot (toEnd.dot e1) (toEnd.dot e2)
    sweep := sweepTo geometry clockwise (geometry.arctan2 (toEnd.dot e2) (toEnd.dot e1)) }

def unitAxis (axis : Coordinates Float) : Coordinates Float :=
  axis.scale (Scalar.one / axis.length)

theorem between_eq (geometry : Geometry Float) (start center finish axis : Coordinates Float)
    (clockwise : Bool) :
    between geometry start center finish axis clockwise =
      if geometry.isNegligible axis.length then .error .zeroAxis
      else if geometry.isNegligible (radial start center (unitAxis axis)).length then
        .error .startOnAxis
      else .ok (around geometry start center finish (unitAxis axis) clockwise) := rfl

/-- The same arc as it is seen from the other side. -/
structure Mirrored (mirror arc : Arc Float) : Prop where
  center : mirror.center = arc.center
  finish : mirror.finish = arc.finish
  e1 : Same mirror.e1 arc.e1
  e2 : Opposed mirror.e2 arc.e2
  normal : Opposed mirror.normal arc.normal
  startHeight : Opposite mirror.startHeight arc.startHeight
  rise : Opposite mirror.rise arc.rise
  radius : mirror.radius = arc.radius
  endRadius : mirror.endRadius = arc.endRadius
  sweep : Opposite mirror.sweep arc.sweep

theorem radial_same (start center : Coordinates Float) (opposed : Opposed other axis) :
    Same (radial start center other) (radial start center axis) :=
  (Same.refl _).minus (opposed.scale_opposite (opposed.dot _))

theorem radial_eq (opposed : Opposed other axis) (plain : ¬HasNegativeZero (start.minus center)) :
    radial start center other = radial start center axis :=
  (opposed.scale_opposite (opposed.dot _)).minus_eq plain

theorem unitAxis_opposed (opposed : Opposed other axis) :
    Opposed (unitAxis other) (unitAxis axis) := by
  rw [unitAxis, unitAxis, opposed.length]
  exact opposed.scale _

theorem around_mirrored (lawful : geometry.IsLawful sin cos) (finish : Coordinates Float)
    (opposed : Opposed other axis)
    (directed : ¬(IsZero (around geometry start center finish axis true).endRadius ∧
      HasNegativeZero (start.minus center))) :
    Mirrored (around geometry start center finish other false)
      (around geometry start center finish axis true) := by
  have radius := (radial_same start center opposed).length
  have e1 : Same (around geometry start center finish other false).e1
      (around geometry start center finish axis true).e1 := by
    change Same ((radial start center other).scale _) ((radial start center axis).scale _)
    rw [radius]
    exact (radial_same start center opposed).scale _
  have e2 : Opposed (around geometry start center finish other false).e2
      (around geometry start center finish axis true).e2 := opposed.cross e1
  have endX := e1.dot (finish.minus center)
  have endY := e2.dot (finish.minus center)
  have height := opposed.dot (start.minus center)
  refine ⟨rfl, rfl, e1, e2, opposed, height, (opposed.dot _).sub height, radius,
    Binary64.hypot_congr endX.abs endY.abs, sweepTo_mirrored lawful endX endY fun zero flat => ?_⟩
  have plain : ¬HasNegativeZero (start.minus center) := fun negative =>
    directed ⟨Binary64.isZero_hypot zero flat, negative⟩
  have same := radial_eq opposed plain
  change (finish.minus center).dot ((radial start center other).scale _) =
    (finish.minus center).dot ((radial start center axis).scale _)
  rw [same]

end Figures

section Points

theorem segments_mirrored (mirrored : Mirrored mirror arc) (tolerance : Float) (limit : ℤ) :
    mirror.segments tolerance limit = arc.segments tolerance limit := by
  have turns : Scalar.magnitude mirror.sweep = Scalar.magnitude arc.sweep := mirrored.sweep.abs
  unfold segments segmentCount stepCount widestRadius
  rw [mirrored.radius, mirrored.endRadius, turns]

theorem get_pointAt (lawful : geometry.IsLawful sin cos) (arc : Arc Float) (t : Float)
    (axis : Axis) :
    (arc.pointAt geometry t).get axis =
      let radius := arc.radius + (arc.endRadius - arc.radius) * t
      arc.center.get axis + arc.e1.get axis * (radius * cos (arc.sweep * t)) +
        arc.e2.get axis * (radius * sin (arc.sweep * t)) +
        arc.normal.get axis * (arc.startHeight + arc.rise * t) := by
  have polar := lawful.polar (arc.radius + (arc.endRadius - arc.radius) * t) (arc.sweep * t)
  cases axis <;> simp only [pointAt, polar] <;> rfl

theorem pointAt_mirrored (lawful : geometry.IsLawful sin cos) (mirrored : Mirrored mirror arc)
    (t : Float) :
    Same (mirror.pointAt geometry t) (arc.pointAt geometry t) := by
  intro axis
  let radius := arc.radius + (arc.endRadius - arc.radius) * t
  have angle : Opposite (mirror.sweep * t) (arc.sweep * t) := mirrored.sweep.mul_left (.refl t)
  have x := (mirrored.e1 axis).mul ((SameValue.refl radius).mul (lawful.cos angle))
  have y := (mirrored.e2 axis).mul (.mul_right (.refl radius) (lawful.sin angle))
  have z := (mirrored.normal axis).mul
    (mirrored.startHeight.add (mirrored.rise.mul_left (.refl t)))
  rw [get_pointAt lawful, get_pointAt lawful, mirrored.center, mirrored.radius, mirrored.endRadius]
  exact (((SameValue.refl _).add x).add y).add z

theorem points_mirrored (lawful : geometry.IsLawful sin cos) (mirrored : Mirrored mirror arc)
    (count : ℕ) :
    List.Forall₂ Same (mirror.points geometry count) (arc.points geometry count) := by
  unfold points
  refine List.rel_append (List.forall₂_map_left_iff.mpr (List.forall₂_map_right_iff.mpr ?_)) ?_
  · exact List.forall₂_same.mpr fun place _ => pointAt_mirrored lawful mirrored _
  · rw [mirrored.finish]
    exact .cons (.refl _) .nil

/-- Both fail with one fault, or both have chords that end in the same points. -/
inductive SameChords : Except Fault (List (Coordinates Float)) →
    Except Fault (List (Coordinates Float)) → Prop where
  | error (fault : Fault) : SameChords (.error fault) (.error fault)
  | ok {points others : List (Coordinates Float)} (same : List.Forall₂ Same points others) :
      SameChords (.ok points) (.ok others)

/-- The end of the arc is on its axis, where no direction leads to it. -/
def EndsOnAxis (geometry : Geometry Float) (start center finish axis : Coordinates Float) : Prop :=
  ∃ arc, between geometry start center finish axis true = .ok arc ∧ IsZero arc.endRadius

theorem linearize_eq (geometry : Geometry Float) (start center finish axis : Coordinates Float)
    (clockwise : Bool) (tolerance : Float) (limit : ℤ) :
    linearize geometry start center finish axis clockwise tolerance limit =
      if geometry.isNegligible axis.length then .error .zeroAxis
      else if geometry.isNegligible (radial start center (unitAxis axis)).length then
        .error .startOnAxis
      else
        let arc := around geometry start center finish (unitAxis axis) clockwise
        arc.segments tolerance limit >>= fun count =>
          .ok (arc.points geometry count.toNat) := by
  change between geometry start center finish axis clockwise >>= _ = _
  rw [between_eq]
  split
  · rfl
  · split <;> rfl

/-- An arc that winds clockwise about an axis has the chords of the arc that winds the other way
about the opposite axis. Only where it ends on its axis, so that no direction leads to its end, can
a negative zero on the way to the start make a difference. -/
theorem linearize_reversed (lawful : geometry.IsLawful sin cos)
    (start center finish axis : Coordinates Float) (tolerance : Float) (limit : ℤ)
    (directed : ¬(EndsOnAxis geometry start center finish axis ∧
      HasNegativeZero (start.minus center))) :
    SameChords (linearize geometry start center finish axis.reversed false tolerance limit)
      (linearize geometry start center finish axis true tolerance limit) := by
  have opposed := axis.opposed_reversed
  have units := unitAxis_opposed opposed
  rw [linearize_eq, linearize_eq, opposed.length,
    (radial_same start center units).length]
  split
  · exact .error _
  · next turns =>
      split
      · exact .error _
      · next apart =>
          have found := between_eq geometry start center finish axis true
          rw [if_neg turns, if_neg apart] at found
          have mirrored := around_mirrored lawful finish units fun onAxis =>
            directed ⟨⟨_, found, onAxis.1⟩, onAxis.2⟩
          dsimp only
          rw [segments_mirrored mirrored]
          cases (around geometry start center finish (unitAxis axis) true).segments tolerance
            limit with
          | error fault => exact .error fault
          | ok count => exact .ok (points_mirrored lawful mirrored count.toNat)

theorem SameChords.length {chords others : Except Fault (List (Coordinates Float))}
    (same : SameChords chords others) : chords.map List.length = others.map List.length := by
  cases same with
  | error fault => rfl
  | ok same => exact congrArg Except.ok same.length_eq

end Points

section Quarters

def quarterSine (x : Float) : Float :=
  if x = quarterTurn then 1 else if x = -quarterTurn then -1 else 0

def quarterCosine (x : Float) : Float :=
  if x.abs = quarterTurn then 6.123233995736766e-17 else 1

/-- A geometry that is right about quarter turns and about the line ahead and behind. -/
def quarters : Geometry Float where
  arctan2 y x :=
    if y.isNaN then y
    else if 0 < y then quarterTurn
    else if y < 0 then -quarterTurn
    else if x.isNaN then x
    else if x < 0 ∨ x = -0 then (if y = 0 then Binary64.pi else -Binary64.pi)
    else y
  isNegligible x := x.abs < 1e-8
  agree x y := (x - y).abs < 1e-8
  polar radius angle := (radius * quarterCosine angle, radius * quarterSine angle)

variable {x y : Float}

theorem quarterSine_opposite (opposite : Opposite x y) :
    Opposite (quarterSine x) (quarterSine y) := by
  have still {x : Float} (zero : IsZero x) : quarterSine x = 0 := by
    rcases zero.cases with rfl | rfl <;> decide
  have right : quarterSine quarterTurn = 1 := by decide
  have left : quarterSine (-quarterTurn) = -1 := by decide
  by_cases zero : IsZero y
  · rw [still zero, still (opposite.isZero_iff.mpr zero)]
    exact .zero
  · obtain rfl : x = -y :=
      opposite.elim id fun zeros => absurd (opposite.isZero_iff.mp zeros.1) zero
    by_cases first : y = quarterTurn
    · rw [first, right, left]
      exact .neg 1
    · by_cases second : y = -quarterTurn
      · rw [second, Binary64.neg_negated, right, left]
        exact (Opposite.neg 1).symm
      · have notFirst : -y ≠ quarterTurn := fun same =>
          second (by rw [← same, Binary64.neg_negated])
        have notSecond : -y ≠ -quarterTurn := fun same =>
          first (by rw [← Binary64.neg_negated y, same, Binary64.neg_negated])
        change Opposite (if _ then _ else if _ then _ else _) (if _ then _ else if _ then _ else _)
        rw [if_neg first, if_neg second, if_neg notFirst, if_neg notSecond]
        exact .zero

theorem quarters_undefined (none : y.isNaN = true) (x : Float) : quarters.arctan2 y x = y :=
  if_pos none

theorem quarters_above (above : 0 < y) (x : Float) : quarters.arctan2 y x = quarterTurn := by
  change (if y.isNaN = true then y else if 0 < y then quarterTurn else _) = _
  rw [(Binary64.isNumber_of_lt above).2, if_neg (by decide), if_pos above]

theorem quarters_below (below : y < 0) (x : Float) : quarters.arctan2 y x = -quarterTurn := by
  change (if y.isNaN = true then y else if 0 < y then quarterTurn
    else if y < 0 then -quarterTurn else _) = _
  rw [(Binary64.isNumber_of_lt below).1, if_neg (by decide),
    if_neg (Binary64.not_lt_of_le (Binary64.le_of_lt below)), if_pos below]

theorem quarters_flat (zero : IsZero y) (x : Float) :
    quarters.arctan2 y x = if x.isNaN then x
      else if x < 0 ∨ x = -0 then (if y = 0 then Binary64.pi else -Binary64.pi) else y := by
  have level : y.isNaN = false ∧ ¬0 < y ∧ ¬y < 0 := by
    rcases zero.cases with rfl | rfl <;> decide
  change (if y.isNaN = true then y else if 0 < y then quarterTurn
    else if y < 0 then -quarterTurn else _) = _
  rw [level.1, if_neg (by decide), if_neg level.2.1, if_neg level.2.2]

theorem quarters_isLawful : quarters.IsLawful quarterSine quarterCosine where
  polar _ _ := rfl
  sin := quarterSine_opposite
  cos opposite := by
    change SameValue (if _ then _ else _) (if _ then _ else _)
    rw [opposite.abs]
    exact .refl _
  arctan2 := by
    intro x x' y y' sloped opposite same
    rcases Binary64.sign_cases y with none | below | zero | above
    · obtain rfl : y' = -y := opposite.symm.elim id fun zeros =>
        absurd (opposite.isZero_iff.mpr zeros.1) sloped
      rw [quarters_undefined none, quarters_undefined (Binary64.isNaN_neg none)]
      exact opposite
    · rw [quarters_below below, quarters_above ((opposite.lt_iff .zero).mp below)]
      exact .neg _
    · exact absurd zero sloped
    · rw [quarters_above above, quarters_below ((Opposite.zero.lt_iff opposite).mp above)]
      exact (Opposite.neg _).symm
  ahead := by
    intro x y zero ahead
    have front : x.isNaN = false ∧ ¬(x < 0 ∨ x = -0) := by
      rcases ahead with above | rfl
      · refine ⟨(Binary64.isNumber_of_lt above).2, ?_⟩
        rintro (below | rfl)
        · exact Binary64.not_lt_of_le (Binary64.le_of_lt below) above
        · exact absurd above (by decide)
      · decide
    rw [quarters_flat zero, front.1, if_neg (by decide), if_neg front.2]
    exact zero
  behind := by
    intro x y zero behind
    have number : x.isNaN = false := by
      rcases behind with below | rfl
      · exact (Binary64.isNumber_of_lt below).1
      · decide
    rw [quarters_flat zero, number, if_neg (by decide), if_pos behind]
    split
    · exact .inl rfl
    · exact .inr rfl
  undefined := by
    intro x y zero none
    rw [quarters_flat zero, if_pos none]
    exact none
  isNegligible opposite := by
    change decide (Float.abs _ < 1e-8) = decide (Float.abs _ < 1e-8)
    rw [opposite.abs]
  halfTurn := by decide

/-- Half a turn from the right to the left, by way of the bottom. -/
theorem linearize_of_half :
    quarters.IsLawful quarterSine quarterCosine ∧
      ¬(EndsOnAxis quarters ⟨1, 0, 0⟩ ⟨0, 0, 0⟩ ⟨-1, 0, 0⟩ ⟨0, 0, 1⟩ ∧
        HasNegativeZero (Coordinates.minus ⟨1, 0, 0⟩ ⟨0, 0, 0⟩)) ∧
      linearize quarters ⟨1, 0, 0⟩ ⟨0, 0, 0⟩ ⟨-1, 0, 0⟩ ⟨0, 0, 1⟩ true 1 1000 =
        .ok [⟨6.123233995736766e-17, -1, 0⟩, ⟨-1, 0, 0⟩] ∧
      SameChords
        (linearize quarters ⟨1, 0, 0⟩ ⟨0, 0, 0⟩ ⟨-1, 0, 0⟩
          (Coordinates.reversed ⟨0, 0, 1⟩) false 1 1000)
        (linearize quarters ⟨1, 0, 0⟩ ⟨0, 0, 0⟩ ⟨-1, 0, 0⟩ ⟨0, 0, 1⟩ true 1 1000) := by
  have plain : ¬HasNegativeZero (Coordinates.minus ⟨1, 0, 0⟩ ⟨0, 0, 0⟩) := by
    rintro ⟨axis, negative⟩
    cases axis <;> exact absurd negative (by decide)
  have directed : ¬(EndsOnAxis quarters ⟨1, 0, 0⟩ ⟨0, 0, 0⟩ ⟨-1, 0, 0⟩ ⟨0, 0, 1⟩ ∧
      HasNegativeZero (Coordinates.minus ⟨1, 0, 0⟩ ⟨0, 0, 0⟩)) := fun both => plain both.2
  exact ⟨quarters_isLawful, directed, by decide +kernel,
    linearize_reversed quarters_isLawful _ _ _ _ 1 1000 directed⟩

/-- An arc that ends on its axis turns by a half turn or by a whole one, as a zero has it. -/
theorem winding_told_by_zero :
    quarters.IsLawful quarterSine quarterCosine ∧ ¬SameChords
      (linearize quarters ⟨0, -0, -0⟩ ⟨1, 0, 0⟩ ⟨1, 0, -0⟩
        (Coordinates.reversed ⟨0, 1, -1⟩) false 2 1000)
      (linearize quarters ⟨0, -0, -0⟩ ⟨1, 0, 0⟩ ⟨1, 0, -0⟩ ⟨0, 1, -1⟩ true 2 1000) := by
  refine ⟨quarters_isLawful, fun same => ?_⟩
  exact absurd same.length (by decide +kernel)

end Quarters

end Arc

end GantryCode
