import GantryCode.EventReader
import GantryCode.Proofs.Calls
import Mathlib.Algebra.Group.Int.Defs

namespace GantryCode

/-! Which objects are events, and which event each of them is.

This is said of the fields of an object one by one, without a word about the order in
which they are read: what a value stands for, and what may be absent or null in its
place. The reader accepts these objects and no others, and an object that it refuses
leaves nothing behind.
-/

namespace Event

open Emission (bind_eq_ok map_eq_ok)

section Values

/-- A number. An integer stands for the double that it is rounded to, if it is not too
large for one. -/
inductive Numeral : Value → Float → Prop where
  | float (x : Float) : Numeral (.float x) x
  | int {n : Int} {x : Float} (fits : Decimal.floatOfInt? n = some x) : Numeral (.int n) x

inductive Triple : Value → Coordinates Float → Prop where
  | list {first second third : Value} {point : Coordinates Float} (x : Numeral first point.x)
      (y : Numeral second point.y) (z : Numeral third point.z) :
      Triple (.list [first, second, third]) point

inductive Flag : Value → Bool → Prop where
  | bool (flag : Bool) : Flag (.bool flag) flag

inductive Integer : Value → Int → Prop where
  | int (n : Int) : Integer (.int n) n

inductive Textual : Value → String → Prop where
  | text (chars : String) : Textual (.text chars) chars

/-- A principal plane by its name in letters of either case, or null for none of them. -/
inductive Planar : Value → Option Plane → Prop where
  | null : Planar .null none
  | named {name : String} {plane : Plane} (upper : Text.upper name = plane.name) :
      Planar (.text name) (some plane)

end Values

section Presence

variable {α : Type} (holds : Value → α → Prop)

/-- A field that has to be there. -/
inductive Required : Option Value → α → Prop where
  | given {value : Value} {meaning : α} (means : holds value meaning) :
      Required (some value) meaning

/-- A field that may be absent, and may be null in the same sense. -/
inductive Optional : Option Value → Option α → Prop where
  | absent : Optional none none
  | null : Optional (some .null) none
  | given {value : Value} {meaning : α} (means : holds value meaning) :
      Optional (some value) (some meaning)

/-- A field that may be absent for its usual meaning. Null is no absence here. -/
inductive Defaulted (usual : α) : Option Value → α → Prop where
  | absent : Defaulted usual none usual
  | given {value : Value} {meaning : α} (means : holds value meaning) :
      Defaulted usual (some value) meaning

end Presence

structure DescribesSection (value : Value) (facts : Section) : Prop where
  isFirst : Defaulted Flag false (value.field? "is_first") facts.isFirst
  isJet : Defaulted Flag true (value.field? "is_jet") facts.isJet
  jetMode : Defaulted Integer 0 (value.field? "jet_mode") facts.jetMode
  comment : Optional Textual (value.field? "comment") facts.comment

structure DescribesTarget (value : Value) (target : Coordinates (Option Float)) : Prop where
  x : Optional Numeral (value.field? "x") target.x
  y : Optional Numeral (value.field? "y") target.y
  z : Optional Numeral (value.field? "z") target.z

structure DescribesArc (value : Value) (move : ArcMove) : Prop where
  clockwise : Defaulted Flag false (value.field? "clockwise") move.clockwise
  center : Required Triple (value.field? "center") move.center
  finish : Required Triple (value.field? "end") move.finish
  feed : ∃ feed, move.feed = some feed ∧ Required Numeral (value.field? "feed") feed
  plane : Defaulted Planar (some .xy) (value.field? "plane") move.plane
  start : Optional Triple (value.field? "start") move.start
  axis : Optional Triple (value.field? "normal") move.axis
  together : move.plane = none → move.axis ≠ none

/-- The object is an event by this name with fields as the event needs them. Fields that
the event does not know can hold anything. -/
inductive Describes (value : Value) : Event → Prop where
  | startRun {comment : Option String}
      (named : value.field? "event" = some (.text "start_run"))
      (remarked : Optional Textual (value.field? "comment") comment) :
      Describes value (.startRun comment)
  | startSection {facts : Section}
      (named : value.field? "event" = some (.text "start_section"))
      (described : DescribesSection value facts) : Describes value (.startSection facts)
  | endSection (named : value.field? "event" = some (.text "end_section")) :
      Describes value .endSection
  | dwell {seconds : Float} (named : value.field? "event" = some (.text "dwell"))
      (lasting : Required Numeral (value.field? "seconds") seconds) :
      Describes value (.dwell seconds)
  | power {on : Bool} (named : value.field? "event" = some (.text "power"))
      (switched : Required Flag (value.field? "on") on) : Describes value (.power on)
  | rapid {target : Coordinates (Option Float)}
      (named : value.field? "event" = some (.text "rapid"))
      (described : DescribesTarget value target) : Describes value (.rapid target)
  | linear {target : Coordinates (Option Float)} {feed : Float}
      (named : value.field? "event" = some (.text "linear"))
      (described : DescribesTarget value target)
      (fed : Required Numeral (value.field? "feed") feed) :
      Describes value (.linear target (some feed))
  | circular {move : ArcMove} (named : value.field? "event" = some (.text "circular"))
      (described : DescribesArc value move) : Describes value (.circular move)
  | endRun (named : value.field? "event" = some (.text "end_run")) : Describes value .endRun

section Readers

variable {α β : Type} {value event : Value} {name : String}

theorem toFloat_eq_ok {x : Float} (number : isNumber value = true) :
    toFloat value = .ok x ↔ Numeral value x := by
  constructor
  · intro read
    cases value with
    | int n =>
        cases fits : Decimal.floatOfInt? n with
        | none => simp [toFloat, fits] at read
        | some y =>
            have same : y = x := by simpa [toFloat, fits] using read
            exact .int (same ▸ fits)
    | float y =>
        have same : y = x := by simpa [toFloat] using read
        exact same ▸ .float y
    | _ => cases number
  · intro stands
    cases stands with
    | float => rfl
    | int fits => simp only [toFloat, fits]

theorem Numeral.isNumber {x : Float} (stands : Numeral value x) : isNumber value = true := by
  cases stands <;> rfl

theorem Numeral.ne_null {x : Float} (stands : Numeral value x) : value ≠ .null := by
  cases stands <;> simp

theorem Triple.ne_null {point : Coordinates Float} (stands : Triple value point) :
    value ≠ .null := by
  cases stands
  simp

theorem Textual.ne_null {chars : String} (stands : Textual value chars) : value ≠ .null := by
  cases stands
  simp

theorem given?_eq_none :
    given? event name = none ↔ event.field? name = none ∨ event.field? name = some .null := by
  unfold given?
  split
  · next absent => simp [absent]
  · next null => simp [null]
  · next value other present => simp_all

theorem given?_eq_some (present : given? event name = some value) :
    event.field? name = some value ∧ value ≠ .null := by
  unfold given? at present
  split at present
  · cases present
  · cases present
  · next found other stands =>
      cases present
      exact ⟨stands, other⟩

/-- A reader accepts just the optional fields if it takes null for an absent field and
any other value for what it stands for. -/
theorem optional_iff {holds : Value → α → Prop} {read : Except Fault (Option α)}
    (absent : given? event name = none → read = .ok none)
    (present : ∀ value, given? event name = some value →
      ∀ meaning, read = .ok meaning ↔ ∃ found, holds value found ∧ some found = meaning)
    (proper : ∀ {value meaning}, holds value meaning → value ≠ .null) {meaning : Option α} :
    read = .ok meaning ↔ Optional holds (event.field? name) meaning := by
  cases kept : given? event name with
  | none =>
      rw [absent kept]
      rcases given?_eq_none.mp kept with missing | null
      · rw [missing]
        exact ⟨by rintro ⟨⟩; exact .absent, by rintro ⟨⟩; rfl⟩
      · rw [null]
        constructor
        · rintro ⟨⟩
          exact .null
        · intro optional
          cases optional with
          | null => rfl
          | given means => exact absurd rfl (proper means)
  | some value =>
      obtain ⟨stands, other⟩ := given?_eq_some kept
      rw [present value kept, stands]
      constructor
      · rintro ⟨found, means, rfl⟩
        exact .given means
      · intro optional
        cases optional with
        | null => exact absurd rfl other
        | given means => exact ⟨_, means, rfl⟩

theorem required_iff {holds : Value → α → Prop} {field : Option Value} {meaning : α} :
    Required holds field meaning ↔ Optional holds field (some meaning) := by
  constructor
  · rintro ⟨means⟩
    exact .given means
  · intro optional
    cases optional with
    | given means => exact .given means

theorem readNumber_iff {x : Option Float} :
    readNumber event name = .ok x ↔ Optional Numeral (event.field? name) x := by
  apply optional_iff _ _ Numeral.ne_null
  · intro kept
    simp only [readNumber, kept]
  · intro value kept meaning
    simp only [readNumber, kept]
    split
    · next number =>
        simp only [map_eq_ok, toFloat_eq_ok number]
    · next wrong =>
        refine ⟨nofun, ?_⟩
        rintro ⟨x, stands, -⟩
        exact absurd stands.isNumber wrong

theorem requireNumber_iff {x : Float} :
    requireNumber event name = .ok x ↔ Required Numeral (event.field? name) x := by
  rw [required_iff, ← readNumber_iff]
  unfold requireNumber
  cases readNumber event name with
  | error fault => exact ⟨nofun, nofun⟩
  | ok found => cases found <;> simp [bind, Except.bind, reject]

theorem readPoint_iff {point : Option (Coordinates Float)} :
    readPoint event name = .ok point ↔ Optional Triple (event.field? name) point := by
  apply optional_iff _ _ Triple.ne_null
  · intro kept
    simp only [readPoint, kept]
  · intro value kept meaning
    unfold readPoint
    rw [kept]
    split
    · next absent => cases absent
    · next first second third listed =>
        cases listed
        split
        · next numbers =>
            simp only [Bool.and_eq_true] at numbers
            obtain ⟨⟨isFirst, isSecond⟩, isThird⟩ := numbers
            simp only [bind_eq_ok, toFloat_eq_ok isFirst, toFloat_eq_ok isSecond,
              toFloat_eq_ok isThird]
            constructor
            · rintro ⟨x, first, y, second, z, third, ⟨⟩⟩
              exact ⟨⟨x, y, z⟩, .list first second third, rfl⟩
            · rintro ⟨point, ⟨first, second, third⟩, rfl⟩
              exact ⟨_, first, _, second, _, third, rfl⟩
        · next wrong =>
            refine ⟨nofun, ?_⟩
            rintro ⟨point, ⟨x, y, z⟩, -⟩
            simp [x.isNumber, y.isNumber, z.isNumber] at wrong
    · next shape other =>
        cases other
        refine ⟨nofun, ?_⟩
        rintro ⟨point, ⟨x, y, z⟩, -⟩
        exact absurd rfl (shape _ _ _)

theorem requirePoint_iff {point : Coordinates Float} :
    requirePoint event name = .ok point ↔ Required Triple (event.field? name) point := by
  rw [required_iff, ← readPoint_iff]
  unfold requirePoint
  cases readPoint event name with
  | error fault => exact ⟨nofun, nofun⟩
  | ok found => cases found <;> simp [bind, Except.bind, reject]

theorem readText_iff {text : Option String} :
    readText event name = .ok text ↔ Optional Textual (event.field? name) text := by
  apply optional_iff _ _ Textual.ne_null
  · intro kept
    simp only [readText, kept]
  · intro value kept meaning
    unfold readText
    rw [kept]
    split
    · next absent => cases absent
    · next chars textual =>
        cases textual
        constructor
        · rintro ⟨⟩
          exact ⟨chars, .text chars, rfl⟩
        · rintro ⟨found, ⟨⟩, rfl⟩
          rfl
    · next other shape =>
        cases shape
        refine ⟨nofun, ?_⟩
        rintro ⟨found, ⟨⟩, -⟩
        exact absurd rfl (other found)

theorem readFlag_defaulted {usual flag : Bool} :
    readFlag event name (some usual) = .ok flag ↔
      Defaulted Flag usual (event.field? name) flag := by
  unfold readFlag
  generalize event.field? name = field
  split
  · next given =>
      constructor
      · rintro ⟨⟩
        exact .given (.bool flag)
      · rintro (_ | ⟨⟨⟩⟩)
        rfl
  · next default same =>
      cases same
      constructor
      · rintro ⟨⟩
        exact .absent
      · rintro ⟨⟩
        rfl
  · next flagless absent =>
      refine ⟨nofun, fun defaulted => ?_⟩
      cases defaulted with
      | absent => exact absurd rfl (absent usual rfl)
      | given means =>
          cases means
          exact absurd rfl (flagless flag)

theorem readFlag_required {flag : Bool} :
    readFlag event name none = .ok flag ↔ Required Flag (event.field? name) flag := by
  unfold readFlag
  generalize event.field? name = field
  split
  · next given =>
      constructor
      · rintro ⟨⟩
        exact .given (.bool flag)
      · rintro ⟨⟨⟩⟩
        rfl
  · next none => cases none
  · next flagless absent =>
      refine ⟨nofun, ?_⟩
      rintro ⟨⟨⟩⟩
      exact absurd rfl (flagless flag)

theorem readJetMode_iff {mode : Int} :
    readJetMode event = .ok mode ↔ Defaulted Integer 0 (event.field? "jet_mode") mode := by
  unfold readJetMode
  generalize event.field? "jet_mode" = field
  split
  · next =>
      constructor
      · rintro ⟨⟩
        exact .absent
      · rintro ⟨⟩
        rfl
  · next given =>
      constructor
      · rintro ⟨⟩
        exact .given (.int mode)
      · rintro (_ | ⟨⟨⟩⟩)
        rfl
  · next wrong other =>
      refine ⟨nofun, ?_⟩
      rintro (_ | ⟨⟨⟩⟩)
      exact absurd rfl (other mode)

theorem readSection_iff {facts : Section} :
    readSection event = .ok facts ↔ DescribesSection event facts := by
  simp only [readSection, bind_eq_ok, readJetMode_iff, readFlag_defaulted, readText_iff]
  constructor
  · rintro ⟨jetMode, chosen, isFirst, first, isJet, jet, comment, remarked, ⟨⟩⟩
    exact ⟨first, jet, chosen, remarked⟩
  · intro described
    exact ⟨_, described.jetMode, _, described.isFirst, _, described.isJet, _, described.comment,
      rfl⟩

theorem readTarget_iff {target : Coordinates (Option Float)} :
    readTarget event = .ok target ↔ DescribesTarget event target := by
  simp only [readTarget, bind_eq_ok, readNumber_iff]
  constructor
  · rintro ⟨x, hx, y, hy, z, hz, ⟨⟩⟩
    exact ⟨hx, hy, hz⟩
  · intro described
    exact ⟨_, described.x, _, described.y, _, described.z, rfl⟩

end Readers

section Planes

/-! A name of a plane is looked up in capitals whatever it is; but what is no text shows
a character that no name of a plane has. -/

/-- A character whose capitals are in no name of a plane. -/
def isForeign (c : Char) : Bool :=
  (Text.upperChar c).any fun capital => !Axis.names.contains capital

theorem upper_ne_plane {text : String} {c : Char} (member : c ∈ text.toList)
    (foreign : isForeign c = true) (plane : Plane) : Text.upper text ≠ plane.name := by
  intro same
  obtain ⟨capital, written, outside⟩ := List.any_eq_true.mp foreign
  have held : capital ∈ plane.name.toList := by
    rw [← same, Text.toList_upper]
    exact List.mem_flatMap.mpr ⟨c, member, written⟩
  have letters : plane.name.toList.all Axis.names.contains = true := by
    cases plane <;> decide
  have inside := List.all_eq_true.mp letters capital held
  rw [inside] at outside
  cases outside

theorem unlettered_isForeign {c : Char} (ascii : c.toNat < 128) (other : c.isAlpha = false) :
    isForeign c = true := by
  have capital : Text.upperChar c = [c] := by
    have upper : c.toUpper = c := by
      refine dif_neg fun lower => ?_
      have letter : c.isLower = true := by
        change (decide (c.val ≥ 'a'.val) && decide (c.val ≤ 'z'.val)) = true
        rw [Bool.and_eq_true, decide_eq_true_eq, decide_eq_true_eq]
        exact lower
      change (c.isUpper || c.isLower) = false at other
      rw [letter, Bool.or_true] at other
      cases other
    rw [Text.upperChar, if_pos ascii, upper]
  have outside : c ∉ Axis.names := by
    intro member
    have letters : Axis.names.all Char.isAlpha = true := by decide
    cases (List.all_eq_true.mp letters c member).symm.trans other
  simp [isForeign, capital, outside]

theorem digit_isForeign {c : Char} (digit : c.isDigit = true) : isForeign c = true := by
  have bounds : 48 ≤ c.toNat ∧ c.toNat ≤ 57 := Char.isDigit_iff_toNat.mp digit
  refine unlettered_isForeign (by omega) ?_
  change (decide (c.val ≥ 'A'.val ∧ c.val ≤ 'Z'.val) ||
    decide (c.val ≥ 'a'.val) && decide (c.val ≤ 'z'.val)) = false
  simp only [Bool.or_eq_false_iff, Bool.and_eq_false_iff, decide_eq_false_iff_not, ge_iff_le,
    UInt32.le_iff_toNat_le, ← not_and_or]
  change ¬(65 ≤ c.toNat ∧ c.toNat ≤ 90) ∧ ¬(97 ≤ c.toNat ∧ c.toNat ≤ 122)
  omega

theorem ofName?_eq_some {name : String} {plane : Plane} :
    Plane.ofName? name = some plane ↔ name = plane.name := by
  constructor
  · intro found
    have matched := List.find?_some found
    exact (beq_iff_eq.mp matched).symm
  · rintro rfl
    exact Plane.ofName?_name plane

theorem decimal_foreign (n : Nat) : ∃ c ∈ (Text.decimal n).toList, isForeign c = true := by
  have written : Nat.toDigits 10 n ≠ [] := Nat.toDigits_ne_nil
  obtain ⟨c, rest, digits⟩ := List.exists_cons_of_ne_nil written
  have member : c ∈ Text.decimalDigits n := by
    rw [Text.decimalDigits, digits]
    exact List.mem_cons_self
  refine ⟨c, by rw [Text.decimal, String.toList_ofList]; exact member, ?_⟩
  exact digit_isForeign (Nat.isDigit_of_mem_toDigits (by decide) (by decide) member)

theorem positional_point (digits : List Char) (before : Int) :
    '.' ∈ Decimal.positional digits before := by
  unfold Decimal.positional
  dsimp only
  split
  · simp
  · split <;> simp

theorem scientific_mark {digits : List Char} (written : digits ≠ []) (width : Nat)
    (exponent : Int) : 'e' ∈ Decimal.scientific width digits exponent := by
  unfold Decimal.scientific
  split
  · exact absurd rfl written
  · simp
  · simp

theorem shortest_foreign (x : Float) : ∃ c ∈ (Decimal.shortest x).toList, isForeign c = true := by
  rw [Decimal.shortest, String.toList_ofList, Decimal.shortestChars]
  split
  · exact ⟨'n', by simp, by decide⟩
  · exact ⟨'i', by simp, by decide⟩
  · exact ⟨'.', by simp, by decide⟩
  · next sign mantissa exponent proper unpacked =>
      dsimp only
      unfold Decimal.NumberStyle.write
      dsimp only
      split
      · refine ⟨'e', ?_, by decide⟩
        exact List.mem_append_right _ (scientific_mark Nat.toDigits_ne_nil _ _)
      · refine ⟨'.', ?_, by decide⟩
        exact List.mem_append_right _ (positional_point _ _)

theorem message_ne_plane {value : Value} (textless : ∀ chars, value ≠ .text chars) (plane : Plane) :
    Text.upper value.message ≠ plane.name := by
  have shows : ∃ c ∈ value.message.toList, isForeign c = true := by
    cases value with
    | null => exact ⟨'N', by decide, by decide⟩
    | bool flag =>
        cases flag with
        | false => exact ⟨'F', by decide, by decide⟩
        | true => exact ⟨'T', by decide, by decide⟩
    | int n =>
        cases n with
        | ofNat n => exact decimal_foreign n
        | negSucc n =>
            exact ⟨'-', by simp [Value.message, Value.shown, Text.signedDecimal], by decide⟩
    | float x => exact shortest_foreign x
    | text chars => exact absurd rfl (textless chars)
    | list items => exact ⟨'[', by simp [Value.message, Value.shown], by decide⟩
    | object fields => exact ⟨'\x7b', by simp [Value.message, Value.shown], by decide⟩
    | foreign other =>
        obtain ⟨c, member, marked⟩ := List.any_eq_true.mp other.marked
        simp only [Bool.and_eq_true, decide_eq_true_eq, Bool.not_eq_true'] at marked
        exact ⟨c, member, unlettered_isForeign marked.1 marked.2⟩
  obtain ⟨c, member, foreign⟩ := shows
  exact upper_ne_plane member foreign plane

variable {platform : Platform} {event : Value}

theorem textOf_ok {value : Value} {name : String} (shown : textOf platform value = .ok name) :
    name = value.message := by
  unfold textOf Value.asText at shown
  split at shown
  · cases shown
    rfl
  · next textless =>
      split at shown <;> cases shown
      rfl

theorem readPlane_iff {plane : Option Plane} :
    readPlane platform event = .ok plane ↔
      Defaulted Planar (some .xy) (event.field? "plane") plane := by
  unfold readPlane
  generalize event.field? "plane" = field
  split
  · next =>
      constructor
      · rintro ⟨⟩
        exact .absent
      · rintro ⟨⟩
        rfl
  · next =>
      constructor
      · rintro ⟨⟩
        exact .given .null
      · rintro (_ | ⟨⟨⟩⟩)
        rfl
  · next value present =>
      constructor
      · intro read
        obtain ⟨name, shown, read⟩ := bind_eq_ok.mp read
        split at read
        · next named found =>
            cases read
            have upper := ofName?_eq_some.mp found
            rw [textOf_ok shown] at upper
            cases value with
            | text chars => exact .given (.named upper)
            | _ => exact absurd upper (message_ne_plane (by simp) named)
        · cases read
      · rintro (_ | ⟨_ | ⟨same⟩⟩)
        · exact absurd rfl present
        · refine bind_eq_ok.mpr ⟨_, rfl, ?_⟩
          rw [ofName?_eq_some.mpr same]

end Planes

section Objects

variable {platform : Platform} {value : Value}

theorem readArc_iff {move : ArcMove} :
    readArc platform value = .ok move ↔ DescribesArc value move := by
  simp only [readArc, bind_eq_ok, readPlane_iff, readPoint_iff]
  constructor
  · rintro ⟨plane, placed, axis, turned, rest⟩
    by_cases lost : (plane.isNone && axis.isNone) = true
    · rw [if_pos lost] at rest
      cases rest
    · rw [if_neg lost] at rest
      simp only [bind_eq_ok, readPoint_iff, readFlag_defaulted, requirePoint_iff,
        requireNumber_iff] at rest
      obtain ⟨clockwise, sense, center, centered, finish, ended, feed, fed, start, begun, ⟨⟩⟩ :=
        rest
      refine ⟨sense, centered, ended, ⟨feed, rfl, fed⟩, placed, begun, turned, ?_⟩
      rintro rfl rfl
      exact lost rfl
  · intro described
    obtain ⟨feed, given, fed⟩ := described.feed
    have found : ¬(move.plane.isNone && move.axis.isNone) = true := by
      intro lost
      obtain ⟨planeless, axisless⟩ := Bool.and_eq_true_iff.mp lost
      exact described.together (Option.isNone_iff_eq_none.mp planeless)
        (Option.isNone_iff_eq_none.mp axisless)
    refine ⟨_, described.plane, _, described.axis, ?_⟩
    rw [if_neg found]
    simp only [bind_eq_ok, readPoint_iff, readFlag_defaulted, requirePoint_iff, requireNumber_iff]
    refine ⟨_, described.clockwise, _, described.center, _, described.finish, _, fed, _,
      described.start, ?_⟩
    rw [← given]

theorem ofNamed_described {name : String} {event : Event}
    (named : value.field? "event" = some (.text name))
    (read : ofNamed platform name value = .ok event) :
    Describes value event := by
  unfold ofNamed at read
  split at read
  · obtain ⟨comment, remarked, rfl⟩ := map_eq_ok.mp read
    exact .startRun named (readText_iff.mp remarked)
  · obtain ⟨facts, described, rfl⟩ := map_eq_ok.mp read
    exact .startSection named (readSection_iff.mp described)
  · cases read
    exact .endSection named
  · obtain ⟨seconds, lasting, rfl⟩ := map_eq_ok.mp read
    exact .dwell named (requireNumber_iff.mp lasting)
  · obtain ⟨on, switched, rfl⟩ := map_eq_ok.mp read
    exact .power named (readFlag_required.mp switched)
  · obtain ⟨target, described, rfl⟩ := map_eq_ok.mp read
    exact .rapid named (readTarget_iff.mp described)
  · obtain ⟨target, described, rest⟩ := bind_eq_ok.mp read
    obtain ⟨feed, fed, ⟨⟩⟩ := bind_eq_ok.mp rest
    exact .linear named (readTarget_iff.mp described) (requireNumber_iff.mp fed)
  · obtain ⟨move, described, rfl⟩ := map_eq_ok.mp read
    exact .circular named (readArc_iff.mp described)
  · cases read
    exact .endRun named
  · cases read

theorem ofValue_of_named {name : String} (named : value.field? "event" = some (.text name)) :
    ofValue platform value = ofNamed platform name value := by
  cases value with
  | object fields => simp only [ofValue, named]
  | _ => cases named

/-- The reader accepts what is described, and nothing else. -/
theorem ofValue_iff {event : Event} :
    ofValue platform value = .ok event ↔ Describes value event := by
  constructor
  · intro read
    unfold ofValue at read
    split at read
    · split at read
      · next name named => exact ofNamed_described named read
      · cases read
      · cases read
      · obtain ⟨_, -, refused⟩ := bind_eq_ok.mp read
        cases refused
      · cases read
    · cases read
  · intro described
    cases described with
    | startRun named remarked =>
        exact (ofValue_of_named named).trans (map_eq_ok.mpr ⟨_, readText_iff.mpr remarked, rfl⟩)
    | startSection named described =>
        exact (ofValue_of_named named).trans (map_eq_ok.mpr ⟨_, readSection_iff.mpr described, rfl⟩)
    | endSection named => exact ofValue_of_named named
    | dwell named lasting =>
        exact (ofValue_of_named named).trans (map_eq_ok.mpr ⟨_, requireNumber_iff.mpr lasting, rfl⟩)
    | power named switched =>
        exact (ofValue_of_named named).trans
          (map_eq_ok.mpr ⟨_, readFlag_required.mpr switched, rfl⟩)
    | rapid named described =>
        exact (ofValue_of_named named).trans (map_eq_ok.mpr ⟨_, readTarget_iff.mpr described, rfl⟩)
    | linear named described fed =>
        refine (ofValue_of_named named).trans (bind_eq_ok.mpr ⟨_, readTarget_iff.mpr described, ?_⟩)
        exact bind_eq_ok.mpr ⟨_, requireNumber_iff.mpr fed, rfl⟩
    | circular named described =>
        exact (ofValue_of_named named).trans (map_eq_ok.mpr ⟨_, readArc_iff.mpr described, rfl⟩)
    | endRun named => exact ofValue_of_named named

end Objects

end Event

namespace Emitter

open Emission

theorem dispatch_run (value : Value) (emitter : Emitter) :
    dispatch value emitter =
      match Event.ofValue emitter.options.platform value with
      | .ok event => perform event emitter
      | .error fault => .error fault emitter := by
  rw [dispatch, get_bind_apply, fromResult, ofExcept_bind_apply]
  cases Event.ofValue emitter.options.platform value <;> rfl

/-- An object that is an event is just the one call that its fields describe, whatever
that call does to the emitter. What is no event is refused and changes nothing. -/
theorem dispatch_described (value : Value) (emitter : Emitter) :
    (∃ event, Event.Describes value event ∧
      (∀ other, Event.Describes value other → other = event) ∧
      dispatch value emitter = perform event emitter) ∨
    ((∀ event, ¬Event.Describes value event) ∧
      ∃ fault, dispatch value emitter = .error fault emitter) := by
  have run := dispatch_run value emitter
  cases read : Event.ofValue emitter.options.platform value with
  | error fault =>
      right
      refine ⟨fun event described => ?_, fault, by rw [run, read]⟩
      cases read.symm.trans (Event.ofValue_iff.mpr described)
  | ok event =>
      left
      refine ⟨event, Event.ofValue_iff.mp read, fun other described => ?_, by rw [run, read]⟩
      cases read.symm.trans (Event.ofValue_iff.mpr described)
      rfl

/-- An integer that is too large for a double is a number as well, but there is no
coordinate that it stands for, so it moves nothing. -/
theorem number_beyond_doubles :
    let start := fresh {}
    let distance := Value.int (10 ^ 309)
    let value := Value.object [("event", .text "rapid"), ("x", distance)]
    create {} "" = .ok start ∧ value.field? "x" = some distance ∧
      Event.isNumber distance = true ∧ dispatch value start = .error .integerTooLarge start ∧
      ∀ x, endsWell (perform (.rapid ⟨some x, none, none⟩)) start = true := by
  intro start distance value
  have large : Decimal.floatOfInt? (10 ^ 309) = none := by decide +kernel
  have refused : Event.readNumber value "x" = .error .integerTooLarge := by
    change (Event.toFloat distance).map some = _
    simp only [Event.toFloat, distance, large, Except.map]
  have named : value.field? "event" = some (.text "rapid") := rfl
  refine ⟨create_fresh (by decide +kernel) rfl, rfl, rfl, ?_, fun x => rfl⟩
  clear_value value
  have read (platform : Platform) :
      Event.ofNamed platform "rapid" value = .error .integerTooLarge := by
    simp only [Event.ofNamed, Event.readTarget, refused, bind, Except.bind, Except.map]
  rw [dispatch_run, Event.ofValue_of_named named, read]

end Emitter

end GantryCode
