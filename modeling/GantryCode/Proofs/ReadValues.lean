import GantryCode.Proofs.Completion
import GantryCode.Proofs.EventSchema
import Mathlib.Algebra.Group.Nat.Defs

namespace GantryCode

/-! What was read can be shown.

The reader counts the digits of an integer and the arrays and objects around a value, and
has its limits for both. They are no wider than those for showing a value, so that no part
of a value that was read is in the way of showing it.
-/

open Emission (bind_eq_ok mapError_eq_ok)

namespace Text

theorem natOfDigits_lt {digits : List Char} (decimal : ∀ c ∈ digits, isAsciiDigit c = true) :
    natOfDigits 10 digits < 10 ^ digits.length := by
  have step (start : Nat) : digits.foldl (fun value c =>
      let digit := if isAsciiDigit c then c.toNat - 48 else c.toLower.toNat - 97 + 10
      value * 10 + digit) start < (start + 1) * 10 ^ digits.length := by
    induction digits generalizing start with
    | nil => simp
    | cons c rest ih =>
        have digit := decimal c (by simp)
        have below : c.toNat - 48 < 10 := by
          simp only [isAsciiDigit, Bool.and_eq_true, decide_eq_true_eq, Char.le_def,
            UInt32.le_iff_toNat_le] at digit
          have upper : ('9' : Char).val.toNat = 57 := rfl
          change c.val.toNat - 48 < 10
          omega
        refine (ih (fun other member => decimal other (by simp [member])) _).trans_le ?_
        dsimp only
        rw [if_pos digit, List.length_cons, Nat.pow_succ, Nat.mul_comm (10 ^ rest.length) 10,
          ← Nat.mul_assoc]
        exact Nat.mul_le_mul_right _ (by omega)
  simpa [natOfDigits] using step 0

end Text

namespace Value

theorem isShort_of_digits {n : Int} {digits : Nat} (below : n.natAbs < 10 ^ digits)
    (few : digits ≤ digitLimit) : isShort n = true := by
  unfold isShort
  generalize digitLimit = limit at few ⊢
  exact decide_eq_true (below.trans_le (Nat.pow_le_pow_right (by decide) few))

theorem itemsObstacle?_none {depth : Nat} {items : List Value} :
    itemsObstacle? depth items = none ↔ ∀ item ∈ items, obstacle? depth item = none := by
  induction items with
  | nil => simp [itemsObstacle?]
  | cons item rest ih => simp [itemsObstacle?, ih]

theorem fieldsObstacle?_none {depth : Nat} {fields : List (String × Value)} :
    fieldsObstacle? depth fields = none ↔ ∀ field ∈ fields, obstacle? depth field.2 = none := by
  induction fields with
  | nil => simp [fieldsObstacle?]
  | cons field rest ih => simp [fieldsObstacle?, ih]

/-- What can be shown inside of others can be shown inside of fewer. -/
theorem obstacle?_mono {depth more : Nat} {value : Value} (shown : obstacle? depth value = none)
    (least : depth ≤ more) : obstacle? more value = none := by
  induction depth generalizing value more with
  | zero => cases value <;> cases shown
  | succ depth ih =>
      obtain ⟨more, rfl⟩ := Nat.exists_eq_add_one_of_ne_zero (by omega : more ≠ 0)
      cases value with
      | list items =>
          rw [obstacle?, itemsObstacle?_none] at shown ⊢
          exact fun item member => ih (shown item member) (by omega)
      | object fields =>
          rw [obstacle?, fieldsObstacle?_none] at shown ⊢
          exact fun field member => ih (shown field member) (by omega)
      | int n => exact shown
      | _ => rfl

end Value

namespace Json

open Value (obstacle? itemsObstacle?_none fieldsObstacle?_none)

variable {half : Nat → Char} {depth fuel : Nat} {text rest : List Char} {value : Value}

theorem splitWhole_digits (text : List Char) :
    ∀ c ∈ (splitWhole text).1, Text.isAsciiDigit c = true := by
  unfold splitWhole
  split
  · simp only [List.mem_singleton]
    rintro c rfl
    decide
  · exact fun c member => List.mem_takeWhile_imp member

theorem int_obstacle? {n : Int} (short : Value.isShort n = true) :
    obstacle? (depth + 1) (.int n) = none := by
  rw [obstacle?, if_pos short]

theorem readUnsigned_obstacle? {negative : Bool} {unsigned : List Char}
    (read : readUnsigned text negative unsigned = .ok (value, rest)) :
    obstacle? (depth + 1) value = none := by
  have digits := splitWhole_digits unsigned
  unfold readUnsigned at read
  dsimp only at read
  split at read
  · cases read
  · split at read
    · split at read
      · cases read
      · next few =>
          cases read
          have size := Text.natOfDigits_lt digits
          refine int_obstacle? (Value.isShort_of_digits ?_ (Nat.le_of_not_lt few))
          split
          · rwa [Int.natAbs_neg, Int.natAbs_natCast]
          · rwa [Int.natAbs_natCast]
    · cases read
      rfl

theorem readNumber_obstacle? (read : readNumber text = .ok (value, rest)) :
    obstacle? (depth + 1) value = none := by
  unfold readNumber at read
  split at read <;> exact readUnsigned_obstacle? read

theorem readWord?_obstacle? (read : readWord? text = some (value, rest)) :
    obstacle? (depth + 1) value = none := by
  obtain ⟨⟨word, meaning⟩, listed, found⟩ := List.exists_of_findSome?_eq_some read
  obtain ⟨_, -, ⟨⟩⟩ := Option.map_eq_some_iff.mp found
  simp only [words, List.mem_cons, List.not_mem_nil, or_false, Prod.mk.injEq] at listed
  rcases listed with ⟨-, rfl⟩ | ⟨-, rfl⟩ | ⟨-, rfl⟩ | ⟨-, rfl⟩ | ⟨-, rfl⟩ | ⟨-, rfl⟩ <;> rfl

theorem mem_setField {α : Type} {name : String} {new : α} {fields : List (String × α)}
    {field : String × α} (member : field ∈ setField name new fields) :
    field ∈ fields ∨ field.2 = new := by
  induction fields with
  | nil =>
      cases List.mem_singleton.mp member
      exact .inr rfl
  | cons first others ih =>
      unfold setField at member
      split at member
      · rcases List.mem_cons.mp member with rfl | later
        · exact .inr rfl
        · exact .inl (List.mem_cons_of_mem _ later)
      · rcases List.mem_cons.mp member with rfl | later
        · exact .inl List.mem_cons_self
        · exact (ih later).imp_left (List.mem_cons_of_mem _)

/-- A value that is read is inside of no more others than the depth has room for. -/
theorem read_obstacle? (fuel : Nat) :
    (∀ depth text value rest, readValue half depth fuel text = .ok (value, rest) →
      obstacle? (depth + 1) value = none) ∧
    (∀ depth seen text value rest, (∀ item ∈ seen, obstacle? (depth + 1) item = none) →
      readItems half depth fuel seen text = .ok (value, rest) →
      obstacle? (depth + 2) value = none) ∧
    (∀ depth seen text value rest,
      (∀ field ∈ seen, obstacle? (depth + 1) field.2 = none) →
      readFields half depth fuel seen text = .ok (value, rest) →
      obstacle? (depth + 2) value = none) := by
  induction fuel with
  | zero => exact ⟨nofun, nofun, nofun⟩
  | succ fuel ih =>
      obtain ⟨values, items, fields⟩ := ih
      refine ⟨fun depth text value rest read => ?_, fun depth seen text value rest held read => ?_,
        fun depth seen text value rest held read => ?_⟩
      · unfold readValue at read
        split at read
        · obtain ⟨_, -, ⟨⟩⟩ := bind_eq_ok.mp read
          rfl
        · split at read
          · cases read
          · cases read
            rfl
          · exact items _ [] _ _ _ (by simp) read
        · split at read
          · cases read
          · cases read
            rfl
          · exact fields _ [] _ _ _ (by simp) read
        · split at read
          · next word =>
              cases read
              exact readWord?_obstacle? word
          · exact readNumber_obstacle? read
      · unfold readItems at read
        obtain ⟨⟨item, behind⟩, first, read⟩ := bind_eq_ok.mp read
        have all : ∀ other ∈ item :: seen, obstacle? (depth + 1) other = none := by
          simpa using ⟨values _ _ _ _ first, held⟩
        dsimp only at read
        split at read
        · cases read
          rw [obstacle?, itemsObstacle?_none]
          exact fun other member => all other (List.mem_reverse.mp member)
        · exact items _ _ _ _ _ all read
        · cases read
      · unfold readFields at read
        split at read
        · obtain ⟨⟨name, behind⟩, -, read⟩ := bind_eq_ok.mp read
          dsimp only at read
          split at read
          · obtain ⟨⟨inner, further⟩, found, read⟩ := bind_eq_ok.mp read
            have all : ∀ field ∈ setField name inner seen,
                obstacle? (depth + 1) field.2 = none := by
              intro field member
              rcases mem_setField member with early | last
              · exact held field early
              · exact last ▸ values _ _ _ _ found
            dsimp only at read
            split at read
            · cases read
              exact fieldsObstacle?_none.mpr all
            · exact fields _ _ _ _ _ all read
            · cases read
          · cases read
        · cases read

theorem obstacle?_of_read {text : String} (found : read half depth text = .ok value) :
    obstacle? (depth + 1) value = none := by
  unfold read readDocument at found
  split at found
  · cases found
  · obtain ⟨⟨first, behind⟩, valued, ended⟩ := bind_eq_ok.mp (mapError_eq_ok.mp found)
    dsimp only at ended
    split at ended
    · cases ended
      exact (read_obstacle? _).1 _ _ _ _ valued
    · cases ended

end Json

namespace Event

variable {platform : Platform} {line : String} {value : Value}

theorem obstacle?_of_readLine (read : readLine platform line = .ok (some value)) :
    value.obstacle? (platform.readDepth + 1) = none := by
  unfold readLine at read
  dsimp only at read
  split at read
  · cases read
  · split at read
    · next found =>
        cases read
        exact Json.obstacle?_of_read found
    · cases read

theorem field_shown (read : readLine platform line = .ok (some value)) {name : String}
    {given : Value} (present : value.field? name = some given) :
    given.obstacle? platform.showDepth = none := by
  have shown := obstacle?_of_readLine read
  cases value with
  | object fields =>
      obtain ⟨front, behind, rfl, -⟩ := List.lookup_eq_some_iff.mp present
      have held := Value.fieldsObstacle?_none.mp shown (name, given) (by simp)
      exact Value.obstacle?_mono held platform.showsRead
  | _ => cases present

theorem isShort_of_shown {depth : Nat} {n : Int} (shown : Value.obstacle? depth (.int n) = none) :
    Value.isShort n = true := by
  cases depth with
  | zero => cases shown
  | succ depth =>
      rw [Value.obstacle?] at shown
      split at shown
      · assumption
      · cases shown

/-- The mode of a section that was read can be told. -/
theorem isTellable_of_read (read : readLine platform line = .ok (some value)) {event : Event}
    (described : Describes value event) : event.IsTellable := by
  cases described with
  | @startSection facts named described =>
      intro jet
      have stands := described.jetMode
      generalize facts.jetMode = mode at stands ⊢
      generalize present : value.field? "jet_mode" = field at stands
      cases stands with
      | absent => rfl
      | given means =>
          cases means with
          | int =>
              rw [Emitter.checkMode, isShort_of_shown (field_shown read present), Bool.or_true,
                if_pos rfl]
  | _ => trivial

end Event

end GantryCode
