import GantryCode.Proofs.Calls
import GantryCode.Proofs.Comparison
import GantryCode.Proofs.Completion
import GantryCode.Proofs.MotionForms
import GantryCode.Proofs.Standing

namespace GantryCode

/-! Dwells.

A dwell is brought between its limits as a floating-point number, and then written at the
precision of the writer, as other numbers are. To three places that makes a number of
thousandths between the limits. To other places it does so only where the same text comes out,
and what is not a number is between no limits.
-/

open Binary64 (exactValue)
open Decimal (IsDecimal IsFinite IsNearest denoted rounded)

/-- The letter that the length of a dwell stands behind. -/
def Target.dwellLetter : Target → String
  | .grbl => "P"
  | .marlin | .generic => "S"

namespace Emitter

open Emission Reading

/-- What the text of a dwell has to tell: the nearest thousandth of a second, or the limit that
the dwell is beyond. -/
structure TellsDwell (seconds : Float) (text : List Char) : Prop where
  decimal : IsDecimal text
  least : 1 / 1000 ≤ denoted text
  most : denoted text ≤ 99999999 / 1000
  between : shortestDwell ≤ seconds → seconds ≤ longestDwell → ∃ thousandths : ℤ,
    IsNearest (exactValue seconds * 10 ^ 3) thousandths ∧ denoted text = thousandths / 10 ^ 3
  above : longestDwell < seconds → denoted text = 99999999 / 1000
  below : seconds < shortestDwell → denoted text = 1 / 1000

variable {options : Options} {emitter : Emitter} {seconds : Float}

section Limits

theorem shortest_isFinite : IsFinite shortestDwell := by decide

theorem longest_isFinite : IsFinite longestDwell := by decide

theorem denoted_shortest : denoted (rounded 3 shortestDwell).toList = 1 / 1000 := by
  decide +kernel

theorem denoted_longest : denoted (rounded 3 longestDwell).toList = 99999999 / 1000 := by
  decide +kernel

/-- A dwell is within the limits or beyond one of them, unless it is not a number. -/
theorem clampDwell_cases (number : seconds.isNaN = false) :
    (shortestDwell ≤ seconds ∧ seconds ≤ longestDwell ∧ (clampDwell seconds).1 = seconds) ∨
      (longestDwell < seconds ∧ (clampDwell seconds).1 = longestDwell) ∨
      (seconds < shortestDwell ∧ (clampDwell seconds).1 = shortestDwell) := by
  rw [clampDwell]
  by_cases above : longestDwell < seconds
  · rw [if_pos above]
    exact .inr (.inl ⟨above, rfl⟩)
  · rw [if_neg above]
    by_cases below : seconds < shortestDwell
    · rw [if_pos below]
      exact .inr (.inr ⟨below, rfl⟩)
    · rw [if_neg below]
      have most := Binary64.le_or_lt number (Binary64.isNaN_of_isFinite longest_isFinite)
      have least := Binary64.le_or_lt (Binary64.isNaN_of_isFinite shortest_isFinite) number
      exact .inl ⟨least.resolve_right below, most.resolve_right above, rfl⟩

theorem clampDwell_within (number : seconds.isNaN = false) :
    shortestDwell ≤ (clampDwell seconds).1 ∧ (clampDwell seconds).1 ≤ longestDwell := by
  rcases clampDwell_cases number with ⟨least, most, same⟩ | ⟨-, same⟩ | ⟨-, same⟩ <;> rw [same]
  · exact ⟨least, most⟩
  · decide
  · decide

theorem clampDwell_isFinite (number : seconds.isNaN = false) : IsFinite (clampDwell seconds).1 :=
  Binary64.isFinite_of_between shortest_isFinite longest_isFinite (clampDwell_within number).1
    (clampDwell_within number).2

theorem not_below_of_above (above : longestDwell < seconds) : ¬seconds < shortestDwell := by
  intro below
  have finite := Binary64.isFinite_of_between longest_isFinite shortest_isFinite
    (Binary64.le_of_lt above) (Binary64.le_of_lt below)
  have first := Binary64.exactValue_mono longest_isFinite finite (Binary64.le_of_lt above)
  have second := Binary64.exactValue_mono finite shortest_isFinite (Binary64.le_of_lt below)
  have apart : ¬exactValue longestDwell ≤ exactValue shortestDwell := by decide +kernel
  exact apart (first.trans second)

end Limits

section Texts

variable {text other : List Char}

/-- To three places a dwell is told as it has to be, if it is a number. -/
theorem tellsDwell_thousandths (number : seconds.isNaN = false) :
    TellsDwell seconds (rounded 3 (clampDwell seconds).1).toList := by
  have finite := clampDwell_isFinite number
  obtain ⟨above, below⟩ := clampDwell_within number
  have least := Decimal.rounded_mono 3 shortest_isFinite finite above
  have most := Decimal.rounded_mono 3 finite longest_isFinite below
  rw [denoted_shortest] at least
  rw [denoted_longest] at most
  refine ⟨(Decimal.rounded_isDecimal_iff 3 _).mpr finite, least, most, ?_, ?_, ?_⟩
  · intro here there
    have kept : (clampDwell seconds).1 = seconds := by
      rw [clampDwell, if_neg (Binary64.not_lt_of_le there), if_neg (Binary64.not_lt_of_le here)]
    rw [kept] at finite ⊢
    exact Decimal.rounded_nearest 3 finite
  · intro longer
    rw [clampDwell, if_pos longer]
    exact denoted_longest
  · intro shorter
    rw [clampDwell, if_neg fun longer => not_below_of_above longer shorter, if_pos shorter]
    exact denoted_shortest

theorem TellsDwell.denoted_eq (tells : TellsDwell seconds text) (also : TellsDwell seconds other)
    (number : seconds.isNaN = false) : denoted text = denoted other := by
  rcases clampDwell_cases number with ⟨least, most, -⟩ | ⟨longer, -⟩ | ⟨shorter, -⟩
  · obtain ⟨thousandths, rounds, here⟩ := tells.between least most
    obtain ⟨others, near, there⟩ := also.between least most
    rw [here, there, rounds.unique near]
  · rw [tells.above longer, also.above longer]
  · rw [tells.below shorter, also.below shorter]

theorem clampDwell_nan (none : seconds.isNaN = true) : (clampDwell seconds).1 = seconds := by
  have parts := Binary64.isNaN_iff.mp none
  have above : ¬longestDwell < seconds := by
    rw [Binary64.lt_iff, parts]
    decide
  have below : ¬seconds < shortestDwell := by
    rw [Binary64.lt_iff, parts]
    decide
  rw [clampDwell, if_neg above, if_neg below]

/-- A dwell is told as it has to be just if it is a number and its text is that of three
places. -/
theorem tellsDwell_iff (places : ℕ) (seconds : Float) :
    TellsDwell seconds (rounded places (clampDwell seconds).1).toList ↔
      seconds.isNaN = false ∧
        rounded places (clampDwell seconds).1 = rounded 3 (clampDwell seconds).1 := by
  constructor
  · intro tells
    have finite := (Decimal.rounded_isDecimal_iff places _).mp tells.decimal
    have number : seconds.isNaN = false := by
      cases none : seconds.isNaN with
      | false => rfl
      | true =>
          rw [clampDwell_nan none] at finite
          exact none.symm.trans (Binary64.isNaN_of_isFinite finite)
    have same := tells.denoted_eq (tellsDwell_thousandths number) number
    exact ⟨number, String.toList_inj.mp ((Decimal.rounded_isNumeral places finite).unique
      (Decimal.rounded_isNumeral 3 finite) same)⟩
  · intro ⟨number, same⟩
    rw [same]
    exact tellsDwell_thousandths number

/-- With fewer than three places the shortest dwell is no dwell. -/
theorem rounded_shortest {places : ℕ} (few : places < 3) : rounded places shortestDwell = "0" := by
  have each : ∀ places < 3, rounded places shortestDwell = "0" := by decide
  exact each places few

theorem rounded_nan (places : ℕ) (none : seconds.isNaN = true) :
    rounded places seconds = "nan" := by
  rw [rounded, Decimal.fixedChars, Binary64.isNaN_iff.mp none]
  rfl

end Texts

section Runs

/-- A dwell notices what it changes and then writes, if the writer counts its places. -/
theorem dwell_run (seconds : Float) (emitter : Emitter) :
    dwell seconds emitter =
      let told := { emitter with
        notices := emitter.notices ++ (clampDwell seconds).2.toList.toArray }
      match emitter.writer.valueText false (clampDwell seconds).1 with
      | .error fault => .error fault told
      | .ok text => .ok () (told.commanded [emitter.writer.target.code? .dwell,
          some ((emitter.writer.target.code? .dwellParam).getD "" ++ text)] (some "Dwell")) := by
  unfold dwell
  dsimp only
  cases (clampDwell seconds).2 with
  | none =>
      simp only [Option.toList_none, Array.append_empty]
      rw [code_bind_apply, get_bind_apply, fromResult, ofExcept_bind_apply]
      cases emitter.writer.valueText false (clampDwell seconds).1 with
      | error fault => rfl
      | ok text => rfl
  | some notice =>
      simp only [Option.toList_some, ← Array.push_eq_append]
      refine (bind_of_ok (rfl : notify notice emitter = .ok () _)).trans ?_
      rw [code_bind_apply, get_bind_apply, fromResult, ofExcept_bind_apply]
      cases emitter.writer.valueText false (clampDwell seconds).1 with
      | error fault => rfl
      | ok text => rfl

theorem commandBody_dwell (target : Target) {text : String} (number : Decimal.IsNumberText text) :
    commandBody [target.code? .dwell, some ((target.code? .dwellParam).getD "" ++ text)] =
      "G4 " ++ (target.dwellLetter ++ text) := by
  rw [commandBody_alone fun _ => dwell_isToken target target number]
  cases target <;> exact String.append_assoc.symm

/-- What is written is for the target that the options name. -/
theorem selected_after {stamp : String} {start : Emitter}
    (created : create options stamp = .ok start) (calls : List Call) :
    Target.ofName? options.target = some (start.after calls).writer.target ∧
      (start.after calls).writer.target ∈ Target.selectable := by
  have kept := (standing_after (create_isFresh created).toServes calls).writer.target
  obtain ⟨checked, target, named, rfl⟩ := create_ok.mp created
  obtain ⟨-, -, -, selectable⟩ := Options.accepted_of_check checked
  rw [kept]
  refine ⟨named, ?_⟩
  rw [Options.isSelectable, named] at selectable
  exact List.contains_iff_mem.mp selectable

/-- The line of a dwell, with its number and its remark as the writer shows them. -/
def dwellLine (emitter : Emitter) (text : String) : Line :=
  .command (if emitter.writer.showLineNumbers then some emitter.writer.nextNumber else none)
    ("G4 " ++ (emitter.writer.target.dwellLetter ++ text))
    (if emitter.writer.showComments then some "Dwell" else none)

theorem commandLine_dwell (emitter : Emitter) {text : String} (number : Decimal.IsNumberText text) :
    emitter.writer.commandLine? [emitter.writer.target.code? .dwell,
        some ((emitter.writer.target.code? .dwellParam).getD "" ++ text)] (some "Dwell") =
      some (emitter.dwellLine text) := by
  have body := commandBody_dwell emitter.writer.target number
  have written : Writer.writesLine [emitter.writer.target.code? .dwell,
      some ((emitter.writer.target.code? .dwellParam).getD "" ++ text)] = true := by
    rw [Writer.writesLine, body]
    simp
  have remark : Line.remarkOf? "Dwell" = some "Dwell" := by decide
  rw [Writer.commandLine?, if_pos written, body, Option.bind_some, remark]
  rfl

/-- The dwell has written its line and done nothing else. It may have noticed that it was out of
bounds, of which the user is warned if it was too long. -/
structure Dwelled (seconds : Float) (text : String) (before after : Emitter) : Prop where
  written : after.writer.written.toList = before.writer.written.toList ++ [before.dwellLine text]
  slots : after.slots = before.slots
  position : after.position = before.position
  notices : ∃ noticed : Option Notice,
    after.notices = before.notices ++ noticed.toList.toArray ∧
      ((∃ notice ∈ noticed, notice.level = .warning) ↔ longestDwell < seconds)

theorem warns_iff (seconds : Float) :
    (∃ notice ∈ (clampDwell seconds).2, notice.level = .warning) ↔ longestDwell < seconds := by
  rw [clampDwell]
  by_cases above : longestDwell < seconds
  · simp [above, Notice.level]
  · by_cases below : seconds < shortestDwell <;> simp [above, below, Notice.level]

theorem exists_precisionFault {writer : Writer}
    (uncounted : ¬(0 ≤ writer.precision ∧ writer.precision ≤ 2147483647)) :
    ∃ fault, writer.precisionFault? = some fault := by
  have limit : Writer.precisionLimit = 2147483647 := rfl
  unfold Writer.precisionFault?
  split
  · exact ⟨_, rfl⟩
  · split
    · exact ⟨_, rfl⟩
    · rw [if_pos (by omega)]
      exact ⟨_, rfl⟩

/-- Where the writer counts its places, a dwell writes its line. -/
theorem dwelled {text : String}
    (shown : emitter.writer.valueText false (clampDwell seconds).1 = .ok text) :
    ∃ after, perform (.dwell seconds) emitter = .ok () after ∧
      Dwelled seconds text emitter after := by
  have line := commandLine_dwell emitter (Writer.valueText_isNumberText shown)
  have run := dwell_run seconds emitter
  rw [shown] at run
  refine ⟨_, run, ?_, slots_commanded _, rfl, _, rfl, warns_iff seconds⟩
  rw [commanded, Writer.written_command, line]
  rfl

theorem dwell_refused {fault : Fault}
    (refused : emitter.writer.valueText false (clampDwell seconds).1 = .error fault) :
    ∃ notices, perform (.dwell seconds) emitter = .error fault { emitter with notices } := by
  have run := dwell_run seconds emitter
  rw [refused] at run
  exact ⟨_, run⟩

/-- In every state a dwell writes its one line, if the writer counts its places, and nothing if
not. The line tells the dwell as it has to just if the dwell is a number and comes out as it does
to three places. So it does to three places, but to fewer of them the shortest dwell is none. -/
theorem dwell_after_run {stamp : String} {start : Emitter}
    (created : create options stamp = .ok start) (calls : List Call) (seconds : Float) :
    let before := start.after calls
    let precision := before.writer.precision
    let text := rounded precision.toNat (clampDwell seconds).1
    Target.ofName? options.target = some before.writer.target ∧
      (before.writer.target = .marlin ∨ before.writer.target = .grbl) ∧
      (0 ≤ precision ∧ precision ≤ 2147483647 →
        ∃ after, perform (.dwell seconds) before = .ok () after ∧
          Dwelled seconds text before after) ∧
      (¬(0 ≤ precision ∧ precision ≤ 2147483647) →
        ∃ fault notices, perform (.dwell seconds) before = .error fault { before with notices }) ∧
      (TellsDwell seconds text.toList ↔
        seconds.isNaN = false ∧ text = rounded 3 (clampDwell seconds).1) ∧
      (seconds.isNaN = true → text = "nan") ∧
      (precision < 3 → seconds < shortestDwell → text = "0") := by
  intro before precision text
  obtain ⟨named, selectable⟩ := selected_after created calls
  have targets : before.writer.target = .marlin ∨ before.writer.target = .grbl := by
    simpa [Target.selectable] using selectable
  refine ⟨named, targets, fun counted => ?_, fun uncounted => ?_, tellsDwell_iff _ _,
    fun none => ?_, fun few below => ?_⟩
  · have precise : before.IsPrecise := ⟨counted.1, counted.2⟩
    exact dwelled (valueText_of_possible precise.possible _)
  · obtain ⟨fault, refused⟩ := exists_precisionFault uncounted
    exact ⟨fault, dwell_refused (by rw [Writer.valueText_places, refused])⟩
  · have kept := clampDwell_nan none
    exact (congrArg (rounded _) kept).trans (rounded_nan _ none)
  · have raised : (clampDwell seconds).1 = shortestDwell := by
      rw [clampDwell, if_neg fun above => not_below_of_above above below, if_pos below]
    exact (congrArg (rounded _) raised).trans (rounded_shortest (by omega))

/-- To three places the shortest dwell is told where a shorter one is asked for. -/
theorem dwell_of_moment :
    create {} "" = .ok (fresh {}) ∧
      ∃ after, perform (.dwell 0.0004) ((fresh {}).after []) = .ok () after ∧
        Dwelled 0.0004 "0.001" (fresh {}) after ∧ TellsDwell 0.0004 "0.001".toList := by
  have created : create {} "" = .ok (fresh {}) := create_fresh (by decide +kernel) rfl
  have text : rounded 3 (clampDwell 0.0004).1 = "0.001" := by decide
  obtain ⟨-, -, written, -, told, -⟩ := dwell_after_run created [] 0.0004
  obtain ⟨after, returned, dwelled⟩ := written (by decide)
  have tells := told.mpr ⟨by decide, rfl⟩
  have places : ((fresh {}).after []).writer.precision.toNat = 3 := rfl
  rw [places, text] at dwelled tells
  exact ⟨created, after, returned, dwelled, tells⟩

/-- Without decimal places the shortest dwell is written as none at all. -/
theorem dwell_lost_in_rounding :
    ∃ start, create {} "" = .ok start ∧
      ∃ after, perform (.dwell 0.001) (start.after [.precision 0]) = .ok () after ∧
        after.writer.written.toList = [.command none "G4 S0" (some "Dwell")] ∧
        ¬TellsDwell 0.001 "0".toList := by
  have created : create {} "" = .ok (fresh {}) := create_fresh (by decide +kernel) rfl
  have shown : ((fresh {}).after [.precision 0]).writer.valueText false (clampDwell 0.001).1 =
      .ok "0" := by decide
  obtain ⟨after, returned, dwelled⟩ := dwelled shown
  refine ⟨_, created, after, returned, dwelled.written, fun tells => ?_⟩
  have none : ¬(1 : ℚ) / 1000 ≤ denoted "0".toList := by decide +kernel
  exact none tells.least

end Runs

end Emitter

end GantryCode
