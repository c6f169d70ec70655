import GantryCode.Proofs.Destinations
import Mathlib.Algebra.Group.Int.Defs

namespace GantryCode

/-! The controller is where it was sent.

A word is left out where the controller has its text already. That is sound if every
slot that is filled holds what the controller last read, so this is the invariant of
every run: a reader of the whole text knows what the slots hold, or more.
-/

/-- Whether a text starts with a letter and a digit behind it. -/
def startsCode (letter : Char) : List Char → Bool
  | first :: second :: _ => first == letter && second.isDigit
  | _ => false

/-- The commands that switch the laser are lines of their own, and they do not start
with a G code or a line number. -/
structure Options.CuttersAreQuiet (options : Options) : Prop where
  flat : ∀ command ∈ options.cutterCommands, Text.IsFlat command.toList
  codeless : ∀ command ∈ options.cutterCommands,
    startsCode 'G' (Text.trim command.toList) = false
  unnumbered : ∀ command ∈ options.cutterCommands,
    startsCode 'N' (Text.trim command.toList) = false

namespace Reading

theorem startsCode_of_prefix {letter : Char} {token text : List Char} (front : token <+: text)
    (uncoded : startsCode letter text = false) : startsCode letter token = false := by
  obtain ⟨rest, rfl⟩ := front
  match token with
  | [] => rfl
  | [c] => rfl
  | first :: second :: others => exact uncoded

theorem startsCode_token {letter : Char} {text token : List Char} {rest : List (List Char)}
    (uncoded : startsCode letter (Text.trim text) = false) (found : tokens text = token :: rest) :
    startsCode letter token = false := by
  rw [← tokens_trim] at found
  have front := tokens_prefix found
  rw [trimLeft_trim] at front
  exact startsCode_of_prefix front uncoded

theorem unheard_of_uncoded {code : List Char} (uncoded : startsCode 'G' code = false)
    (rest : List (List Char)) :
    moveWords (code :: rest) = [] ∧ homingWords (code :: rest) = [] := by
  have still : isMove code = false := by
    by_contra moves
    rcases isMove_cases (by simpa using moves) with rfl | rfl | rfl | rfl <;> cases uncoded
  have level : isPlaneCode code = false := by
    by_contra planes
    have selects : isPlaneCode code = true := by simpa using planes
    obtain ⟨plane, -, same⟩ := List.any_eq_true.mp selects
    have equal : plane.code.toList = code := by simpa using same
    subst equal
    cases plane <;> cases uncoded
  have away : code ≠ Feature.home.usual.toList := by
    rintro rfl
    cases uncoded
  exact ⟨by simp [moveWords, still, level], if_neg away⟩

/-- A text that starts with no code of its own says nothing of the letters. -/
theorem readWords_quiet (registers : Registers) {text : List Char}
    (codeless : startsCode 'G' (Text.trim text) = false) :
    registers.readWords (tokens text) = registers := by
  cases found : tokens text with
  | nil => rfl
  | cons token rest =>
      obtain ⟨still, away⟩ := unheard_of_uncoded (startsCode_token codeless found) rest
      rw [Registers.readWords, still, away]
      rfl

theorem withoutNumber_quiet {text : List Char}
    (unnumbered : startsCode 'N' (Text.trim text) = false) :
    withoutNumber (tokens text) = tokens text := by
  cases found : tokens text with
  | nil => rfl
  | cons token rest =>
      have other := startsCode_token unnumbered found
      have plain : isLineNumber token = false := by
        by_contra numbered
        match token with
        | [] => simp [isLineNumber] at numbered
        | [c] =>
            by_cases same : c = 'N'
            · subst same
              simp [isLineNumber] at numbered
            · simp [isLineNumber, same] at numbered
        | c :: d :: others =>
            by_cases same : c = 'N'
            · subst same
              simp_all [isLineNumber, startsCode]
            · simp [isLineNumber, same] at numbered
      rw [withoutNumber, plain]
      rfl

end Reading

namespace Emitter

open Emission Reading

variable {options : Options}

/-- What a reader knows of the letters before the new lines it knows behind them, as far
as the slots are filled. -/
def Heard (before after : Emitter) : Prop :=
  ∃ lines, Writes before after lines ∧ (∀ line ∈ lines, line.IsFlat) ∧
    (before.options.FeedsInRange → ∀ registers,
      Registers.Within before.slots.get registers →
      Registers.Within after.slots.get (registers.readLines lines))

theorem heard_writerly (quiet : options.CuttersAreQuiet) : Writerly options Heard where
  progress :=
    { refl := fun emitter => ⟨[], .refl emitter, by simp, fun _ _ within => within⟩
      trans := by
        rintro first second third ⟨lines, start, flat, heard⟩ ⟨more, later, even, known⟩
        refine ⟨lines ++ more, start.trans later, ?_, ?_⟩
        · intro line member
          rcases List.mem_append.mp member with early | late
          · exact flat line early
          · exact even line late
        · intro feeds registers within
          rw [Registers.readLines_append]
          exact known (by rw [start.options]; exact feeds) _ (heard feeds registers within)
      serves := fun ⟨_, writes, _⟩ serves => writes.serves serves }
  told := by
    rintro before after ⟨lines, tells⟩
    refine ⟨lines, tells.toWrites, tells.flat, fun feeds registers within => ?_⟩
    rw [tells.letters feeds]
    exact within.readLines lines
  laser := by
    intro emitter command note _ switch
    have body := tokens_commandBody_single command
    have plain := withoutNumber_quiet (quiet.unnumbered command switch)
    refine ⟨_, writes_command emitter _ note,
      fun line member => Writer.commandLine_flat _ note
        (commandBody_single_flat (quiet.flat command switch)) member, fun _ registers within => ?_⟩
    rw [slots_commanded,
      Writer.readLines_command _ note registers (by rw [body]; exact plain), body,
      readWords_quiet registers (quiet.codeless command switch)]
    exact within
  forgotten := by
    intro emitter slots fewer
    refine ⟨[], ⟨⟨rfl, .inl rfl, rfl⟩, by simp [withSlots]⟩, by simp, fun _ registers within => ?_⟩
    intro letter text found
    rcases fewer letter with empty | kept
    · rw [slots_withSlots, empty] at found
      cases found
    · rw [slots_withSlots, kept] at found
      exact within letter text found

/-- Every slot that is filled holds what a reader of the text knows. -/
structure ReadsBack (options : Options) (emitter : Emitter) : Prop extends
    Serves options emitter where
  flat : ∀ line ∈ emitter.writer.written.toList, line.IsFlat
  within : Registers.Within emitter.slots.get
    (Registers.unknown.readLines emitter.writer.written.toList)

theorem ReadsBack.heard {before after : Emitter} (feeds : options.FeedsInRange)
    (reads : ReadsBack options before) (heard : Heard before after) : ReadsBack options after := by
  obtain ⟨lines, writes, flat, known⟩ := heard
  refine { writes.serves reads.toServes with flat := ?_, within := ?_ }
  · intro line member
    rw [writes.written] at member
    rcases List.mem_append.mp member with early | late
    · exact reads.flat line early
    · exact flat line late
  · rw [writes.written, Registers.readLines_append]
    exact known (by rw [reads.options]; exact feeds) _ reads.within

theorem ReadsBack.obey {emitter : Emitter} (feeds : options.FeedsInRange)
    (quiet : options.CuttersAreQuiet) (reads : ReadsBack options emitter) (call : Call) :
    ReadsBack options (leaves (obey call) emitter) := by
  cases call with
  | event event =>
      exact reads.heard feeds ((heard_writerly quiet).keeps_perform event emitter reads.toServes)
  | precision places => exact ⟨⟨reads.options, reads.mode⟩, reads.flat, reads.within⟩

theorem ReadsBack.after {start : Emitter} (feeds : options.FeedsInRange)
    (quiet : options.CuttersAreQuiet) (reads : ReadsBack options start) (calls : List Call) :
    ReadsBack options (start.after calls) := by
  induction calls generalizing start with
  | nil => exact reads
  | cons call rest ih => exact ih (reads.obey feeds quiet call)

theorem IsFresh.readsBack {start : Emitter} (fresh : IsFresh options start) :
    ReadsBack options start := by
  refine { fresh.toServes with flat := ?_, within := ?_ }
  · rw [fresh.written]
    simp
  · intro letter text found
    rw [fresh.slots] at found
    cases letter <;> cases found

end Emitter

end GantryCode
