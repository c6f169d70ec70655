import GantryCode.Proofs.Renditions

namespace GantryCode

/-! Comments and line numbers are decoration.

What a run is about are the bodies of its commands. Whether comments and line numbers are
shown has no influence on them, nor on what the emitter comes to hold or where it fails. A
number stands in front of a body and nowhere else, and the numbers count the bodies.
-/

/-- The lines show the bodies from a number on. There is a line for every body, in order,
and between them there may be remarks and blank lines if comments are shown. -/
inductive Decorated (comments numbers : Bool) : Nat → List String → List (List Char) → Prop where
  | nothing (number : Nat) : Decorated comments numbers number [] []
  | command {number : Nat} {body : String} {bodies : List String} {lines : List (List Char)}
      {note : Option String} (written : body ≠ "") (shown : note.isSome → comments = true)
      (flat : ∀ text ∈ note, Text.IsFlat text.toList)
      (rest : Decorated comments numbers (number + 1) bodies lines) :
      Decorated comments numbers number (body :: bodies)
        (((if numbers then Line.numberChars number ++ [' '] else []) ++ body.toList ++
          (note.elim [] fun text => ' ' :: Line.remarkChars text)) :: lines)
  | remark {number : Nat} {bodies : List String} {lines : List (List Char)} {text : String}
      (shown : comments = true) (flat : Text.IsFlat text.toList)
      (rest : Decorated comments numbers number bodies lines) :
      Decorated comments numbers number bodies (Line.remarkChars text :: lines)
  | blank {number : Nat} {bodies : List String} {lines : List (List Char)}
      (shown : comments = true) (rest : Decorated comments numbers number bodies lines) :
      Decorated comments numbers number bodies ([] :: lines)

namespace Line

/-- The body of a line that holds a command. -/
def body? : Line → Option String
  | .command _ body _ => some body
  | .remark _ => none
  | .blank => none

end Line

namespace Script

variable {comments numbers : Bool} {number : Nat}

theorem bodies_lines (script : List Phrase) :
    (lines comments numbers number script).filterMap Line.body? = bodies script := by
  induction script generalizing number with
  | nil => rfl
  | cons phrase rest ih =>
      rw [lines, List.filterMap_append, ih, bodies_cons]
      congr 1
      cases found : phrase.body? with
      | some body =>
          obtain ⟨note, -, line⟩ := Phrase.line?_of_body comments numbers number found
          rw [line]
          rfl
      | none =>
          rcases Phrase.line?_of_no_body comments numbers number found with line | ⟨-, text, line⟩
          · rw [line]
            rfl
          · rw [line, Line.ofComment]
            split <;> rfl

theorem decorated_command {body : String} {note : Option String} {counted : Nat}
    {bodies : List String} {rest : List (List Char)} (alone : Text.IsTight body.toList)
    (shown : ∀ text ∈ note, comments = true ∧ ∃ given, Line.remarkOf? given = some text)
    (count : numbers = true → counted = number)
    (later : Decorated comments numbers (counted + 1) bodies rest) :
    Decorated comments numbers counted (body :: bodies)
      ((Line.command (if numbers then some number else none) body note).chars :: rest) := by
  have front : (if numbers then some number else none).elim []
      (fun number => Line.numberChars number ++ [' ']) =
        if numbers then Line.numberChars counted ++ [' '] else [] := by
    cases numbers with
    | false => rfl
    | true => rw [count rfl]; rfl
  have noted : ∀ text ∈ note, Text.IsTight text.toList := fun text member =>
    (shown text member).2.elim fun _ => Line.remarkOf?_tight
  rw [Line.chars_command _ alone noted, front]
  refine .command ?_ (fun present => ?_) (fun text member => ?_) later
  · rintro rfl
    exact alone.1 rfl
  · obtain ⟨text, member⟩ := Option.isSome_iff_exists.mp present
    exact (shown text member).1
  · exact (shown text member).2.elim fun _ => Line.remarkOf?_flat

/-- A script is shown line by line, each body with the number that counts it. -/
theorem decorated_lines {script : List Phrase}
    (tight : ∀ phrase ∈ script, ∀ body ∈ phrase.body?, Text.IsTight body.toList)
    {counted : Nat} (count : numbers = true → counted = number) :
    Decorated comments numbers counted (bodies script)
      ((lines comments numbers number script).map Line.chars) := by
  induction script generalizing number counted with
  | nil => exact .nothing counted
  | cons phrase rest ih =>
      have others : ∀ phrase ∈ rest, ∀ body ∈ phrase.body?, Text.IsTight body.toList :=
        fun phrase member => tight phrase (List.mem_cons_of_mem _ member)
      rw [lines, List.map_append, bodies_cons, Phrase.nextNumber]
      cases found : phrase.body? with
      | some body =>
          obtain ⟨note, shown, line⟩ := Phrase.line?_of_body comments numbers number found
          have alone := tight phrase (List.mem_cons_self ..) body found
          have next : numbers = true →
              counted + 1 = if numbers && (some body).isSome then number + 1 else number := by
            rintro rfl
            rw [count rfl]
            rfl
          rw [line, Option.toList_some, Option.toList_some, List.map_singleton]
          exact decorated_command alone shown count (ih others next)
      | none =>
          have still : (if numbers && (none : Option String).isSome then number + 1 else number) =
              number := by simp
          rw [still]
          have later := ih others count
          rcases Phrase.line?_of_no_body comments numbers number found with
            line | ⟨shown, text, line⟩
          · rw [line]
            exact later
          · rw [line, Option.toList_some, List.map_singleton, Line.ofComment]
            split
            · next cleaned made =>
                obtain ⟨given, -, cleaning⟩ := Option.bind_eq_some_iff.mp made
                rw [Line.chars_remark (Line.remarkOf?_tight cleaning)]
                exact .remark shown (Line.remarkOf?_flat cleaning) later
            · exact .blank shown later

end Script

namespace Rendition

variable {rendition : Rendition} {script others : List Phrase}

/-- The same bodies are in both scripts where the displays show the same. -/
theorem bodies_alike (shows_same : ∀ text other, rendition.free text other → text = other)
    (alike : List.Forall₂ rendition.Alike script others) :
    Script.bodies others = Script.bodies script := by
  induction alike with
  | nil => rfl
  | @cons phrase other rest more first _ ih =>
      have same : other.body? = phrase.body? := by
        cases first with
        | command => rfl
        | display shown free => rw [shows_same _ _ free]
        | remark => rfl
      rw [Script.bodies_cons, Script.bodies_cons, same, ih]

end Rendition

namespace Emitter

open Emission

/-- Comments and line numbers have no influence on a run. Emitters with the same options but
for these come to hold the same slots, the same place and the same mode, and every call
fails for all of them alike or for none. All of them write the same bodies, with the comments
and with the numbers that were asked for, and the number to come counts the bodies written. -/
theorem decoration_after_run {options : Options} {stamp : String} {start : Emitter}
    (created : create options stamp = .ok start) :
    ∃ bodies : List Call → List String, ∀ (comments numbers : Bool) (otherStamp : String),
      ∃ other, create (options.showing comments numbers) otherStamp = .ok other ∧
        ∀ calls : List Call,
          let first := start.after calls
          let second := other.after calls
          second.writer.slots = first.writer.slots ∧ second.position = first.position ∧
          second.mode = first.mode ∧
          (∀ call, fault? (obey call) second = fault? (obey call) first) ∧
          second.writer.nextNumber = (if numbers then (bodies calls).length + 1 else 1) ∧
          ∃ lines, second.writer.text.toList = lines.flatMap (· ++ ['\n']) ∧
            Decorated comments numbers 1 (bodies calls) lines := by
  let rendition : Rendition := ⟨options, fun _ => True, Eq⟩
  let bodies (calls : List Call) : List String :=
    (start.after calls).writer.written.toList.filterMap Line.body?
  refine ⟨bodies, fun comments numbers otherStamp => ?_⟩
  obtain ⟨other, createdToo, same⟩ :=
    Rendition.create_match rendition created comments numbers otherStamp
  refine ⟨other, createdToo, fun calls => ?_⟩
  intro first second
  have step {near far : Emitter} {call next : Call} (same : rendition.Match near far)
      (equal : call = next) :
      Ends Eq (rendition.Abreast near far) (obey call near) (obey next far) :=
    equal ▸ Rendition.ends_obey same (fun _ _ _ _ => trivial) fun _ _ _ _ => trivial
  have abreast : rendition.Abreast start other first second :=
    Rendition.abreast_after step (List.forall₂_eq_eq_eq ▸ rfl) same
  obtain ⟨script, others, shown, shownToo, alike⟩ := abreast.said
  obtain ⟨written, -⟩ := shown.of_created created
  obtain ⟨writtenToo, next⟩ := shownToo.of_created createdToo
  have spoken : bodies calls = Script.bodies others := by
    rw [Rendition.bodies_alike (fun _ _ => id) alike, ← Script.bodies_lines script, ← written]
  refine ⟨abreast.slots, abreast.position, abreast.mode,
    fun call => (step abreast.toMatch rfl).leaves.1, ?_,
    (Script.lines comments numbers 1 others).map Line.chars, ?_, ?_⟩
  · rw [spoken, next, Nat.add_comm]
    rfl
  · rw [Writer.text, writtenToo, Line.toList_joined, List.flatMap_map]
    rfl
  · rw [spoken]
    refine Script.decorated_lines (fun phrase member => ?_) fun _ => rfl
    exact ((Rendition.said_alike alike).2 phrase member).tight

theorem decoration_of_pulse :
    let calls := [Call.event (.power true), .event (.dwell 2), .event (.power false)]
    create {} "" = .ok (fresh {}) ∧
      ∃ bodies other lines, create (Options.showing {} false true) "later" = .ok other ∧
        (other.after calls).writer.nextNumber = bodies.length + 1 ∧
        (other.after calls).writer.text.toList = lines.flatMap (· ++ ['\n']) ∧
        Decorated false true 1 bodies lines := by
  intro calls
  have created : create {} "" = .ok (fresh {}) := create_fresh (by decide +kernel) rfl
  obtain ⟨bodies, shown⟩ := decoration_after_run created
  obtain ⟨other, createdToo, runs⟩ := shown false true "later"
  obtain ⟨-, -, -, -, next, lines, written, decorated⟩ := runs calls
  exact ⟨created, bodies calls, other, lines, createdToo, next, written, decorated⟩

end Emitter

end GantryCode
