import GantryCode.Proofs.NumberText
import GantryCode.Proofs.Words

namespace GantryCode

/-! Lines read back.

A text of lines without line breaks of their own falls into these lines again, and a
command is read as the tokens that it was made of, whatever its number and its remark.
-/

/-- Nothing in the text ends its line. -/
def Text.IsFlat (text : List Char) : Prop :=
  ∀ c ∈ text, isLineBreak c = false

instance (text : List Char) : Decidable (Text.IsFlat text) :=
  decidable_of_iff (text.all (!Text.isLineBreak ·) = true) (by simp [Text.IsFlat])

def Line.IsFlat (line : Line) : Prop :=
  Text.IsFlat line.chars

namespace Reading

variable {token : String} {rest : List (Option String)}

theorem presentTokens_cons (alone : IsToken token.toList) :
    presentTokens (some token :: rest) = token :: presentTokens rest := by
  have nonempty : token ≠ "" := fun empty => alone.1 (by simp [empty])
  have kept : Text.stripped token = token := by
    rw [Text.stripped, alone.trim, String.ofList_toList]
  simp [presentTokens, nonempty, kept]

theorem commandBody_none_cons : commandBody (none :: rest) = commandBody rest := rfl

theorem tokens_commandBody_cons (alone : IsToken token.toList) :
    tokens (commandBody (some token :: rest)).toList =
      token.toList :: tokens (commandBody rest).toList := by
  unfold commandBody
  rw [presentTokens_cons alone, String.toList_ofList, String.toList_ofList, List.map_cons]
  cases presentTokens rest with
  | nil => simp [tokens_token alone]
  | cons next others =>
      rw [List.map_cons, List.intercalate_cons_cons, List.append_assoc, List.singleton_append,
        tokens_token_blank alone (by decide)]

theorem tokens_commandBody {given : List (Option String)}
    (alone : ∀ token, some token ∈ given → IsToken token.toList) :
    tokens (commandBody given).toList = (given.filterMap id).map String.toList := by
  induction given with
  | nil => simp [commandBody, presentTokens]
  | cons first rest ih =>
      have others := ih fun token member => alone token (by simp [member])
      cases first with
      | none => simpa [commandBody_none_cons] using others
      | some token =>
          rw [tokens_commandBody_cons (alone token (by simp)), others]
          simp

/-- A single token that may hold blanks is read as what stands between them. -/
theorem tokens_commandBody_single (text : String) :
    tokens (commandBody [some text]).toList = tokens text.toList := by
  by_cases empty : text = ""
  · simp [commandBody, presentTokens, empty]
  · simp [commandBody, presentTokens, empty, Text.stripped]

theorem isToken_numberChars (number : Nat) : IsToken (Line.numberChars number) := by
  refine ⟨by simp [Line.numberChars], fun c member => ?_⟩
  rcases List.mem_cons.mp member with rfl | digit
  · decide
  · have written : Decimal.isNumberChar c = true := by
      have isDigit := Nat.isDigit_of_mem_toDigits (by decide) (by decide) digit
      simp [Decimal.isNumberChar, isDigit]
    exact ⟨Decimal.isNumberChar_isBlank written, Decimal.isNumberChar_ne_semicolon written⟩

theorem isLineNumber_numberChars (number : Nat) :
    isLineNumber (Line.numberChars number) = true := by
  have digits : (Text.decimalDigits number).all Char.isDigit = true :=
    List.all_eq_true.mpr fun c member =>
      Nat.isDigit_of_mem_toDigits (by decide) (by decide) member
  have nonempty : Text.decimalDigits number ≠ [] := Nat.toDigits_ne_nil
  simp [Line.numberChars, isLineNumber, digits, nonempty]

theorem tokens_command (number : Option Nat) (body : String) (remark : Option String) :
    tokens (Line.command number body remark).chars =
      (number.map Line.numberChars).toList ++ tokens body.toList := by
  have plain : tokens (Line.command none body remark).chars = tokens body.toList := by
    cases remark <;>
      simp [Line.chars, Line.pieces, Line.remarkChars, List.intercalate, tokens_append_remark]
  cases number with
  | none => simpa using plain
  | some n =>
      have numbered : tokens (Line.command (some n) body remark).chars =
          Line.numberChars n :: tokens (Line.command none body remark).chars := by
        have split := tokens_token_blank (isToken_numberChars n)
          (by decide : Text.isBlank ' ' = true)
          ([' '].intercalate (Line.command none body remark).pieces)
        simpa [Line.chars, Line.pieces, List.intercalate_cons_cons] using split
      rw [numbered, plain]
      rfl

theorem words_command {body : String} (number : Option Nat) (remark : Option String)
    (unnumbered : withoutNumber (tokens body.toList) = tokens body.toList) :
    words (Line.command number body remark).chars = tokens body.toList := by
  rw [words, tokens_command]
  cases number with
  | none => simpa using unnumbered
  | some n => simp [withoutNumber, isLineNumber_numberChars n]

@[simp] theorem words_remark (text : String) : words (Line.remark text).chars = [] := by
  simp [words, Line.chars, Line.pieces, Line.remarkChars, withoutNumber]

@[simp] theorem words_blank : words Line.blank.chars = [] := by
  simp [words, Line.chars, Line.pieces, withoutNumber, Text.trimRight]

end Reading

namespace Text

theorem splitLines_flat {text piece : List Char} (member : piece ∈ splitLines text) :
    Text.IsFlat piece := by
  induction text using splitLines.induct generalizing piece with
  | case1 => simp [splitLines] at member
  | case2 rest ih =>
      rcases List.mem_cons.mp (by simpa [splitLines] using member) with rfl | later
      · simp [IsFlat]
      · exact ih later
  | case3 c rest notPair ends ih =>
      rw [splitLines, if_pos ends] at member
      · rcases List.mem_cons.mp member with rfl | later
        · simp [IsFlat]
        · exact ih later
      · exact notPair
  | case4 c rest notPair inside ih =>
      have kept : isLineBreak c = false := by simpa using inside
      rw [splitLines, if_neg inside] at member
      · cases split : splitLines rest with
        | nil =>
            rw [split, prepend, List.mem_singleton] at member
            subst member
            simpa [IsFlat] using kept
        | cons line others =>
            rw [split] at member ih
            rcases List.mem_cons.mp member with rfl | later
            · intro d written
              rcases List.mem_cons.mp written with rfl | written
              · exact kept
              · exact ih (by simp) d written
            · exact ih (by simp [later])
      · exact notPair

/-- A line without line breaks of its own is the first line of a text that starts
with it. -/
theorem splitLines_append {line : List Char} (flat : Text.IsFlat line)
    (rest : List Char) : splitLines (line ++ '\n' :: rest) = line :: splitLines rest := by
  induction line with
  | nil => simp [splitLines, isLineBreak]
  | cons c line ih =>
      have inside := flat c (by simp)
      have others := ih fun d member => flat d (by simp [member])
      have notReturn : c ≠ '\r' := by
        rintro rfl
        revert inside
        decide
      rw [List.cons_append, splitLines, inside, others]
      · rfl
      · intro tail same
        exact absurd same notReturn

theorem mem_of_mem_trimRight {text : List Char} {c : Char} (member : c ∈ trimRight text) :
    c ∈ text :=
  (List.rdropWhile_prefix isBlank text).subset member

theorem mem_of_mem_trim {text : List Char} {c : Char} (member : c ∈ trim text) : c ∈ text :=
  (List.dropWhile_sublist isBlank).subset (mem_of_mem_trimRight member)

theorem mem_of_mem_intercalate {parts : List (List Char)} {c : Char}
    (member : c ∈ [' '].intercalate parts) : c = ' ' ∨ ∃ part ∈ parts, c ∈ part := by
  induction parts with
  | nil => simp at member
  | cons part rest ih =>
      cases rest with
      | nil => exact .inr ⟨part, by simp, by simpa using member⟩
      | cons next others =>
          rw [List.intercalate_cons_cons, List.append_assoc, List.mem_append] at member
          rcases member with first | later
          · exact .inr ⟨part, by simp, first⟩
          · rcases List.mem_cons.mp later with blank | later
            · exact .inl blank
            · rcases ih later with blank | ⟨found, among, inside⟩
              · exact .inl blank
              · exact .inr ⟨found, List.mem_cons_of_mem _ among, inside⟩

end Text

/-- No line break of a free text is left in a comment. -/
theorem Remark.clean_flat {text : String} {c : Char} (member : c ∈ (clean text).toList) :
    Text.isLineBreak c = false := by
  rw [toList_clean] at member
  rcases Text.mem_of_mem_intercalate (Text.mem_of_mem_trim member) with rfl | ⟨piece, split, inside⟩
  · decide
  · exact Text.splitLines_flat split c inside

namespace Line

theorem isFlat_of_pieces {line : Line}
    (flat : ∀ piece ∈ line.pieces, Text.IsFlat piece) : line.IsFlat := by
  intro c member
  rcases Text.mem_of_mem_intercalate (Text.mem_of_mem_trimRight member) with
    rfl | ⟨piece, among, inside⟩
  · decide
  · exact flat piece among c inside

theorem numberChars_flat (number : Nat) : Text.IsFlat (numberChars number) := by
  intro c member
  rcases List.mem_cons.mp member with rfl | digit
  · decide
  · have isDigit := Nat.isDigit_of_mem_toDigits (by decide) (by decide) digit
    exact Decimal.isNumberChar_isLineBreak (by simp [Decimal.isNumberChar, isDigit])

theorem remarkChars_flat {text : String} (flat : Text.IsFlat text.toList) :
    Text.IsFlat (remarkChars text) := by
  intro c member
  rcases List.mem_cons.mp member with rfl | member
  · decide
  · rcases List.mem_cons.mp member with rfl | member
    · decide
    · exact flat c member

theorem remarkOf?_eq {text cleaned : String} (found : remarkOf? text = some cleaned) :
    cleaned = Remark.clean text ∧ cleaned ≠ "" := by
  dsimp only [remarkOf?] at found
  obtain ⟨left, made⟩ := Option.ite_none_left_eq_some.mp found
  rw [← Option.some.inj made]
  exact ⟨rfl, left⟩

theorem remarkOf?_flat {text cleaned : String} (found : remarkOf? text = some cleaned) :
    Text.IsFlat cleaned.toList := by
  rw [(remarkOf?_eq found).1]
  exact fun c member => Remark.clean_flat member

theorem isFlat_command {number : Option Nat} {body : String} {remark : Option String}
    (flat : Text.IsFlat body.toList)
    (noted : ∀ text, remark = some text → Text.IsFlat text.toList) :
    (Line.command number body remark).IsFlat := by
  refine isFlat_of_pieces fun piece among => ?_
  rcases List.mem_append.mp among with front | behind
  · rcases List.mem_append.mp front with numbered | alone
    · obtain ⟨n, -, rfl⟩ := Option.map_eq_some_iff.mp (Option.mem_toList.mp numbered)
      exact numberChars_flat n
    · rw [List.mem_singleton.mp alone]
      exact flat
  · obtain ⟨text, present, rfl⟩ := Option.map_eq_some_iff.mp (Option.mem_toList.mp behind)
    exact remarkChars_flat (noted text present)

theorem isFlat_ofComment (text : Option String) : (ofComment text).IsFlat := by
  unfold ofComment
  split
  · next cleaned found =>
      obtain ⟨given, rfl, cleaning⟩ := Option.bind_eq_some_iff.mp found
      refine isFlat_of_pieces fun piece among => ?_
      rw [List.mem_singleton.mp among]
      exact remarkChars_flat (remarkOf?_flat cleaning)
  · exact isFlat_of_pieces fun piece among => by cases among

theorem isFlat_blank : blank.IsFlat := by
  simp [IsFlat, Text.IsFlat, chars, pieces, Text.trimRight]

theorem toList_joined (lines : List Line) :
    (joined lines).toList = lines.flatMap fun line => line.chars ++ ['\n'] := by
  simp [joined, text, String.toList_join, List.flatMap_map]

/-- The text of flat lines falls into these lines. -/
theorem splitLines_joined {lines : List Line} (flat : ∀ line ∈ lines, line.IsFlat) :
    Text.splitLines (joined lines).toList = lines.map chars := by
  rw [toList_joined]
  induction lines with
  | nil => rfl
  | cons line rest ih =>
      rw [List.flatMap_cons, List.append_assoc, List.singleton_append,
        Text.splitLines_append (flat line (by simp)),
        ih fun other member => flat other (by simp [member])]
      rfl

end Line

end GantryCode
