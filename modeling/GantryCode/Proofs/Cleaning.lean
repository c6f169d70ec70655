import GantryCode.Proofs.FreeText

namespace GantryCode

/-! What cleaning leaves of a free text.

Parentheses are taken away, every line break becomes a space, and the blanks at the ends go.
Nothing else is lost: the words that stand between the blanks of the cleaned text are those of the
text without its parentheses, and words on two sides of a line break stay apart. There is nothing
left to clean behind it.
-/

namespace Text

/-- What stands between the blanks of a text. -/
def wordsOf (text : List Char) : List (List Char) :=
  (text.splitOnP isBlank).filter (!·.isEmpty)

variable {text : List Char} {blank : Char}

@[simp] theorem wordsOf_nil : wordsOf [] = [] := by
  simp [wordsOf]

/-- A blank parts what is in front of it from what is behind it. -/
theorem wordsOf_append_blank (left : List Char) (white : isBlank blank = true)
    (right : List Char) : wordsOf (left ++ blank :: right) = wordsOf left ++ wordsOf right := by
  rw [wordsOf, List.splitOnP_append_cons _ _ white, List.filter_append, wordsOf, wordsOf]

theorem wordsOf_blank_cons (white : isBlank blank = true) (right : List Char) :
    wordsOf (blank :: right) = wordsOf right := by
  simpa using wordsOf_append_blank [] white right

theorem wordsOf_concat_blank (left : List Char) (white : isBlank blank = true) :
    wordsOf (left ++ [blank]) = wordsOf left := by
  simpa using wordsOf_append_blank left white []

theorem wordsOf_trimLeft (text : List Char) : wordsOf (trimLeft text) = wordsOf text := by
  induction text with
  | nil => rfl
  | cons c rest ih =>
      by_cases white : isBlank c = true
      · rw [wordsOf_blank_cons white, ← ih]
        simp [trimLeft, white]
      · simp [trimLeft, white]

theorem wordsOf_trimRight (text : List Char) : wordsOf (trimRight text) = wordsOf text := by
  induction text using List.reverseRecOn with
  | nil => rfl
  | append_singleton text c ih =>
      change wordsOf (List.rdropWhile isBlank (text ++ [c])) = _
      rw [List.rdropWhile_concat]
      by_cases white : isBlank c = true
      · rw [if_pos white, wordsOf_concat_blank text white]
        exact ih
      · rw [if_neg white]

theorem wordsOf_trim (text : List Char) : wordsOf (trim text) = wordsOf text := by
  rw [trim, wordsOf_trimRight, wordsOf_trimLeft]

/-- The words hold all that is not blank, in its order. -/
theorem flatten_wordsOf (text : List Char) : (wordsOf text).flatten = text.filter (!isBlank ·) := by
  rw [wordsOf, List.flatten_filter_not_isEmpty]
  induction text with
  | nil => simp
  | cons c rest ih =>
      rw [List.splitOnP_cons_eq_if_modifyHead]
      obtain ⟨first, others, split⟩ :=
        List.exists_cons_of_ne_nil (List.splitOnP_ne_nil isBlank rest)
      rw [split] at ih ⊢
      by_cases white : isBlank c = true
      · simp [white, ← ih]
      · simp [white, ← ih]

/-- The words of lines that are joined by spaces are those of each line. -/
theorem wordsOf_intercalate (lines : List (List Char)) :
    wordsOf ([' '].intercalate lines) = lines.flatMap wordsOf := by
  induction lines with
  | nil => simp
  | cons line rest ih =>
      cases rest with
      | nil => simp
      | cons next others =>
          rw [List.intercalate_cons_cons, List.append_assoc, List.singleton_append,
            wordsOf_append_blank line (by decide), ih, ← List.flatMap_cons]

/-- The lines of a text, the first of them continued behind another text. -/
def continued (front : List Char) : List (List Char) → List (List Char)
  | [] => [front]
  | line :: rest => (front ++ line) :: rest

theorem continued_prepend (front : List Char) (c : Char) (lines : List (List Char)) :
    continued front (prepend c lines) = continued (front ++ [c]) lines := by
  cases lines <;> simp [continued, prepend]

theorem continued_nil_words (lines : List (List Char)) :
    (continued [] lines).flatMap wordsOf = lines.flatMap wordsOf := by
  cases lines <;> simp [continued]

/-- No word reaches across a line break, so the words of a text are those of its lines. The
induction takes the characters of the first line to the text in front, up to its end. -/
theorem wordsOf_continued (front text : List Char) :
    (continued front (splitLines text)).flatMap wordsOf = wordsOf (front ++ text) := by
  induction text using splitLines.induct generalizing front with
  | case1 => simp [splitLines, continued]
  | case2 rest ih =>
      have behind := ih []
      rw [continued_nil_words, List.nil_append] at behind
      rw [splitLines, continued, List.flatMap_cons, List.append_nil, behind,
        wordsOf_append_blank front (by decide), wordsOf_blank_cons (by decide)]
  | case3 c rest notPair breaks ih =>
      have behind := ih []
      rw [continued_nil_words, List.nil_append] at behind
      rw [splitLines, if_pos breaks, continued, List.flatMap_cons, List.append_nil, behind,
        wordsOf_append_blank front (isLineBreak_isBlank breaks)]
      exact notPair
  | case4 c rest notPair within ih =>
      rw [splitLines, if_neg within, continued_prepend, ih, List.append_assoc,
        List.singleton_append]
      exact notPair

theorem wordsOf_onOneLine (text : List Char) : wordsOf (onOneLine text) = wordsOf text := by
  rw [onOneLine, wordsOf_intercalate, ← continued_nil_words, wordsOf_continued, List.nil_append]

theorem splitLines_of_flat (flat : IsFlat text) (filled : text ≠ []) :
    splitLines text = [text] := by
  induction text with
  | nil => exact absurd rfl filled
  | cons c rest ih =>
      have within := flat c (by simp)
      have notPair : ∀ tail, c = '\r' → rest = '\n' :: tail → False := by
        rintro tail rfl -
        revert within
        decide
      rw [splitLines, if_neg (by simp [within])]
      · cases rest with
        | nil => rfl
        | cons next others =>
            rw [ih (fun d member => flat d (List.mem_cons_of_mem c member)) (by simp)]
            rfl
      · exact notPair

theorem onOneLine_of_flat (flat : IsFlat text) : onOneLine text = text := by
  by_cases filled : text = []
  · subst filled
    rfl
  · rw [onOneLine, splitLines_of_flat flat filled, List.intercalate_singleton]

/-- There is no blank at either end of a text of which the blanks there were removed. -/
theorem ends_trim (text : List Char) :
    (∀ c ∈ (trim text).head?, isBlank c = false) ∧
      ∀ c ∈ (trim text).getLast?, isBlank c = false := by
  constructor
  · intro c first
    have headed := List.head?_dropWhile_not isBlank (trim text)
    have kept : (trim text).dropWhile isBlank = trim text := Reading.trimLeft_trim text
    rw [kept, Option.mem_def.mp first] at headed
    simpa using headed
  · intro c last
    obtain ⟨filled, rfl⟩ := List.mem_getLast?_eq_getLast last
    exact Bool.eq_false_iff.mpr (List.rdropWhile_last_not isBlank (trimLeft text) filled)

end Text

namespace Remark

theorem not_isParenthesis {c : Char} (breaks : Text.isLineBreak c = true) :
    isParenthesis c = false := by
  rw [← Bool.not_eq_true]
  intro parenthesis
  have either : c = '(' ∨ c = ')' := by simpa [isParenthesis] using parenthesis
  rcases either with rfl | rfl <;> exact absurd breaks (by decide)

theorem wordsOf_clean (text : String) : Text.wordsOf (clean text).toList =
    Text.wordsOf (text.toList.filter (!isParenthesis ·)) := by
  rw [toList_clean, cleanChars, Text.wordsOf_trim, Text.wordsOf_onOneLine]

/-- A text without parentheses and line breaks is only trimmed. -/
theorem cleanChars_of_plain {text : List Char} (plain : Text.IsPlain text)
    (flat : Text.IsFlat text) : cleanChars text = Text.trim text := by
  have kept : text.filter (!isParenthesis ·) = text :=
    List.filter_eq_self.mpr fun c member => by simp [plain c member]
  rw [cleanChars, kept, Text.onOneLine_of_flat flat]

theorem clean_clean (text : String) : clean (clean text) = clean text := by
  have again := cleanChars_of_plain (clean_plain text) fun c member => clean_flat member
  rw [clean, again, toList_clean, cleanChars, Reading.trim_trim]
  exact rfl

/-- Cleaning takes parentheses, line breaks and the blanks at the ends away from a text, keeps its
other visible characters in their order and its words apart where a line ended, and has nothing to
do a second time. -/
theorem clean_keeps_words (text : String) :
    (∀ c ∈ (clean text).toList, isParenthesis c = false ∧ Text.isLineBreak c = false) ∧
      (∀ c ∈ (clean text).toList.head?, Text.isBlank c = false) ∧
      (∀ c ∈ (clean text).toList.getLast?, Text.isBlank c = false) ∧
      (clean text).toList.filter (!Text.isBlank ·) =
        text.toList.filter (fun c => !Text.isBlank c && !isParenthesis c) ∧
      Text.wordsOf (clean text).toList = Text.wordsOf (text.toList.filter (!isParenthesis ·)) ∧
      (∀ before c behind, text = before ++ String.singleton c ++ behind →
        Text.isLineBreak c = true → Text.wordsOf (clean text).toList =
          Text.wordsOf (clean before).toList ++ Text.wordsOf (clean behind).toList) ∧
      clean (clean text) = clean text := by
  obtain ⟨front, back⟩ := Text.ends_trim (Text.onOneLine (text.toList.filter (!isParenthesis ·)))
  have words := wordsOf_clean text
  refine ⟨fun c member => ⟨clean_plain text c member, clean_flat member⟩, ?_, ?_, ?_, words, ?_,
    clean_clean text⟩
  · rw [toList_clean]
    exact front
  · rw [toList_clean]
    exact back
  · rw [← Text.flatten_wordsOf, words, Text.flatten_wordsOf, List.filter_filter]
  · rintro before c behind rfl breaks
    simp only [wordsOf_clean, String.toList_append, String.toList_singleton, List.filter_append,
      List.filter_cons, not_isParenthesis breaks, Bool.not_false, if_true,
      List.append_assoc, List.singleton_append]
    exact Text.wordsOf_append_blank _ (Text.isLineBreak_isBlank breaks) _

/-- Two lines with parentheses and blanks at the ends, parted by a carriage return and a newline. -/
theorem clean_two_lines :
    (" Pocket (2)\r\n(rough) left) " =
        " Pocket (2)\r" ++ String.singleton '\n' ++ "(rough) left) " ∧
      Text.isLineBreak '\n' = true) ∧
    clean " Pocket (2)\r\n(rough) left) " = "Pocket 2 rough left" ∧
    Text.wordsOf (clean " Pocket (2)\r\n(rough) left) ").toList =
      Text.wordsOf (clean " Pocket (2)\r").toList ++
        Text.wordsOf (clean "(rough) left) ").toList := by
  obtain ⟨-, -, -, -, -, apart, -⟩ := clean_keeps_words " Pocket (2)\r\n(rough) left) "
  exact ⟨⟨by decide, by decide⟩, by decide,
    apart " Pocket (2)\r" '\n' "(rough) left) " (by decide) (by decide)⟩

end Remark

end GantryCode
