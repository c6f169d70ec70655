import GantryCode.Writer.Line
import Mathlib.Data.List.DropRight

namespace GantryCode.Reading

/-! What a reader makes of the text of a file: its lines, and the words of a line.

Words stand between blanks. A semicolon begins a comment, and a first token that
numbers the line is none of its words. What is written reads back: a command has the
words that it was made of, and other lines have none.
-/

/-- The part of a line in front of its comment. -/
def uncommented (line : List Char) : List Char :=
  line.takeWhile (· != ';')

/-- What stands between the blanks of a line. -/
def tokens (line : List Char) : List (List Char) :=
  ((uncommented line).splitOnP Text.isBlank).filter (!·.isEmpty)

def isLineNumber : List Char → Bool
  | 'N' :: digits => !digits.isEmpty && digits.all Char.isDigit
  | _ => false

def withoutNumber : List (List Char) → List (List Char)
  | first :: rest => if isLineNumber first then rest else first :: rest
  | [] => []

/-- The tokens of a line less its number. -/
def words (line : List Char) : List (List Char) :=
  withoutNumber (tokens line)

/-- A text that is one token by itself. -/
def IsToken (text : List Char) : Prop :=
  text ≠ [] ∧ ∀ c ∈ text, Text.isBlank c = false ∧ c ≠ ';'

instance (text : List Char) : Decidable (IsToken text) :=
  decidable_of_iff (text ≠ [] ∧ text.all (fun c => !Text.isBlank c && c != ';') = true)
    (by simp [IsToken])

variable {left right token : List Char} {blank : Char}

@[simp] theorem tokens_nil : tokens [] = [] := by
  simp [tokens, uncommented]

@[simp] theorem tokens_comment (rest : List Char) : tokens (';' :: rest) = [] := by
  simp [tokens, uncommented]

theorem semicolon_ne_blank (white : Text.isBlank blank = true) : blank ≠ ';' := by
  rintro rfl
  revert white
  decide

theorem uncommented_append (plain : ';' ∉ left) (right : List Char) :
    uncommented (left ++ right) = left ++ uncommented right := by
  refine List.takeWhile_append_of_pos fun c member => ?_
  have different : c ≠ ';' := fun same => plain (same ▸ member)
  simpa using different

theorem tokens_append_of_comment (commented : ';' ∈ left) (right : List Char) :
    tokens (left ++ right) = tokens left := by
  have shorter : (left.takeWhile (· != ';')).length ≠ left.length := by
    intro same
    have whole := (List.takeWhile_prefix (l := left) (· != ';')).eq_of_length same
    have plain := List.mem_takeWhile_imp (whole.symm ▸ commented : ';' ∈ left.takeWhile (· != ';'))
    simp at plain
  unfold tokens uncommented
  rw [List.takeWhile_append, if_neg shorter]

theorem tokens_append_blank (plain : ';' ∉ left) (white : Text.isBlank blank = true)
    (right : List Char) : tokens (left ++ blank :: right) = tokens left ++ tokens right := by
  have whole : uncommented left = left := by
    simpa [uncommented] using uncommented_append plain []
  have split : uncommented (blank :: right) = blank :: uncommented right := by
    have different := semicolon_ne_blank white
    simp [uncommented, different]
  unfold tokens
  rw [uncommented_append plain, whole, split, List.splitOnP_append_cons _ _ white,
    List.filter_append]

theorem tokens_blank_cons (white : Text.isBlank blank = true) (right : List Char) :
    tokens (blank :: right) = tokens right := by
  simpa using tokens_append_blank (by simp : ';' ∉ ([] : List Char)) white right

theorem tokens_append_remark (left rest : List Char) :
    tokens (left ++ ' ' :: ';' :: rest) = tokens left := by
  by_cases commented : ';' ∈ left
  · exact tokens_append_of_comment commented _
  · rw [tokens_append_blank commented (by decide), tokens_comment, List.append_nil]

theorem tokens_concat_blank (left : List Char) (white : Text.isBlank blank = true) :
    tokens (left ++ [blank]) = tokens left := by
  by_cases commented : ';' ∈ left
  · exact tokens_append_of_comment commented _
  · rw [tokens_append_blank commented white, tokens_nil, List.append_nil]

@[simp] theorem tokens_trimRight (text : List Char) :
    tokens (Text.trimRight text) = tokens text := by
  induction text using List.reverseRecOn with
  | nil => rfl
  | append_singleton text c ih =>
      change tokens (List.rdropWhile Text.isBlank (text ++ [c])) = _
      rw [List.rdropWhile_concat]
      by_cases white : Text.isBlank c = true
      · rw [if_pos white, tokens_concat_blank text white]
        exact ih
      · rw [if_neg white]

@[simp] theorem tokens_trimLeft (text : List Char) : tokens (Text.trimLeft text) = tokens text := by
  induction text with
  | nil => rfl
  | cons c rest ih =>
      by_cases white : Text.isBlank c = true
      · rw [tokens_blank_cons white, ← ih]
        simp [Text.trimLeft, white]
      · simp [Text.trimLeft, white]

@[simp] theorem tokens_trim (text : List Char) : tokens (Text.trim text) = tokens text := by
  simp [Text.trim]

theorem tokens_token (alone : IsToken token) : tokens token = [token] := by
  have plain : ';' ∉ token := fun member => (alone.2 ';' member).2 rfl
  have whole : uncommented token = token := by
    simpa [uncommented] using uncommented_append plain []
  unfold tokens
  rw [whole, List.splitOnP_eq_singleton fun c member => (alone.2 c member).1]
  simp [alone.1]

theorem tokens_token_blank (alone : IsToken token) (white : Text.isBlank blank = true)
    (right : List Char) : tokens (token ++ blank :: right) = token :: tokens right := by
  have plain : ';' ∉ token := fun member => (alone.2 ';' member).2 rfl
  rw [tokens_append_blank plain white, tokens_token alone, List.singleton_append]

theorem tokens_token_comment (alone : IsToken token) (right : List Char) :
    tokens (token ++ ';' :: right) = [token] := by
  have plain : ';' ∉ token := fun member => (alone.2 ';' member).2 rfl
  have cut : uncommented (token ++ ';' :: right) = uncommented token := by
    have whole := uncommented_append plain []
    rw [uncommented_append plain]
    simpa [uncommented] using whole.symm
  rw [← tokens_token alone, tokens, cut, tokens]

theorem tokens_prefix {text : List Char} {rest : List (List Char)}
    (found : tokens text = token :: rest) : token <+: Text.trimLeft text := by
  induction text with
  | nil => simp at found
  | cons c tail ih =>
      by_cases white : Text.isBlank c = true
      · rw [tokens_blank_cons white] at found
        simpa [Text.trimLeft, white] using ih found
      · have kept : Text.trimLeft (c :: tail) = c :: tail := by simp [Text.trimLeft, white]
        rw [kept]
        by_cases comment : c = ';'
        · subst comment
          simp at found
        · let first := (c :: tail).takeWhile fun d => !Text.isBlank d && d != ';'
          have alone : IsToken first := by
            refine ⟨by simp [first, white, comment], fun d member => ?_⟩
            have visible := List.mem_takeWhile_imp member
            simpa using visible
          have split : first ++ (c :: tail).dropWhile (fun d => !Text.isBlank d && d != ';') =
              c :: tail := List.takeWhile_append_dropWhile
          have starts : tokens (c :: tail) = first :: (tokens (c :: tail)).tail := by
            rw [← split]
            cases behind : (c :: tail).dropWhile fun d => !Text.isBlank d && d != ';' with
            | nil => simp [tokens_token alone]
            | cons d others =>
                have ends : (!Text.isBlank d && d != ';') = false := by
                  have headed := List.head?_dropWhile_not (fun d => !Text.isBlank d && d != ';')
                    (c :: tail)
                  rw [behind] at headed
                  simpa using headed
                by_cases blank : Text.isBlank d = true
                · rw [tokens_token_blank alone blank, List.tail_cons]
                · have semicolon : d = ';' := by simpa [blank] using ends
                  subst semicolon
                  rw [tokens_token_comment alone, List.tail_cons]
          rw [found, List.cons.injEq] at starts
          rw [starts.1]
          exact List.takeWhile_prefix _

theorem trimLeft_trim (text : List Char) : Text.trimLeft (Text.trim text) = Text.trim text := by
  cases left : Text.trim text with
  | nil => rfl
  | cons c rest =>
      have front : c :: rest <+: Text.trimLeft text := by
        rw [← left]
        exact List.rdropWhile_prefix Text.isBlank (Text.trimLeft text)
      obtain ⟨behind, whole⟩ := front
      have headed := List.head?_dropWhile_not Text.isBlank text
      have same : text.dropWhile Text.isBlank = c :: (rest ++ behind) := whole.symm
      rw [same] at headed
      have visible : Text.isBlank c = false := by simpa using headed
      simp [Text.trimLeft, visible]

theorem IsToken.trim (alone : IsToken token) : Text.trim token = token := by
  have leftEnd : Text.trimLeft token = token := by
    cases token with
    | nil => rfl
    | cons c rest => simp [Text.trimLeft, (alone.2 c (by simp)).1]
  have rightEnd : Text.trimRight token = token :=
    List.rdropWhile_eq_self_iff.mpr fun nonempty => by
      simpa using (alone.2 _ (List.getLast_mem nonempty)).1
  rw [Text.trim, leftEnd, rightEnd]

end GantryCode.Reading
