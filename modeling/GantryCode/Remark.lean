import GantryCode.Text.Blank
import GantryCode.Text.Lines

namespace GantryCode

/-! Free text inside comments.

Controllers take parentheses for the bounds of a comment, and a line break would
end it, so neither reaches the output.
-/

namespace Remark

def isParenthesis (c : Char) : Bool :=
  c = '(' || c = ')'

def cleanChars (text : List Char) : List Char :=
  Text.trim (Text.onOneLine (text.filter (!isParenthesis ·)))

def clean (text : String) : String :=
  String.ofList (cleanChars text.toList)

@[simp] theorem toList_clean (text : String) : (clean text).toList = cleanChars text.toList := by
  simp [clean]

end Remark

/-- What a comment consists of: nothing, one text, or several lines each of which may
be empty. -/
inductive Comment where
  | blank
  | text (text : String)
  | lines (texts : List (Option String))
deriving DecidableEq, Repr

end GantryCode
