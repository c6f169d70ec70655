import GantryCode.Remark
import GantryCode.Text.Digit

namespace GantryCode

/-! Lines of G code.

A command has a body and may have a number in front and a remark behind; a line
without a command is a remark or blank. Blanks at the end of a line are not
written.
-/

inductive Line where
  | command (number : Option Nat) (body : String) (remark : Option String)
  | remark (text : String)
  | blank
deriving DecidableEq, Repr

namespace Line

def numberChars (number : Nat) : List Char :=
  'N' :: Text.decimalDigits number

def remarkChars (text : String) : List Char :=
  ';' :: ' ' :: text.toList

def pieces : Line → List (List Char)
  | .command number body note =>
      (number.map numberChars).toList ++ [body.toList] ++ (note.map remarkChars).toList
  | .remark text => [remarkChars text]
  | .blank => []

def chars (line : Line) : List Char :=
  Text.trimRight ([' '].intercalate line.pieces)

def text (line : Line) : String :=
  String.ofList (line.chars ++ ['\n'])

def joined (lines : List Line) : String :=
  String.join (lines.map text)

/-- The remark that a free text makes, unless nothing is left of it. -/
def remarkOf? (text : String) : Option String :=
  let cleaned := Remark.clean text
  if cleaned = "" then none else some cleaned

def ofComment (text : Option String) : Line :=
  match text.bind remarkOf? with
  | some cleaned => .remark cleaned
  | none => .blank

end Line

def presentTokens (tokens : List (Option String)) : List String :=
  (tokens.filterMap id).filter (· != "") |>.map Text.stripped

/-- The body that tokens make: those that are there, joined by single spaces. -/
def commandBody (tokens : List (Option String)) : String :=
  String.ofList ([' '].intercalate ((presentTokens tokens).map String.toList))

end GantryCode
