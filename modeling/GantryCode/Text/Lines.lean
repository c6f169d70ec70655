namespace GantryCode.Text

/-! Division of a text into lines.

Two notions of line end meet here. Free text breaks at every Unicode line
boundary. The lines of a file end only at a newline, a carriage return, or a
carriage return followed by a newline.
-/

def isLineBreak (c : Char) : Bool :=
  let code := c.toNat
  (10 ≤ code && code ≤ 13) || (28 ≤ code && code ≤ 30) || code == 0x85 ||
    code == 0x2028 || code == 0x2029

def prepend (c : Char) : List (List Char) → List (List Char)
  | [] => [[c]]
  | line :: rest => (c :: line) :: rest

/-- The lines of a text without their ends. A carriage return followed by a
newline is one boundary, and a boundary at the end of the text opens no further
line. -/
def splitLines : List Char → List (List Char)
  | [] => []
  | '\r' :: '\n' :: rest => [] :: splitLines rest
  | c :: rest => if isLineBreak c then [] :: splitLines rest else prepend c (splitLines rest)

/-- The text of a file with every line end as one newline. The character after each
is kept in the fold, since it tells whether a carriage return is a line end of its
own. -/
def foldLineEnds (text : List Char) : List Char :=
  (text.foldr (fun c (next, folded) =>
    (some c,
      if c = '\r' then if next == some '\n' then folded else '\n' :: folded
      else c :: folded)) ((none : Option Char), [])).2

def fileLines (text : List Char) : List (List Char) :=
  (foldLineEnds text).foldr (fun c lines => if c = '\n' then [] :: lines else prepend c lines) []

def onOneLine (text : List Char) : List Char :=
  [' '].intercalate (splitLines text)

end GantryCode.Text
