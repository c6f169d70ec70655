namespace GantryCode.Text

/-! Blank characters and the removal of blanks from the ends of a text.

The blanks are the spaces, tabs, line breaks and information separators of
Unicode; zero-width characters are not among them.
-/

def isBlank (c : Char) : Bool :=
  let code := c.toNat
  (9 ≤ code && code ≤ 13) || (28 ≤ code && code ≤ 32) || code == 0x85 || code == 0xA0 ||
    code == 0x1680 || (0x2000 ≤ code && code ≤ 0x200A) || code == 0x2028 || code == 0x2029 ||
    code == 0x202F || code == 0x205F || code == 0x3000

def trimLeft (text : List Char) : List Char :=
  text.dropWhile isBlank

def trimRight (text : List Char) : List Char :=
  (text.reverse.dropWhile isBlank).reverse

def trim (text : List Char) : List Char :=
  trimRight (trimLeft text)

def stripped (text : String) : String :=
  String.ofList (trim text.toList)

@[simp] theorem toList_stripped (text : String) :
    (stripped text).toList = trim text.toList := by
  simp [stripped]

end GantryCode.Text
