namespace GantryCode.Text

/-! Decimal digits of every script of Unicode 14, and text of digits.
-/

/-- The characters of value zero. The nine code points after each have the values
one to nine. -/
def zeroDigits : List Nat :=
  [
    0x30, 0x660, 0x6f0, 0x7c0, 0x966, 0x9e6, 0xa66, 0xae6, 0xb66, 0xbe6, 0xc66, 0xce6, 0xd66,
    0xde6, 0xe50, 0xed0, 0xf20, 0x1040, 0x1090, 0x17e0, 0x1810, 0x1946, 0x19d0, 0x1a80, 0x1a90,
    0x1b50, 0x1bb0, 0x1c40, 0x1c50, 0xa620, 0xa8d0, 0xa900, 0xa9d0, 0xa9f0, 0xaa50, 0xabf0,
    0xff10, 0x104a0, 0x10d30, 0x11066, 0x110f0, 0x11136, 0x111d0, 0x112f0, 0x11450, 0x114d0,
    0x11650, 0x116c0, 0x11730, 0x118e0, 0x11950, 0x11c50, 0x11d50, 0x11da0, 0x16a60, 0x16ac0,
    0x16b50, 0x1d7ce, 0x1d7d8, 0x1d7e2, 0x1d7ec, 0x1d7f6, 0x1e140, 0x1e2f0, 0x1e950, 0x1fbf0]

def digitValue? (c : Char) : Option Nat :=
  (zeroDigits.find? fun first => first ≤ c.toNat && c.toNat < first + 10).map (c.toNat - ·)

def digitChar (value : Nat) : Char :=
  Char.ofNat (48 + value)

def isAsciiDigit (c : Char) : Bool :=
  '0' ≤ c && c ≤ '9'

/-- The number that a list of digit characters writes in the given base, with the
letters as digits above nine. -/
def natOfDigits (base : Nat) (digits : List Char) : Nat :=
  digits.foldl (fun value c =>
    let digit := if isAsciiDigit c then c.toNat - 48 else c.toLower.toNat - 97 + 10
    value * base + digit) 0

def decimalDigits (n : Nat) : List Char :=
  Nat.toDigits 10 n

def decimal (n : Nat) : String :=
  String.ofList (decimalDigits n)

/-- The decimal text of an integer, with a minus sign where it is negative. -/
def signedDecimal : Int → String
  | .ofNat n => decimal n
  | .negSucc n => "-" ++ decimal (n + 1)

end GantryCode.Text
