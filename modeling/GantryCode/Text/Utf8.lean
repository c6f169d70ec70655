import GantryCode.Text.Digit
import GantryCode.Text.Lines

namespace GantryCode.Text.Utf8

/-! Decoding of UTF-8 as a file is read, block by block.

The bytes of a block are decoded together, behind what an unfinished character left
over from the block before. Bytes that are no text make the whole block unreadable,
but the lines that ended before it have been read by then.
-/

inductive Reason where
  | startByte
  | continuation
  | endOfData
deriving DecidableEq, Repr

def Reason.message : Reason → String
  | .startByte => "invalid start byte"
  | .continuation => "invalid continuation byte"
  | .endOfData => "unexpected end of data"

/-- Bytes that are no text: the first of them, how many they are, and where they
start in what was decoded together. -/
structure Fault where
  reason : Reason
  position : Nat
  first : UInt8
  count : Nat
deriving DecidableEq, Repr

def hexByte (byte : UInt8) : String :=
  let digits := Nat.toDigits 16 byte.toNat
  String.ofList (List.replicate (2 - digits.length) '0' ++ digits)

def Fault.message (fault : Fault) : String :=
  let place :=
    if fault.count = 1 then
      "byte 0x" ++ hexByte fault.first ++ " in position " ++ decimal fault.position
    else
      "bytes in position " ++ decimal fault.position ++ "-" ++
        decimal (fault.position + fault.count - 1)
  "'utf-8' codec can't decode " ++ place ++ ": " ++ fault.reason.message

def lengthOf? (byte : UInt8) : Option Nat :=
  if byte < 0x80 then some 1
  else if byte < 0xC2 then none
  else if byte < 0xE0 then some 2
  else if byte < 0xF0 then some 3
  else if byte < 0xF5 then some 4
  else none

def isContinuation (byte : UInt8) : Bool :=
  0x80 ≤ byte && byte < 0xC0

/-- Whether the second byte makes the shortest form of a character that exists. -/
def isSecond (first second : UInt8) : Bool :=
  isContinuation second &&
    !(first = 0xE0 && second < 0xA0) && !(first = 0xED && 0xA0 ≤ second) &&
    !(first = 0xF0 && second < 0x90) && !(first = 0xF4 && 0x90 ≤ second)

def fitting (first : UInt8) (length : Nat) (rest : List UInt8) : Nat :=
  match rest.take (length - 1) with
  | [] => 0
  | second :: others =>
      if isSecond first second then 1 + (others.takeWhile isContinuation).length else 0

def codeOf (first : UInt8) (rest : List UInt8) : Nat :=
  let start :=
    match rest.length with
    | 0 => first.toNat
    | 1 => first.toNat % 0x20
    | 2 => first.toNat % 0x10
    | _ => first.toNat % 0x08
  rest.foldl (fun code byte => code * 64 + byte.toNat % 64) start

inductive Step where
  | char (c : Char) (length : Nat)
  | unfinished
  | fault (reason : Reason) (count : Nat)

def step (first : UInt8) (rest : List UInt8) : Step :=
  match lengthOf? first with
  | none => .fault .startByte 1
  | some length =>
      let fit := fitting first length rest
      if fit + 1 = length then .char (Char.ofNat (codeOf first (rest.take fit))) length
      else if rest.length ≤ fit then .unfinished
      else .fault .continuation (fit + 1)

/-- Whether the bytes are the first two of a surrogate. They are no text, but no
verdict is given before the third is there. -/
def isCutSurrogate (bytes : List UInt8) : Bool :=
  match bytes with
  | [first, second] => first = 0xED && 0xA0 ≤ second && isContinuation second
  | _ => false

/-- Decodes the bytes; `position` of them are behind, and `seen` is their text in
reverse. Left over is what may be the start of a character. -/
def decodeFrom : Nat → Nat → List Char → List UInt8 → Except Fault (List Char × List UInt8)
  | 0, _, seen, bytes => .ok (seen.reverse, bytes)
  | fuel + 1, position, seen, bytes =>
      match bytes with
      | [] => .ok (seen.reverse, [])
      | first :: rest =>
          match step first rest with
          | .char c length => decodeFrom fuel (position + length) (c :: seen) (bytes.drop length)
          | .unfinished => .ok (seen.reverse, bytes)
          | .fault reason count =>
              if isCutSurrogate bytes then .ok (seen.reverse, bytes)
              else .error { reason, position, first, count }

def decode (bytes : List UInt8) : Except Fault (List Char × List UInt8) :=
  decodeFrom (bytes.length + 1) 0 [] bytes

def blockSize : Nat := 8192

def faultAtEnd (first : UInt8) (rest : List UInt8) : Fault :=
  match step first rest with
  | .fault reason count => { reason, position := 0, first, count }
  | _ => { reason := .endOfData, position := 0, first, count := rest.length + 1 }

def decodeBlocks : Nat → List UInt8 → List UInt8 → List (List Char) × Option Fault
  | 0, _, _ => ([], none)
  | fuel + 1, left, bytes =>
      match bytes with
      | [] =>
          match left with
          | [] => ([], none)
          | first :: rest => ([], some (faultAtEnd first rest))
      | _ =>
          match decode (left ++ bytes.take blockSize) with
          | .error fault => ([], some fault)
          | .ok (text, left) =>
              let (texts, fault) := decodeBlocks fuel left (bytes.drop blockSize)
              (text :: texts, fault)

def blocks (bytes : List UInt8) : List (List Char) × Option Fault :=
  decodeBlocks (bytes.length + 1) [] bytes

/-- The text without the line that is not yet known to be finished. A carriage return
at the end may be the first half of a line end. -/
def finished (text : List Char) : List Char :=
  let whole := if text.getLast? = some '\r' then text.dropLast else text
  (whole.reverse.dropWhile fun c => !(c = '\n' || c = '\r')).reverse

def endsLine (bytes : List UInt8) : Bool :=
  match bytes.getLast? with
  | none => true
  | some last => last = 10 || last = 13

def lines (bytes : List UInt8) : List String × Option Fault :=
  match blocks bytes with
  | (texts, none) => ((fileLines texts.flatten).map String.ofList, none)
  | (texts, some fault) => ((fileLines (finished texts.flatten)).map String.ofList, some fault)

end GantryCode.Text.Utf8
