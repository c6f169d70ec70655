import GantryCode.Decimal.Fixed
import GantryCode.Fault
import GantryCode.Target
import GantryCode.Writer.Line
import GantryCode.Writer.Slots

namespace GantryCode

/-! The writer of G code.

It remembers the text that it last wrote for each letter and for the plane. A word
is written only if its text differs from that, or if it is forced, since the
controller keeps the values that it was given.
-/

structure Writer where
  target : Target
  stamp : String
  showComments : Bool := true
  showLineNumbers : Bool := false
  /-- Decimal places of all values but whole ones. -/
  precision : Int := 3
  nextNumber : Nat := 1
  headerComments : List Comment := []
  slots : Slots := {}
  written : Array Line := #[]

/-- Writing can fail on the way; what was done until then stays done. -/
abbrev Writing := EStateM Fault Writer

namespace Writer

def ofTargetName (name stamp : String) : Except Fault Writer :=
  match Target.ofName? name with
  | some target => .ok { target, stamp }
  | none => .error (.unknownTarget name)

def text (writer : Writer) : String :=
  Line.joined writer.written.toList

/-- The most decimal places that a number can be written with. -/
def precisionLimit : Int := 2147483647

/-- Beyond this the count of decimal places itself is too long to be read. -/
def precisionTextLimit : Int := 9223372036854775807

/-- The text of a value. Whole values have no decimal places, whatever the
precision. -/
def valueText (writer : Writer) (whole : Bool) (value : Float) : Except Fault String :=
  let places := if whole then 0 else writer.precision
  if places < 0 then .error .negativePrecision
  else if precisionTextLimit < places then .error .precisionTooLong
  else if precisionLimit < places then .error .precisionTooLarge
  else .ok (Decimal.rounded places.toNat value)

def push (writer : Writer) (line : Line) : Writer :=
  { writer with written := writer.written.push line }

def comment (writer : Writer) (comment : Comment) : Writer :=
  if writer.showComments then
    match comment with
    | .blank => writer.push .blank
    | .text text => writer.push (.ofComment (some text))
    | .lines texts => texts.foldl (fun writer text => writer.push (.ofComment text)) writer
  else writer

def addHeaderComment (writer : Writer) (comment : Comment) : Writer :=
  { writer with headerComments := writer.headerComments ++ [comment] }

def remark (writer : Writer) (text : String) : Writer :=
  writer.comment (.text text)

def header (writer : Writer) (comment : Option Comment) : Writer :=
  let writer := writer.remark ("Creation date: " ++ writer.stamp)
  let writer := writer.remark ("Target machine: " ++ (writer.target.code? .description).getD "None")
  let writer := writer.remark ("Output precision: " ++ Text.signedDecimal writer.precision)
  let writer := writer.remark "Units: mm"
  (writer.headerComments ++ comment.toList).foldl Writer.comment writer

def writesLine (tokens : List (Option String)) : Bool :=
  commandBody tokens != ""

/-- Writes the line that the tokens make, with its number and its remark as the
writer shows them. Nothing is written where there is no token. -/
def command (writer : Writer) (tokens : List (Option String)) (note : Option String) : Writer :=
  if writesLine tokens then
    let number := if writer.showLineNumbers then some writer.nextNumber else none
    let remark := if writer.showComments then note.bind Line.remarkOf? else none
    { writer with
      written := writer.written.push (.command number (commandBody tokens) remark)
      nextNumber := writer.nextNumber + number.toList.length }
  else writer

def forget (writer : Writer) (letters : List Letter) : Writer :=
  { writer with slots := writer.slots.forget letters }

def forgetAll (writer : Writer) : Writer :=
  { writer with slots := writer.slots.cleared }

def setSlot (writer : Writer) (key : Slots.Key) (text : Option String) : Writer :=
  { writer with slots := writer.slots.store key text }

def setPrecision (writer : Writer) (precision : Int) : Writer :=
  { writer with precision }

/-- The word for a letter's value, unless the controller has it already. -/
def word (letter : Letter) (value : Option Float) (force : Bool) : Writing (Option String) :=
  match value with
  | none => pure none
  | some value => do
      let writer ← get
      let text ← MonadExcept.ofExcept (writer.valueText letter.isWhole value)
      if !force && writer.slots.get letter == some text then
        pure none
      else
        set (writer.setSlot (.letter letter) (some text))
        pure (some (letter.name ++ text))

def planeCode (code : String) (force : Bool) : Writing (Option String) := do
  let writer ← get
  if !force && writer.slots.plane == some code then
    pure none
  else
    set (writer.setSlot .plane (some code))
    pure (some code)

end Writer

end GantryCode
