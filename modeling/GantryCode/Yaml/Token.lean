import GantryCode.Decimal.Reader
import GantryCode.Yaml.Source

namespace GantryCode.Yaml

/-! Tokens of YAML 1.1 text.

The indentation of block collections becomes tokens that open and close them, so
that a document is a bracketed sequence of tokens. A scalar is a key only if a colon
follows it on its own line, which shows after it was read; the token that marks the
key is then put in front of it.

Tokens are made one by one, so a fault in the text leaves those that were settled
before it. A token is settled when it is known whether it is a key.

Anchors, aliases, tags and block scalars are not part of the language that is read
here.
-/

inductive Token where
  | directive (name : String) (version : Option (Nat × Nat))
  | documentStart
  | documentEnd
  | blockSequenceStart
  | blockMappingStart
  | blockEnd
  | flowSequenceStart
  | flowSequenceEnd
  | flowMappingStart
  | flowMappingEnd
  | blockEntry
  | flowEntry
  | key
  | value
  | scalar (text : String) (plain : Bool)
deriving DecidableEq, Repr

def isBreak (c : Char) : Bool :=
  c = '\n' || c = '\r' || c = '\x85' || c = '\u2028' || c = '\u2029'

/-- A place in the text: what is left of it, and how far it is from its start. -/
structure Cursor where
  rest : List Char
  offset : Nat := 0
  line : Nat := 0
  column : Nat := 0

namespace Cursor

def peek (cursor : Cursor) : Option Char :=
  cursor.rest.head?

def peekAt (cursor : Cursor) (distance : Nat) : Option Char :=
  cursor.rest[distance]?

def endsLine (c : Char) (next : Option Char) : Bool :=
  isBreak c && !(c = '\r' && next = some '\n')

/-- One character further. A byte order mark takes no column. -/
def forward (cursor : Cursor) : Cursor :=
  match cursor.rest with
  | [] => cursor
  | c :: rest =>
      if endsLine c rest.head? then
        { rest, offset := cursor.offset + 1, line := cursor.line + 1, column := 0 }
      else
        { rest
          offset := cursor.offset + 1
          line := cursor.line
          column := if c = '\uFEFF' then cursor.column else cursor.column + 1 }

def advance (cursor : Cursor) : Nat → Cursor
  | 0 => cursor
  | count + 1 => cursor.forward.advance count

def skipWhile (cursor : Cursor) (skipped : Char → Bool) : Cursor :=
  cursor.advance (cursor.rest.takeWhile skipped).length

def taken (cursor : Cursor) (wanted : Char → Bool) : List Char :=
  cursor.rest.takeWhile wanted

/-- A line break, as the scalar that contains it has it. -/
def readBreak? (cursor : Cursor) : Option (Char × Cursor) :=
  match cursor.rest with
  | '\r' :: '\n' :: _ => some ('\n', cursor.advance 2)
  | c :: _ =>
      if isBreak c then
        some (if c = '\u2028' || c = '\u2029' then c else '\n', cursor.forward)
      else none
  | [] => none

end Cursor

def isSpaceOrEnd (c : Option Char) : Bool :=
  match c with
  | none => true
  | some c => c = ' ' || c = '\t' || isBreak c

def isBreakOrEnd (c : Option Char) : Bool :=
  c.all isBreak

/-- Whether a marker of a document's start or end stands here. -/
def isMarker (cursor : Cursor) (marker : List Char) : Bool :=
  marker.isPrefixOf cursor.rest && isSpaceOrEnd (cursor.peekAt 3)

def isSeparator (cursor : Cursor) : Bool :=
  isMarker cursor ['-', '-', '-'] || isMarker cursor ['.', '.', '.']

/-! Scalars in quotes. -/

def simpleEscape? (c : Char) : Option Char :=
  match c with
  | '0' => some '\x00'
  | 'a' => some '\x07'
  | 'b' => some '\x08'
  | 't' | '\t' => some '\t'
  | 'n' => some '\n'
  | 'v' => some '\x0b'
  | 'f' => some '\x0c'
  | 'r' => some '\r'
  | 'e' => some '\x1b'
  | ' ' => some ' '
  | '"' => some '"'
  | '\\' => some '\\'
  | '/' => some '/'
  | 'N' => some '\x85'
  | '_' => some '\xa0'
  | 'L' => some '\u2028'
  | 'P' => some '\u2029'
  | _ => none

def codeWidth? (c : Char) : Option Nat :=
  match c with
  | 'x' => some 2
  | 'u' => some 4
  | 'U' => some 8
  | _ => none

def hexValue? (c : Char) : Option Nat :=
  if '0' ≤ c && c ≤ '9' then some (c.toNat - 48)
  else if 'a' ≤ c && c ≤ 'f' then some (c.toNat - 87)
  else if 'A' ≤ c && c ≤ 'F' then some (c.toNat - 55)
  else none

def readCode (digits : List Char) (width : Nat) : Except Fault Char :=
  match digits.mapM hexValue? with
  | none => .error .malformed
  | some values =>
      if values.length < width then .error .unfinished
      else
        let code := values.foldl (fun code digit => code * 16 + digit) 0
        if 2147483647 < code then .error .codeTooLarge
        else if 0x10FFFF < code then .error .codeOutOfRange
        else .ok (Char.ofNat code)

/-- The further line breaks after one in a quoted scalar, with the indentation
around them dropped. -/
def quotedBreaks : Nat → Cursor → Except Fault (List Char × Cursor)
  | 0, cursor => .ok ([], cursor)
  | fuel + 1, cursor =>
      if isSeparator cursor then .error .malformed
      else
        let cursor := cursor.skipWhile fun c => c = ' ' || c = '\t'
        match cursor.readBreak? with
        | some (c, cursor) => do
            let (breaks, cursor) ← quotedBreaks fuel cursor
            .ok (c :: breaks, cursor)
        | none => .ok ([], cursor)

/-- What a line break and the breaks after it stand for: a single break for a
space. -/
def foldedBreaks (first : Char) (others : List Char) : List Char :=
  if first ≠ '\n' then first :: others
  else if others.isEmpty then [' ']
  else others

/-- The text up to the closing quote, which is `quote`; `cursor` is behind the
opening one. -/
def quotedText (quote : Char) : Nat → Cursor → Except Fault (List Char × Cursor)
  | 0, _ => .error .unfinished
  | fuel + 1, cursor =>
      let more (chars : List Char) (cursor : Cursor) : Except Fault (List Char × Cursor) := do
        let (rest, cursor) ← quotedText quote fuel cursor
        .ok (chars ++ rest, cursor)
      match cursor.rest with
      | [] => .error .unfinished
      | c :: rest =>
          if c = '\'' && quote = '\'' && rest.head? = some '\'' then more ['\''] (cursor.advance 2)
          else if c = quote then .ok ([], cursor.forward)
          else if c = '\\' && quote = '"' then
            match rest with
            | [] => .error .unfinished
            | escape :: digits =>
                match simpleEscape? escape, codeWidth? escape with
                | some c, _ => more [c] (cursor.advance 2)
                | none, some width => do
                    let c ← readCode (digits.take width) width
                    more [c] (cursor.advance (width + 2))
                | none, none =>
                    match cursor.forward.readBreak? with
                    | none => .error .malformed
                    | some (_, cursor) => do
                        let (breaks, cursor) ← quotedBreaks cursor.rest.length cursor
                        more breaks cursor
          else if c = ' ' || c = '\t' || isBreak c then
            let blanks := cursor.taken fun c => c = ' ' || c = '\t'
            let after := cursor.advance blanks.length
            match after.readBreak? with
            | some (first, cursor) => do
                let (others, cursor) ← quotedBreaks cursor.rest.length cursor
                more (foldedBreaks first others) cursor
            | none => more blanks after
          else more [c] cursor.forward

/-! Plain scalars. -/

/-- Whether a plain scalar ends in front of the text. -/
def endsPlain (inFlow : Bool) (text : List Char) : Bool :=
  match text with
  | [] => true
  | c :: rest =>
      isSpaceOrEnd (some c) ||
        (c = ':' && (isSpaceOrEnd rest.head? ||
          (inFlow && rest.head?.any (",[]\x7b\x7d".contains ·)))) ||
        (inFlow && ",?[]\x7b\x7d".contains c)

/-- The characters of a plain scalar up to the next blank or its end. -/
def plainRun (inFlow : Bool) : List Char → List Char
  | [] => []
  | c :: rest => if endsPlain inFlow (c :: rest) then [] else c :: plainRun inFlow rest

/-- The further breaks after one in a plain scalar, or none if a document marker
ends it. -/
def plainBreaks : Nat → Cursor → Option (List Char) × Cursor
  | 0, cursor => (some [], cursor)
  | fuel + 1, cursor =>
      let cursor := cursor.skipWhile (· = ' ')
      match cursor.readBreak? with
      | some (c, cursor) =>
          if isSeparator cursor then (none, cursor)
          else
            let (breaks, cursor) := plainBreaks fuel cursor
            (breaks.map (c :: ·), cursor)
      | none => (some [], cursor)

/-- The blanks and line breaks behind a run of a plain scalar: what they stand for,
and whether there was a line break. Nothing stands for what ends the scalar. -/
def plainSpaces (cursor : Cursor) : List Char × Bool × Cursor :=
  let blanks := cursor.taken (· = ' ')
  let cursor := cursor.advance blanks.length
  match cursor.readBreak? with
  | none => (blanks, false, cursor)
  | some (first, cursor) =>
      if isSeparator cursor then ([], true, cursor)
      else
        match plainBreaks cursor.rest.length cursor with
        | (none, cursor) => ([], true, cursor)
        | (some others, cursor) => (foldedBreaks first others, true, cursor)

/-- The text of a plain scalar, and whether it ends behind a line break. `spaces`
stands between what was read before and what follows. -/
def plainText (inFlow : Bool) (indent : Int) :
    Nat → List Char → Bool → Cursor → List Char × Bool × Cursor
  | 0, _, broken, cursor => ([], broken, cursor)
  | fuel + 1, spaces, broken, cursor =>
      let run := if cursor.peek = some '#' then [] else plainRun inFlow cursor.rest
      if run.isEmpty then ([], broken, cursor)
      else
        let (next, broken, cursor) := plainSpaces (cursor.advance run.length)
        if next.isEmpty || cursor.peek = some '#' || (!inFlow && cursor.column < indent) then
          (spaces ++ run, broken, cursor)
        else
          let (rest, broken, cursor) := plainText inFlow indent fuel next broken cursor
          (spaces ++ run ++ rest, broken, cursor)

/-! The sequence of tokens. -/

/-- A token that becomes a key if a colon follows. It has to be one if it stands at
the indentation of the mapping that it is in. -/
structure PossibleKey where
  token : Nat
  required : Bool
  offset : Nat
  line : Nat
  column : Nat

structure Scanner where
  cursor : Cursor
  tokens : Array Token := #[]
  /-- The column of the innermost block collection, and those of the outer ones. -/
  indent : Int := -1
  outerIndents : List Int := []
  flowLevel : Nat := 0
  keyAllowed : Bool := true
  /-- The possible key of each flow level, innermost first. -/
  keys : List (Nat × PossibleKey) := []

abbrev Scan := StateT Scanner (Except Fault)

namespace Scanner

def inFlow (scanner : Scanner) : Bool :=
  0 < scanner.flowLevel

def settled (scanner : Scanner) : List Token :=
  let waiting := (scanner.keys.map (·.2.token)).min?
  scanner.tokens.toList.take (waiting.getD scanner.tokens.size)

end Scanner

namespace Scan

def fail {α : Type} : Scan α :=
  throw .malformed

def emit (token : Token) : Scan Unit :=
  modify fun scanner => { scanner with tokens := scanner.tokens.push token }

def insert (place : Nat) (token : Token) : Scan Unit :=
  modify fun scanner =>
    { scanner with
      tokens := scanner.tokens.extract 0 place ++ #[token] ++
        scanner.tokens.extract place scanner.tokens.size }

def moveTo (cursor : Cursor) : Scan Unit :=
  modify fun scanner => { scanner with cursor }

def allowKey (allowed : Bool) : Scan Unit :=
  modify fun scanner => { scanner with keyAllowed := allowed }

def keyLimit : Nat := 1024

def isStale (cursor : Cursor) (key : PossibleKey) : Bool :=
  key.line ≠ cursor.line || keyLimit < cursor.offset - key.offset

/-- Gives up the keys that are on another line or too long. -/
def dropStaleKeys : Scan Unit := do
  let scanner ← get
  let (stale, fresh) := scanner.keys.partition fun (_, key) => isStale scanner.cursor key
  if stale.any (·.2.required) then fail
  set { scanner with keys := fresh }

def dropKey : Scan Unit := do
  let scanner ← get
  let (here, others) := scanner.keys.partition (·.1 == scanner.flowLevel)
  if here.any (·.2.required) then fail
  set { scanner with keys := others }

/-- Remembers that the next token may be a key. -/
def saveKey : Scan Unit := do
  let scanner ← get
  if scanner.keyAllowed then
    dropKey
    let cursor := scanner.cursor
    let key : PossibleKey :=
      { token := scanner.tokens.size
        required := !scanner.inFlow && scanner.indent == cursor.column
        offset := cursor.offset
        line := cursor.line
        column := cursor.column }
    modify fun scanner => { scanner with keys := (scanner.flowLevel, key) :: scanner.keys }

def closeBlocks (column : Int) : Nat → Scanner → Scanner
  | 0, scanner => scanner
  | fuel + 1, scanner =>
      if column < scanner.indent then
        closeBlocks column fuel
          { scanner with
            indent := scanner.outerIndents.headD (-1)
            outerIndents := scanner.outerIndents.tail
            tokens := scanner.tokens.push .blockEnd }
      else scanner

def unwind (column : Int) : Scan Unit :=
  modify fun scanner =>
    if scanner.inFlow then scanner
    else closeBlocks column (scanner.outerIndents.length + 1) scanner

def openBlock (column : Nat) (place : Nat) (token : Token) : Scan Unit := do
  let scanner ← get
  if scanner.indent < column then
    set { scanner with outerIndents := scanner.indent :: scanner.outerIndents, indent := column }
    insert place token

def skipToToken : Nat → Cursor → Bool → Bool → Cursor × Bool
  | 0, cursor, _, broken => (cursor, broken)
  | fuel + 1, cursor, inFlow, broken =>
      let cursor := cursor.skipWhile (· = ' ')
      let cursor :=
        if cursor.peek = some '#' then cursor.skipWhile (!isBreak ·) else cursor
      match cursor.readBreak? with
      | some (_, cursor) => skipToToken fuel cursor inFlow (broken || !inFlow)
      | none => (cursor, broken)

/-- Skips blanks, comments and line breaks. A new line of a block may start with a
key. -/
def skipBlanks : Scan Unit := do
  let scanner ← get
  let start :=
    if scanner.cursor.offset = 0 && scanner.cursor.peek = some '\uFEFF' then scanner.cursor.forward
    else scanner.cursor
  let (cursor, broken) := skipToToken (start.rest.length + 1) start scanner.inFlow false
  set { scanner with cursor, keyAllowed := scanner.keyAllowed || broken }

def skip (count : Nat) : Scan Unit :=
  modify fun scanner => { scanner with cursor := scanner.cursor.advance count }

def documentMarker (token : Token) : Scan Unit := do
  unwind (-1)
  dropKey
  allowKey false
  skip 3
  emit token

def isNameChar (c : Char) : Bool :=
  c.isAlphanum || c = '-' || c = '_'

def readDirectiveNumber (digits : List Char) : Except Fault Nat :=
  if digits.isEmpty then .error .malformed
  else if Decimal.integerDigitLimit < digits.length then .error (.tooManyDigits digits.length)
  else .ok (Text.natOfDigits 10 digits)

def readVersion (cursor : Cursor) : Except Fault ((Nat × Nat) × Cursor) := do
  let cursor := cursor.skipWhile (· = ' ')
  let major := cursor.taken Char.isDigit
  let cursor := cursor.advance major.length
  let majorNumber ← readDirectiveNumber major
  if cursor.peek ≠ some '.' then throw .malformed
  let cursor := cursor.forward
  let minor := cursor.taken Char.isDigit
  let cursor := cursor.advance minor.length
  let minorNumber ← readDirectiveNumber minor
  if !(cursor.peek = some ' ' || isBreakOrEnd cursor.peek) then throw .malformed
  return ((majorNumber, minorNumber), cursor)

/-- Only blanks and a comment may follow a directive on its line. -/
def endDirective (cursor : Cursor) : Except Fault Cursor := do
  let cursor := cursor.skipWhile (· = ' ')
  let cursor := if cursor.peek = some '#' then cursor.skipWhile (!isBreak ·) else cursor
  if isBreakOrEnd cursor.peek then return (cursor.readBreak?.map (·.2)).getD cursor
  throw .malformed

def directive : Scan Unit := do
  unwind (-1)
  dropKey
  allowKey false
  let cursor := (← get).cursor.forward
  let name := cursor.taken isNameChar
  let cursor := cursor.advance name.length
  if name.isEmpty || !(cursor.peek = some ' ' || isBreakOrEnd cursor.peek) then fail
  if String.ofList name = "YAML" then
    let (version, cursor) ← readVersion cursor
    moveTo (← endDirective cursor)
    emit (.directive "YAML" (some version))
  else
    moveTo (← endDirective (cursor.skipWhile (!isBreak ·)))
    emit (.directive (String.ofList name) none)

def flowStart (token : Token) : Scan Unit := do
  saveKey
  modify fun scanner => { scanner with flowLevel := scanner.flowLevel + 1, keyAllowed := true }
  skip 1
  emit token

def flowEnd (token : Token) : Scan Unit := do
  dropKey
  modify fun scanner => { scanner with flowLevel := scanner.flowLevel - 1, keyAllowed := false }
  skip 1
  emit token

def flowEntry : Scan Unit := do
  allowKey true
  dropKey
  skip 1
  emit .flowEntry

/-- Where a block collection may start: at the beginning of a line, or behind
another indicator. -/
def blockIndicator (opening : Token) : Scan Unit := do
  let scanner ← get
  if !scanner.inFlow then
    if !scanner.keyAllowed then fail
    openBlock scanner.cursor.column scanner.tokens.size opening

def blockEntry : Scan Unit := do
  blockIndicator .blockSequenceStart
  allowKey true
  dropKey
  skip 1
  emit .blockEntry

def explicitKey : Scan Unit := do
  blockIndicator .blockMappingStart
  allowKey (!(← get).inFlow)
  dropKey
  skip 1
  emit .key

/-- A colon: what was a possible key becomes a key. -/
def mappingValue : Scan Unit := do
  let scanner ← get
  match scanner.keys.lookup scanner.flowLevel with
  | some key =>
      set { scanner with keys := scanner.keys.filter (·.1 != scanner.flowLevel) }
      insert key.token .key
      if !scanner.inFlow then openBlock key.column key.token .blockMappingStart
      allowKey false
  | none =>
      blockIndicator .blockMappingStart
      allowKey (!scanner.inFlow)
      dropKey
  skip 1
  emit .value

def quotedScalar (quote : Char) : Scan Unit := do
  saveKey
  allowKey false
  let cursor := (← get).cursor.forward
  let (text, cursor) ← quotedText quote (cursor.rest.length + 1) cursor
  moveTo cursor
  emit (.scalar (String.ofList text) false)

def plainScalar : Scan Unit := do
  saveKey
  let scanner ← get
  let (text, broken, cursor) :=
    plainText scanner.inFlow (scanner.indent + 1) (scanner.cursor.rest.length + 1) [] false
      scanner.cursor
  moveTo cursor
  allowKey broken
  emit (.scalar (String.ofList text) true)

def indicators : List Char :=
  "-?:,[]\x7b\x7d#&*!|>'\"%@\x60".toList

def startsPlain (inFlow : Bool) (c : Char) (next : Option Char) : Bool :=
  !(isSpaceOrEnd (some c) || indicators.contains c) ||
    (!isSpaceOrEnd next && (c = '-' || (!inFlow && (c = '?' || c = ':'))))

def next : Scan Bool := do
  skipBlanks
  dropStaleKeys
  unwind (← get).cursor.column
  let scanner ← get
  let cursor := scanner.cursor
  let follows := isSpaceOrEnd (cursor.peekAt 1)
  match cursor.peek with
  | none =>
      unwind (-1)
      dropKey
      return false
  | some c =>
      if c = '%' && cursor.column = 0 then directive
      else if cursor.column = 0 && isMarker cursor ['-', '-', '-'] then
        documentMarker .documentStart
      else if cursor.column = 0 && isMarker cursor ['.', '.', '.'] then
        documentMarker .documentEnd
      else if c = '[' then flowStart .flowSequenceStart
      else if c = '\x7b' then flowStart .flowMappingStart
      else if c = ']' then flowEnd .flowSequenceEnd
      else if c = '\x7d' then flowEnd .flowMappingEnd
      else if c = ',' then flowEntry
      else if c = '-' && follows then blockEntry
      else if c = '?' && (scanner.inFlow || follows) then explicitKey
      else if c = ':' && (scanner.inFlow || follows) then mappingValue
      else if c = '\'' || c = '"' then quotedScalar c
      else if startsPlain scanner.inFlow c (cursor.peekAt 1) then plainScalar
      else fail
      return true

/-- Makes the next token, unless the obstacle behind the text is met before it is
complete. -/
def step (obstacle : Option Fault) : Scan Bool := do
  let more ← next
  if (← get).cursor.rest.isEmpty then
    if let some fault := obstacle then throw fault
  if more then dropStaleKeys
  return more

/-- The tokens that are made one by one, and the fault that ended this, if one did. -/
def all (obstacle : Option Fault) : Nat → Scanner → List Token × Option Fault
  | 0, scanner => (scanner.tokens.toList, none)
  | fuel + 1, scanner =>
      match (step obstacle).run scanner with
      | .ok (true, scanner) => all obstacle fuel scanner
      | .ok (false, scanner) => (scanner.tokens.toList, none)
      | .error .unfinished => (scanner.settled, some (obstacle.getD .unfinished))
      | .error fault => (scanner.settled, some fault)

end Scan

def Token.scan (source : Source) : List Token × Option Fault :=
  Scan.all source.obstacle (source.text.length + 1) { cursor := { rest := source.text } }

end GantryCode.Yaml
