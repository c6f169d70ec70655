import GantryCode.Text.Lines
import GantryCode.Yaml.Fault

namespace GantryCode.Yaml

/-! The text of a YAML file as it comes in.

The text is taken from the file in portions: the first two before anything else, and
each of the others when its first character is needed. A portion that is no text, or
holds a character that YAML does not allow, therefore does not matter if something in
front of it is wrong.
-/

structure Reader where
  bytes : List UInt8
  /-- What may be the start of a character whose other bytes are still to come. -/
  left : List UInt8 := []
  /-- Whether a carriage return is held back, since a newline after it belongs to
  it. -/
  holdsReturn : Bool := false
  ready : List Char := []
  /-- Bytes for a character in the last block. -/
  width : Float := 0

namespace Reader

def blockSize (reader : Reader) (wanted : Nat) : Nat :=
  let width := if 1 < reader.width then reader.width else 1
  max Text.Utf8.blockSize (width * Float.ofNat wanted).toUInt64.toNat

def receive (reader : Reader) (size : Nat) (text : List Char) : Reader :=
  let text := if reader.holdsReturn && !text.isEmpty then '\r' :: text else text
  let holdsReturn := if text.isEmpty then reader.holdsReturn else text.getLast? = some '\r'
  let lines := Text.foldLineEnds (if holdsReturn then text.dropLast else text)
  { reader with
    holdsReturn
    ready := reader.ready ++ lines
    width := if lines.isEmpty then 0 else Float.ofNat size / Float.ofNat lines.length }

def finish (reader : Reader) : Except Text.Utf8.Fault Reader :=
  match reader.left with
  | [] =>
      .ok { reader with
        holdsReturn := false
        ready := if reader.holdsReturn then reader.ready ++ ['\n'] else reader.ready }
  | first :: rest => .error (Text.Utf8.faultAtEnd first rest)

/-- Reads blocks until a number of characters is ready or no bytes are left. -/
def fill (wanted : Nat) : Nat → Reader → Except Text.Utf8.Fault Reader
  | 0, reader => reader.finish
  | fuel + 1, reader =>
      if wanted ≤ reader.ready.length then .ok reader
      else
        match reader.bytes with
        | [] => reader.finish
        | _ => do
            let size := reader.blockSize (wanted - reader.ready.length)
            let block := reader.bytes.take size
            let (text, left) ← Text.Utf8.decode (reader.left ++ block)
            let reader := { reader with bytes := reader.bytes.drop size, left }
            fill wanted fuel (reader.receive block.length text)

def portionSize : Nat := 4096

/-- The portions of a file, up to the first that is no text. -/
def portions : Nat → Reader → List (List Char) × Option Text.Utf8.Fault
  | 0, _ => ([], none)
  | fuel + 1, reader =>
      match reader.fill portionSize (reader.bytes.length + 1) with
      | .error fault => ([], some fault)
      | .ok reader =>
          let portion := reader.ready.take portionSize
          if portion.isEmpty then ([], none)
          else
            let rest := { reader with ready := reader.ready.drop portionSize }
            let (others, fault) := portions fuel rest
            (portion :: others, fault)

end Reader

def isAllowed (c : Char) : Bool :=
  c = '\t' || c = '\n' || c = '\r' || (' ' ≤ c && c ≤ '~') || c = '\x85' ||
    ('\xa0' ≤ c && c ≤ '\uFFFD') || 0x10000 ≤ c.toNat

/-- The text that can be read, and what is met behind it unless it ends there. -/
structure Source where
  text : List Char
  obstacle : Option Fault := none

/-- The first portions without characters that are not allowed. -/
def Source.ofPortions (fault : Option Text.Utf8.Fault) : List (List Char) → Source
  | [] => { text := [], obstacle := fault.map .undecodable }
  | portion :: rest =>
      if portion.all isAllowed then
        let source := ofPortions fault rest
        { source with text := portion ++ source.text }
      else { text := [], obstacle := some .malformed }

def Source.ofBytes (bytes : List UInt8) : Source :=
  match Reader.portions (bytes.length + 1) { bytes } with
  | (first :: second :: rest, fault) => ofPortions fault ((first ++ second) :: rest)
  | (_, some fault) => { text := [], obstacle := some (.undecodable fault) }
  | (portions, none) => ofPortions none portions

end GantryCode.Yaml
