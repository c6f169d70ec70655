import GantryCode.Binary64
import GantryCode.Yaml.Node
import GantryCode.Yaml.Scalar

namespace GantryCode.Yaml

/-! The value of a YAML document.

A document is read level by level: what is wrong with an outer collection is found
before what is wrong with a collection inside it.

Keys are alike if they are equal as numbers or as texts; yes and no are the numbers
one and zero. Of entries with alike keys the first gives the place and the last the
value. A merge key stands for the entries of its mappings, which any entry of the
mapping itself overrides.
-/

/-- An integer that a value is equal to as a number. -/
def integerOf? : Value → Option Int
  | .bool flag => some (if flag then 1 else 0)
  | .int n => some n
  | .float x =>
      match Binary64.ceiling x, Binary64.ceiling (-x) with
      | .ok above, .ok below => if above = -below then some above else none
      | _, _ => none
  | _ => none

def alike (a b : Value) : Bool :=
  match a, b with
  | .null, .null => true
  | .text a, .text b => a == b
  | a, b =>
      match integerOf? a, integerOf? b, a, b with
      | some m, some n, _, _ => m == n
      | none, none, .float x, .float y => x == y
      | _, _, _, _ => false

abbrev Entries := List (Value × Value)

def Entries.set (key value : Value) : Entries → Entries
  | [] => [(key, value)]
  | (other, old) :: rest =>
      if alike other key then (other, value) :: rest else (other, old) :: Entries.set key value rest

def Entries.dedup (entries : Entries) : Entries :=
  entries.foldl (fun entries (key, value) => Entries.set key value entries) []

def Entries.named (entries : Entries) : List (String × Value) :=
  entries.dedup.foldl (fun fields (key, value) => setField key.message value fields) []

namespace Node

def isMergeKey : Node → Bool
  | .scalar text plain => plain && text == "<<"
  | _ => false

def entries? : Node → Option (List (Node × Node))
  | .mapping entries => some entries
  | _ => none

/-- The entries that the value of a merge key stands for: those of a mapping, or of
several, the first of them last. -/
def mergedEntries? : Node → Option (List (Node × Node))
  | .scalar .. => none
  | .mapping entries => some entries
  | .sequence items => (items.mapM entries?).map (·.reverse.flatten)

mutual

/-- The node with the entries that merge keys stand for, in front of the other entries
of their mappings, in place of the keys. A merge key that stands for nothing is
kept. -/
def merged : Node → Node
  | .scalar text plain => .scalar text plain
  | .sequence items => .sequence (mergedItems items)
  | .mapping entries =>
      let (lent, own) := mergedEntries entries
      .mapping (lent ++ own)

def mergedItems : List Node → List Node
  | [] => []
  | item :: rest => item.merged :: mergedItems rest

def mergedEntries : List (Node × Node) → List (Node × Node) × List (Node × Node)
  | [] => ([], [])
  | (key, value) :: rest =>
      let value := value.merged
      let (lent, own) := mergedEntries rest
      match key.isMergeKey, mergedEntries? value with
      | true, some first => (first ++ lent, own)
      | _, _ => (lent, (key, value) :: own)

end

/-- A key; an equals sign stands for itself there. -/
def readKey : Node → Except Fault Value
  | .scalar text plain =>
      if plain && text != "=" then Plain.read text else .ok (.text text)
  | _ => .error .malformed

def readScalar (text : String) (plain : Bool) : Except Fault Value :=
  if plain then Plain.read text else .ok (.text text)

def collections : List Node → Except Fault (List Node)
  | [] => .ok []
  | .scalar text plain :: rest => do
      discard (readScalar text plain)
      collections rest
  | node :: rest => do .ok (node :: (← collections rest))

/-- The collections among the values of entries, once the keys and the scalars among
the values have been read. -/
def entryCollections : List (Node × Node) → Except Fault (List Node)
  | [] => .ok []
  | (key, value) :: rest => do
      discard (readKey key)
      let first ← collections [value]
      .ok (first ++ (← entryCollections rest))

def inner : Node → Except Fault (List Node)
  | .scalar text plain => collections [.scalar text plain]
  | .sequence items => collections items
  | .mapping entries =>
      if entries.any (·.1.isMergeKey) then .error .malformed else entryCollections entries

/-- Reads nodes that are on a level, then those a level further in, and so on. -/
def checkLevels : Nat → List Node → Except Fault Unit
  | 0, _ => .ok ()
  | depth + 1, level => do
      let next ← level.mapM inner
      if next.flatten.isEmpty then .ok () else checkLevels depth next.flatten

mutual

def toValue : Node → Except Fault Value
  | .scalar text plain => readScalar text plain
  | .sequence items => do .ok (.list (← valuesOf items))
  | .mapping entries => do .ok (.object (← entriesOf entries).named)

def valuesOf : List Node → Except Fault (List Value)
  | [] => .ok []
  | item :: rest => do
      let value ← item.toValue
      .ok (value :: (← valuesOf rest))

def entriesOf : List (Node × Node) → Except Fault Entries
  | [] => .ok []
  | (key, value) :: rest => do
      let key ← readKey key
      let value ← value.toValue
      .ok ((key, value) :: (← entriesOf rest))

end

end Node

/-- What a text holds: nothing, or the entries of a mapping, or something else. -/
inductive Content where
  | nothing
  | mapping (entries : Entries)
  | other

def Content.ofNode (node : Node) : Except Fault Content :=
  match node with
  | .mapping entries => do .ok (.mapping (← Node.entriesOf entries).dedup)
  | node => do
      match ← node.toValue with
      | .null => .ok .nothing
      | _ => .ok .other

/-- The content of the only document of a text. A fault of the tokens is met by whatever
needs a token that is not there because of it. -/
def Content.read (source : Source) : Except Fault Content := do
  let (tokens, broken) := Token.scan source
  match Node.ofTokens tokens, broken with
  | .error .malformed, _ => .error .malformed
  | _, some fault => .error fault
  | .error fault, none => .error fault
  | .ok none, none => .ok .nothing
  | .ok (some node), none => do
      let node := node.merged
      Node.checkLevels (tokens.length + 1) [node]
      Content.ofNode node

end GantryCode.Yaml
