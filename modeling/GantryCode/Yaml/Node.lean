import GantryCode.Yaml.Token

namespace GantryCode.Yaml

/-! The tree that the tokens of a YAML document make. -/

inductive Node where
  | scalar (text : String) (plain : Bool)
  | sequence (items : List Node)
  | mapping (entries : List (Node × Node))
deriving Inhabited

namespace Node

def empty : Node :=
  .scalar "" true

/-- Refuses tokens for the first of them, or for their end. -/
def refuse {α : Type} (tokens : List Token) : Except Fault α :=
  .error (if tokens.isEmpty then .unfinished else .malformed)

/-- Whether no node stands in front of one of these tokens. -/
def endsBefore (tokens : List Token) (ends : List Token) : Bool :=
  tokens.head?.any ends.contains

mutual

/-- A node of a block. A sequence that is the value of a mapping need not be
indented. -/
def readBlock : Nat → Bool → List Token → Except Fault (Node × List Token)
  | 0, _, _ => .error .unfinished
  | fuel + 1, inMapping, tokens =>
      match tokens with
      | .blockSequenceStart :: rest => readBlockItems fuel [] rest
      | .blockMappingStart :: rest => readBlockEntries fuel [] rest
      | .blockEntry :: _ => if inMapping then readPlainItems fuel [] tokens else refuse tokens
      | _ => readFlow fuel tokens

def readFlow : Nat → List Token → Except Fault (Node × List Token)
  | 0, _ => .error .unfinished
  | fuel + 1, tokens =>
      match tokens with
      | .scalar text plain :: rest => .ok (.scalar text plain, rest)
      | .flowSequenceStart :: rest => readFlowItems fuel true [] rest
      | .flowMappingStart :: rest => readFlowEntries fuel true [] rest
      | _ => refuse tokens

/-- A node of a block, or the empty one in front of a token that ends it. -/
def readBlockOrEmpty : Nat → Bool → List Token → List Token → Except Fault (Node × List Token)
  | 0, _, _, _ => .error .unfinished
  | fuel + 1, inMapping, ends, tokens =>
      if endsBefore tokens ends then .ok (empty, tokens) else readBlock fuel inMapping tokens

def readFlowOrEmpty : Nat → List Token → List Token → Except Fault (Node × List Token)
  | 0, _, _ => .error .unfinished
  | fuel + 1, ends, tokens =>
      if endsBefore tokens ends then .ok (empty, tokens) else readFlow fuel tokens

def readBlockItems : Nat → List Node → List Token → Except Fault (Node × List Token)
  | 0, _, _ => .error .unfinished
  | fuel + 1, seen, tokens =>
      match tokens with
      | .blockEntry :: rest => do
          let (item, rest) ← readBlockOrEmpty fuel false [.blockEntry, .blockEnd] rest
          readBlockItems fuel (item :: seen) rest
      | .blockEnd :: rest => .ok (.sequence seen.reverse, rest)
      | _ => refuse tokens

/-- The items of a sequence that is not indented. Whatever is no item ends it. -/
def readPlainItems : Nat → List Node → List Token → Except Fault (Node × List Token)
  | 0, _, _ => .error .unfinished
  | fuel + 1, seen, tokens =>
      match tokens with
      | .blockEntry :: rest => do
          let (item, rest) ← readBlockOrEmpty fuel false [.blockEntry, .key, .value, .blockEnd] rest
          readPlainItems fuel (item :: seen) rest
      | rest => .ok (.sequence seen.reverse, rest)

def readBlockEntries : Nat → List (Node × Node) → List Token → Except Fault (Node × List Token)
  | 0, _, _ => .error .unfinished
  | fuel + 1, seen, tokens =>
      match tokens with
      | .blockEnd :: rest => .ok (.mapping seen.reverse, rest)
      | .key :: rest => do
          let (key, rest) ← readBlockOrEmpty fuel true [.key, .value, .blockEnd] rest
          let (value, rest) ← readBlockValue fuel rest
          readBlockEntries fuel ((key, value) :: seen) rest
      | _ => refuse tokens

def readBlockValue : Nat → List Token → Except Fault (Node × List Token)
  | 0, _ => .error .unfinished
  | fuel + 1, tokens =>
      match tokens with
      | .value :: rest => readBlockOrEmpty fuel true [.key, .value, .blockEnd] rest
      | _ => .ok (empty, tokens)

def readFlowValue : Nat → Token → List Token → Except Fault (Node × List Token)
  | 0, _, _ => .error .unfinished
  | fuel + 1, closing, tokens =>
      match tokens with
      | .value :: rest => readFlowOrEmpty fuel [.flowEntry, closing] rest
      | _ => .ok (empty, tokens)

/-- The items of a flow sequence. A key among them makes a mapping of one entry. -/
def readFlowItems : Nat → Bool → List Node → List Token → Except Fault (Node × List Token)
  | 0, _, _, _ => .error .unfinished
  | fuel + 1, first, seen, tokens =>
      match first, tokens with
      | _, .flowSequenceEnd :: rest => .ok (.sequence seen.reverse, rest)
      | false, .flowEntry :: .flowSequenceEnd :: rest => .ok (.sequence seen.reverse, rest)
      | false, .flowEntry :: rest => do
          let (item, rest) ← readFlowItem fuel rest
          readFlowItems fuel false (item :: seen) rest
      | false, _ => refuse tokens
      | true, _ => do
          let (item, rest) ← readFlowItem fuel tokens
          readFlowItems fuel false (item :: seen) rest

def readFlowItem : Nat → List Token → Except Fault (Node × List Token)
  | 0, _ => .error .unfinished
  | fuel + 1, tokens =>
      match tokens with
      | .key :: rest => do
          let (key, rest) ← readFlowOrEmpty fuel [.value, .flowEntry, .flowSequenceEnd] rest
          let (value, rest) ← readFlowValue fuel .flowSequenceEnd rest
          .ok (.mapping [(key, value)], rest)
      | _ => readFlow fuel tokens

def readFlowEntries : Nat → Bool → List (Node × Node) → List Token →
    Except Fault (Node × List Token)
  | 0, _, _, _ => .error .unfinished
  | fuel + 1, first, seen, tokens =>
      match first, tokens with
      | _, .flowMappingEnd :: rest => .ok (.mapping seen.reverse, rest)
      | false, .flowEntry :: .flowMappingEnd :: rest => .ok (.mapping seen.reverse, rest)
      | false, .flowEntry :: rest => do
          let (entry, rest) ← readFlowEntry fuel rest
          readFlowEntries fuel false (entry :: seen) rest
      | false, _ => refuse tokens
      | true, _ => do
          let (entry, rest) ← readFlowEntry fuel tokens
          readFlowEntries fuel false (entry :: seen) rest

/-- An entry of a flow mapping. A node that no colon follows is a key without a
value. -/
def readFlowEntry : Nat → List Token → Except Fault ((Node × Node) × List Token)
  | 0, _ => .error .unfinished
  | fuel + 1, tokens =>
      match tokens with
      | .key :: rest => do
          let (key, rest) ← readFlowOrEmpty fuel [.value, .flowEntry, .flowMappingEnd] rest
          let (value, rest) ← readFlowValue fuel .flowMappingEnd rest
          .ok ((key, value), rest)
      | _ => do
          let (key, rest) ← readFlow fuel tokens
          .ok ((key, empty), rest)

end

/-- The directives in front of a document: a version at most once, and only the
first. -/
def skipDirectives (versioned : Bool) : List Token → Except Fault (List Token)
  | .directive _ none :: rest => skipDirectives versioned rest
  | .directive _ (some (major, _)) :: rest =>
      if versioned || major ≠ 1 then .error .malformed else skipDirectives true rest
  | rest => .ok rest

def isDocumentEnd (token : Token) : Bool :=
  token == .documentEnd

def fuelFor (tokens : List Token) : Nat :=
  4 * tokens.length + 8

def readContent (tokens : List Token) : Except Fault (Node × List Token) :=
  match tokens with
  | [] | .directive .. :: _ | .documentStart :: _ | .documentEnd :: _ => .ok (empty, tokens)
  | _ => readBlock (fuelFor tokens) false tokens

/-- Checks that no document follows. Directives that lead to none are taken for the
start of one. -/
def checkEnd (tokens : List Token) : Except Fault Unit :=
  match tokens.dropWhile isDocumentEnd with
  | [] => .ok ()
  | rest => do
      let others ← skipDirectives false rest
      refuse others

def ofTokens (tokens : List Token) : Except Fault (Option Node) := do
  match tokens with
  | [] => .ok none
  | .directive .. :: _ | .documentStart :: _ =>
      match ← skipDirectives false tokens with
      | .documentStart :: rest => do
          let (node, rest) ← readContent rest
          checkEnd rest
          .ok (some node)
      | rest => refuse rest
  | _ => do
      let (node, rest) ← readBlock (fuelFor tokens) false tokens
      checkEnd rest
      .ok (some node)

end Node

end GantryCode.Yaml
