import PacketFilter.Yaml.Token

/-!
# YAML nodes

The tokens of a document make one node: a scalar, a sequence or a mapping. Where a node is left
out, an empty plain scalar stands for it. A text holds at most one document.
-/
namespace PacketFilter.Yaml

/-- A node of a document. -/
inductive Node where
  /-- A scalar, plain or quoted. -/
  | scalar (plain : Bool) (text : String)
  /-- A list of nodes. -/
  | sequence (items : List Node)
  /-- Nodes under nodes, in order. -/
  | mapping (pairs : List (Node × Node))

namespace Node

/-- The node that stands for one that is left out. -/
def empty : Node := .scalar true ""

/-- Whether one of the given tokens comes next. -/
def comes (candidates : List Token) (tokens : List Token) : Bool :=
  tokens.head?.any candidates.contains

mutual

/-- A node at the start of the tokens, with the tokens after it. In a flow collection no block
collection starts; as the content of a mapping, entries may come without further indentation. -/
def read (inBlock inMapping : Bool) : Nat → List Token → Option (Node × List Token)
  | 0, _ => none
  | fuel + 1, tokens =>
    match tokens with
    | .scalar plain text :: rest => some (.scalar plain text, rest)
    | .flowSequence :: rest =>
      if comes [.flowSequenceEnd] rest then some (.sequence [], rest.drop 1)
      else (readFlowItems fuel rest).map fun (items, rest) => (.sequence items, rest)
    | .flowMapping :: rest =>
      if comes [.flowMappingEnd] rest then some (.mapping [], rest.drop 1)
      else (readFlowPairs fuel rest).map fun (pairs, rest) => (.mapping pairs, rest)
    | .blockSequence :: rest =>
      if inBlock then
        (readEntries fuel rest).map fun (items, rest) => (.sequence items, rest)
      else none
    | .blockMapping :: rest =>
      if inBlock then
        (readPairs fuel rest).map fun (pairs, rest) => (.mapping pairs, rest)
      else none
    | .entry :: _ =>
      if inMapping then
        (readLooseEntries fuel tokens).map fun (items, rest) => (.sequence items, rest)
      else none
    | _ => none

/-- A node, unless one of the tokens comes that show it to be left out. -/
def readUnless (ends : List Token) (inBlock inMapping : Bool) :
    Nat → List Token → Option (Node × List Token)
  | 0, _ => none
  | fuel + 1, tokens =>
    if comes ends tokens then some (.empty, tokens) else read inBlock inMapping fuel tokens

/-- The entries of an indented block sequence up to its end. -/
def readEntries : Nat → List Token → Option (List Node × List Token)
  | 0, _ => none
  | fuel + 1, .entry :: rest => do
    let (item, rest) ← readUnless [.entry, .blockEnd] true false fuel rest
    let (items, rest) ← readEntries fuel rest
    some (item :: items, rest)
  | _ + 1, .blockEnd :: rest => some ([], rest)
  | _ + 1, _ => none

/-- The entries of a block sequence that is not indented; whatever is no entry ends it. -/
def readLooseEntries : Nat → List Token → Option (List Node × List Token)
  | 0, _ => none
  | fuel + 1, .entry :: rest => do
    let (item, rest) ← readUnless [.entry, .key, .value, .blockEnd] true false fuel rest
    let (items, rest) ← readLooseEntries fuel rest
    some (item :: items, rest)
  | _ + 1, rest => some ([], rest)

/-- The pairs of a block mapping up to its end. -/
def readPairs : Nat → List Token → Option (List (Node × Node) × List Token)
  | 0, _ => none
  | fuel + 1, .key :: rest => do
    let ends := [.key, .value, .blockEnd]
    let (key, rest) ← readUnless ends true true fuel rest
    let (value, rest) ← readValue ends true fuel rest
    let (pairs, rest) ← readPairs fuel rest
    some ((key, value) :: pairs, rest)
  | _ + 1, .blockEnd :: rest => some ([], rest)
  | _ + 1, _ => none

/-- The value of a key, left out where no colon announces it. -/
def readValue (ends : List Token) (inBlock : Bool) : Nat → List Token → Option (Node × List Token)
  | 0, _ => none
  | fuel + 1, .value :: rest => readUnless ends inBlock inBlock fuel rest
  | _ + 1, rest => some (.empty, rest)

/-- The items of a flow sequence up to its end, at least one. A key makes an item of its own. -/
def readFlowItems : Nat → List Token → Option (List Node × List Token)
  | 0, _ => none
  | fuel + 1, tokens => do
    let (item, rest) ← readFlowItem fuel tokens
    match rest with
    | .flowSequenceEnd :: rest => some ([item], rest)
    | .comma :: .flowSequenceEnd :: rest => some ([item], rest)
    | .comma :: rest =>
      let (items, rest) ← readFlowItems fuel rest
      some (item :: items, rest)
    | _ => none

/-- One item of a flow sequence. After a mark for a key that is left out, the token that shows it
to be left out is passed over. -/
def readFlowItem : Nat → List Token → Option (Node × List Token)
  | 0, _ => none
  | fuel + 1, .key :: rest => do
    let (key, rest) ←
      if comes [.value, .comma, .flowSequenceEnd] rest then some (.empty, rest.drop 1)
      else read false false fuel rest
    let (value, rest) ← readValue [.comma, .flowSequenceEnd] false fuel rest
    some (.mapping [(key, value)], rest)
  | fuel + 1, tokens => read false false fuel tokens

/-- The pairs of a flow mapping up to its end, at least one. -/
def readFlowPairs : Nat → List Token → Option (List (Node × Node) × List Token)
  | 0, _ => none
  | fuel + 1, tokens => do
    let (pair, rest) ← readFlowPair fuel tokens
    match rest with
    | .flowMappingEnd :: rest => some ([pair], rest)
    | .comma :: .flowMappingEnd :: rest => some ([pair], rest)
    | .comma :: rest =>
      let (pairs, rest) ← readFlowPairs fuel rest
      some (pair :: pairs, rest)
    | _ => none

/-- One pair of a flow mapping; without a colon the value is left out. -/
def readFlowPair : Nat → List Token → Option ((Node × Node) × List Token)
  | 0, _ => none
  | fuel + 1, .key :: rest => do
    let ends := [.value, .comma, .flowMappingEnd]
    let (key, rest) ← readUnless ends false false fuel rest
    let (value, rest) ← readValue [.comma, .flowMappingEnd] false fuel rest
    some ((key, value), rest)
  | fuel + 1, tokens => (read false false fuel tokens).map fun (key, rest) => ((key, .empty), rest)

end

/-- The node of the only document that tokens make. Every step takes a token at the latest after
three more steps down. -/
def ofTokens? (tokens : List Token) : Option Node := do
  let fuel := 4 * tokens.length + 4
  let (node, rest) ←
    match tokens with
    | [] => some (.empty, [])
    | .documentStart :: rest =>
      if rest.isEmpty then some (.empty, [])
      else readUnless [.documentStart, .documentEnd] true false fuel rest
    | _ => read true false fuel tokens
  if rest.all (· == .documentEnd) then some node else none

/-- The node of a text that holds one document, or none at all. -/
def ofText? (text : String) : Option Node := tokens? text >>= ofTokens?

/-! ## Contents of nodes -/

/-- Whether the node is left out. -/
def isEmpty : Node → Bool
  | .scalar true text => text = ""
  | _ => false

/-- Whether the node says that there is no value, by being left out or by a word for it. -/
def isNull : Node → Bool
  | .scalar true text => ["", "~", "null", "Null", "NULL"].contains text
  | _ => false

/-- The text of a scalar. -/
def text? : Node → Option String
  | .scalar _ text => some text
  | _ => none

/-- The numeral after a base mark, if the text starts with the mark. -/
def basedNumeral? (mark : List Char) (base : Nat) (text : List Char) : Option Nat :=
  if mark.isPrefixOf text then Text.readNumeral? base (text.drop mark.length) else none

/-- Whether a text is a zero with further digits behind it, which is no number. -/
def isZeroLed (text : List Char) : Bool :=
  match text with
  | '0' :: digit :: digits => (digit :: digits).all fun char => '0' ≤ char && char ≤ '9'
  | _ => false

/-- The natural number that a text writes: decimal, or another base after its mark, and an
optional plus sign in front. -/
def natOfText? (text : List Char) : Option Nat :=
  let unsigned :=
    match text with
    | '+' :: rest => rest
    | _ => text
  basedNumeral? ['0', 'x'] 16 unsigned <|> basedNumeral? ['0', 'o'] 8 unsigned <|>
    basedNumeral? ['0', 'b'] 2 unsigned <|>
    if isZeroLed unsigned then none else Text.readNumeral? 10 unsigned

/-- The natural number of a plain scalar, if it fits in a machine word. -/
def nat? : Node → Option Nat
  | .scalar true text => (natOfText? text.toList).filter (· < Text.wordLimit)
  | _ => none

/-- The only value among the pairs of one key; no value where the key does not occur, and nothing
at all where it repeats. -/
def onlyValue? (pairs : List (String × Node)) (key : String) : Option (Option Node) :=
  match pairs.filter fun (other, _) => other = key with
  | [] => some none
  | [(_, value)] => some (some value)
  | _ => none

/-- The values of a record's fields. A record that is left out has none of them; keys that it does
not have are passed over, but every key must be a scalar. -/
def record? (names : List String) (node : Node) : Option (List (Option Node)) :=
  match node with
  | .mapping pairs => do
    let pairs ← pairs.mapM fun (key, value) => key.text?.map (·, value)
    names.mapM (onlyValue? pairs)
  | _ => if node.isEmpty then some (names.map fun _ => none) else none

end Node

end PacketFilter.Yaml
