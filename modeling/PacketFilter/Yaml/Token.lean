import PacketFilter.Yaml.Scalar

/-!
# YAML tokens

A text is cut into tokens in which indentation has become brackets: a block collection starts
where its first entry is further to the right than what surrounds it, and ends before a line that
is not. What stands before a colon is known to be a key only once the colon is reached, so the
place of a possible key is remembered and its token is put there later.

Read are block and flow collections, plain and quoted scalars, comments and document markers.
-/
namespace PacketFilter.Yaml

/-- A token. -/
inductive Token where
  /-- A marker that starts a document. -/
  | documentStart
  /-- A marker that ends a document. -/
  | documentEnd
  /-- The start of a block sequence. -/
  | blockSequence
  /-- The start of a block mapping. -/
  | blockMapping
  /-- The end of a block collection. -/
  | blockEnd
  /-- The start of a flow sequence. -/
  | flowSequence
  /-- The end of a flow sequence. -/
  | flowSequenceEnd
  /-- The start of a flow mapping. -/
  | flowMapping
  /-- The end of a flow mapping. -/
  | flowMappingEnd
  /-- A dash before an entry of a block sequence. -/
  | entry
  /-- A comma between the entries of a flow collection. -/
  | comma
  /-- What follows is a key. -/
  | key
  /-- What follows is the value of a key. -/
  | value
  /-- A scalar, plain or quoted. -/
  | scalar (plain : Bool) (text : String)
  deriving DecidableEq, Repr

/-- A place at which a key may turn out to start. -/
structure PossibleKey where
  /-- The number of tokens before it. -/
  position : Nat
  /-- Its place in the text. -/
  index : Nat
  /-- Its line. -/
  line : Nat
  /-- Its column. -/
  column : Nat
  /-- Whether nothing but a key may start there. -/
  required : Bool

/-- The greatest number of characters between the start of a key and its colon. -/
def keyReach : Nat := 1024

/-- What is known while a text is cut into tokens. -/
structure Scan where
  /-- The place in the text. -/
  cursor : Cursor
  /-- The tokens so far, last to first. -/
  reversed : List Token
  /-- Their number. -/
  count : Nat
  /-- The columns of the open block collections, innermost first. -/
  indents : List Nat
  /-- The possible key of each open flow collection, innermost first, and last that of the block
  around them. -/
  keys : List (Option PossibleKey)
  /-- Whether a key may start here. -/
  keyAllowed : Bool

namespace Scan

/-- The start of a text. -/
def start (text : List Char) : Scan where
  cursor := .start text
  reversed := []
  count := 0
  indents := []
  keys := [none]
  keyAllowed := true

/-- Whether a flow collection is open. -/
def inFlow (scan : Scan) : Bool := 1 < scan.keys.length

/-- One more token. -/
def push (scan : Scan) (token : Token) : Scan :=
  { scan with reversed := token :: scan.reversed, count := scan.count + 1 }

/-- A token put where a number of tokens is before it. -/
def insertAt (scan : Scan) (position : Nat) (token : Token) : Scan :=
  { scan with
    reversed := scan.reversed.insertIdx (scan.count - position) token
    count := scan.count + 1 }

/-- One more token, after which the text goes on at a distance. -/
def take (scan : Scan) (width : Nat) (token : Token) : Scan :=
  { scan.push token with cursor := scan.cursor.forward width }

/-- Allow or forbid a key here. -/
def allowKey (scan : Scan) (allowed : Bool) : Scan := { scan with keyAllowed := allowed }

/-- The column from which text belongs to the innermost block collection, counted from one; zero
where none is open. -/
def indentLevel (scan : Scan) : Nat := (scan.indents.head?.map (· + 1)).getD 0

/-- Pass over space, comments and breaks. A new line of a block allows a key, and until then a
block has no tabs between tokens. -/
def skipGaps : Nat → Scan → Scan
  | 0, scan => scan
  | fuel + 1, scan =>
    let marked := scan.cursor.column = 0 && scan.cursor.at? 0 '\ufeff'
    let cursor := if marked then scan.cursor.forward 1 else scan.cursor
    let tabs := scan.inFlow || !scan.keyAllowed
    let cursor := cursor.skipWhile fun char => char = ' ' || (tabs && char = '\t')
    let cursor := if cursor.at? 0 '#' then cursor.skipWhile (!isBreak ·) else cursor
    if (cursor.peek? 0).any isBreak then
      skipGaps fuel
        { scan with cursor := cursor.nextLine, keyAllowed := !scan.inFlow || scan.keyAllowed }
    else { scan with cursor }

/-- Whether a possible key is out of reach from here. -/
def isStale (scan : Scan) (key : PossibleKey) : Bool :=
  key.line < scan.cursor.line || key.index + keyReach < scan.cursor.index

/-- Forget the possible keys that are out of reach; a required one must not be. -/
def dropStaleKeys (scan : Scan) : Option Scan :=
  if scan.keys.any fun key => key.any fun key => scan.isStale key && key.required then none
  else some { scan with keys := scan.keys.map fun key => key.filter (!scan.isStale ·) }

/-- Forget the innermost possible key; a required one must not be forgotten. -/
def removeKey (scan : Scan) : Option Scan :=
  match scan.keys with
  | some key :: keys => if key.required then none else some { scan with keys := none :: keys }
  | _ => some scan

/-- Remember that a key may start here, if one may. -/
def saveKey (scan : Scan) : Option Scan :=
  if scan.keyAllowed then do
    let scan ← scan.removeKey
    let key : PossibleKey :=
      { position := scan.count
        index := scan.cursor.index
        line := scan.cursor.line
        column := scan.cursor.column
        required := !scan.inFlow && scan.indents.head? == some scan.cursor.column }
    some { scan with keys := some key :: scan.keys.drop 1 }
  else some scan

/-- Start a block collection at a column to the right of the innermost one. Its token goes where a
number of tokens is before it. -/
def indent (scan : Scan) (column position : Nat) (token : Token) : Scan :=
  if !scan.inFlow && scan.indentLevel ≤ column then
    { scan.insertAt position token with indents := column :: scan.indents }
  else scan

/-- End the block collections for which a condition on their columns holds, innermost first. -/
def closeBlocks (ends : Nat → Bool) (scan : Scan) : Scan :=
  if scan.inFlow then scan
  else
    let ended := scan.indents.takeWhile ends
    { ended.foldl (fun scan _ => scan.push .blockEnd) scan with
      indents := scan.indents.dropWhile ends }

/-- A marker that starts or ends a document. -/
def documentMarker (scan : Scan) (token : Token) : Option Scan := do
  let scan ← (scan.closeBlocks fun _ => true).removeKey
  some ((scan.allowKey false).take 3 token)

/-- The start of a flow collection. -/
def openFlow (scan : Scan) (token : Token) : Option Scan := do
  let scan ← scan.saveKey
  some (({ scan with keys := none :: scan.keys }.allowKey true).take 1 token)

/-- The end of a flow collection. -/
def closeFlow (scan : Scan) (token : Token) : Option Scan := do
  let scan ← scan.removeKey
  let keys := if scan.inFlow then scan.keys.drop 1 else scan.keys
  some (({ scan with keys }.allowKey false).take 1 token)

/-- A comma of a flow collection. -/
def comma (scan : Scan) : Option Scan := do
  let scan ← scan.removeKey
  some ((scan.allowKey true).take 1 .comma)

/-- A dash before an entry. -/
def entry (scan : Scan) : Option Scan := do
  if !scan.inFlow && !scan.keyAllowed then none
  else
    let scan := scan.indent scan.cursor.column scan.count .blockSequence
    let scan ← scan.removeKey
    some ((scan.allowKey true).take 1 .entry)

/-- A question mark before a key. -/
def explicitKey (scan : Scan) : Option Scan := do
  if !scan.inFlow && !scan.keyAllowed then none
  else
    let scan := scan.indent scan.cursor.column scan.count .blockMapping
    let scan ← scan.removeKey
    some ((scan.allowKey !scan.inFlow).take 1 .key)

/-- A colon before a value. -/
def value (scan : Scan) : Option Scan :=
  match scan.keys with
  | some key :: keys =>
    let scan := scan.insertAt key.position .key
    let scan := scan.indent key.column key.position .blockMapping
    some (({ scan with keys := none :: keys }.allowKey false).take 1 .value)
  | _ =>
    if scan.inFlow then some ((scan.allowKey false).take 1 .value)
    else if scan.keyAllowed then
      let scan := scan.indent scan.cursor.column scan.count .blockMapping
      some ((scan.allowKey true).take 1 .value)
    else none

/-- A quoted scalar. -/
def quoted (scan : Scan) (quote : Char) : Option Scan := do
  let scan ← scan.saveKey
  let opened := scan.cursor.forward 1
  let (cursor, text) ← readQuoted quote (opened.rest.length + 1) opened
  some { (scan.allowKey false).push (.scalar false (String.ofList text)) with cursor }

/-- A plain scalar; after one that ends on a later line a key may start. -/
def plain (scan : Scan) : Option Scan := do
  let scan ← scan.saveKey
  let fuel := scan.cursor.rest.length + 1
  let (cursor, later, text) ← readPlain scan.inFlow scan.indentLevel fuel scan.cursor .none
  some { (scan.allowKey later).push (.scalar true (String.ofList text)) with cursor }

/-- The characters that start no plain scalar. -/
def indicators : List Char :=
  ['-', '?', ':', ',', '[', ']', '\x7b', '\x7d', '#', '&', '*', '!', '|', '>', '\'', '"', '%', '@',
    '\u0060']

/-- Whether a plain scalar starts here. -/
def startsPlain (scan : Scan) : Bool :=
  match scan.cursor.peek? 0 with
  | none => false
  | some char =>
    !(isGap char || indicators.contains char) ||
      (char = '-' && !(scan.cursor.peek? 1).any isGap) ||
      (!scan.inFlow && (char = '?' || char = ':') && !scan.cursor.spaceAt 1)

/-- The next token, where the text goes on with one. -/
def next (scan : Scan) : Option Scan :=
  let cursor := scan.cursor
  if cursor.marker '-' then scan.documentMarker .documentStart
  else if cursor.marker '.' then scan.documentMarker .documentEnd
  else if cursor.at? 0 '[' then scan.openFlow .flowSequence
  else if cursor.at? 0 '\x7b' then scan.openFlow .flowMapping
  else if cursor.at? 0 ']' then scan.closeFlow .flowSequenceEnd
  else if cursor.at? 0 '\x7d' then scan.closeFlow .flowMappingEnd
  else if cursor.at? 0 ',' then scan.comma
  else if cursor.at? 0 '-' && cursor.spaceAt 1 then scan.entry
  else if cursor.at? 0 '?' && (scan.inFlow || cursor.spaceAt 1) then scan.explicitKey
  else if cursor.at? 0 ':' && (scan.inFlow || cursor.spaceAt 1) then scan.value
  else if cursor.at? 0 '\'' then scan.quoted '\''
  else if cursor.at? 0 '"' then scan.quoted '"'
  else if scan.startsPlain then scan.plain
  else none

/-- All tokens of a text from here on. -/
def toEnd : Nat → Scan → Option (List Token)
  | 0, _ => none
  | fuel + 1, scan => do
    let scan := scan.skipGaps (scan.cursor.rest.length + 1)
    let scan ← scan.dropStaleKeys
    let scan := scan.closeBlocks (scan.cursor.column < ·)
    if scan.cursor.rest.isEmpty then
      let scan ← (scan.closeBlocks fun _ => true).removeKey
      some scan.reversed.reverse
    else toEnd fuel (← scan.next)

end Scan

/-- The tokens of a text, if it can be cut into tokens. Each takes at least one character. -/
def tokens? (text : String) : Option (List Token) :=
  let chars := text.toList
  if chars.all isAllowed then (Scan.start chars).toEnd (chars.length + 1) else none

end PacketFilter.Yaml
