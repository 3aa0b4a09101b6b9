import PacketFilter.Text

/-!
# YAML scalars

A scalar is read from a place in a text on, and leads to the place behind it.
-/
namespace PacketFilter.Yaml

/-! ## A place in a YAML text

The place knows the text from here on and how far it is from the start of the text and of its
line, because indentation and the reach of a key are measured in characters. -/

/-- Whether a character may occur in a YAML text at all. -/
def isAllowed (char : Char) : Bool :=
  let code := char.toNat
  code = 0x09 || code = 0x0A || code = 0x0D || (0x20 ≤ code && code ≤ 0x7E) || code = 0x85 ||
    (0xA0 ≤ code && code ≤ 0xD7FF) || (0xE000 ≤ code && code ≤ 0xFFFD) || 0x10000 ≤ code

/-- Whether a character breaks a line. -/
def isBreak (char : Char) : Bool :=
  char = '\n' || char = '\r' || char = '\x85' || char = '\u2028' || char = '\u2029'

/-- Whether a character is a space or a tab. -/
def isGap (char : Char) : Bool := char = ' ' || char = '\t'

/-- Whether a character separates tokens. -/
def isSpace (char : Char) : Bool := isGap char || isBreak char

/-- A line break as it counts inside a scalar. -/
def breakValue (char : Char) : Char :=
  if char = '\u2028' || char = '\u2029' then char else '\n'

/-- A place in a text. -/
structure Cursor where
  /-- The text from here on. -/
  rest : List Char
  /-- The number of characters before here in the text. -/
  index : Nat
  /-- The number of lines before this one. -/
  line : Nat
  /-- The number of characters before here in the line. -/
  column : Nat

namespace Cursor

/-- The start of a text. -/
def start (text : List Char) : Cursor := ⟨text, 0, 0, 0⟩

/-- The place after a number of characters of the same line. -/
def forward (cursor : Cursor) (count : Nat) : Cursor :=
  { cursor with
    rest := cursor.rest.drop count
    index := cursor.index + count
    column := cursor.column + count }

/-- The place after a line break, of which a carriage return and a line feed are one. -/
def nextLine (cursor : Cursor) : Cursor :=
  let width :=
    match cursor.rest with
    | '\r' :: '\n' :: _ => 2
    | _ => 1
  { rest := cursor.rest.drop width, index := cursor.index + width, line := cursor.line + 1,
    column := 0 }

/-- The place after the characters here for which a condition holds, none of them a break. -/
def skipWhile (cursor : Cursor) (condition : Char → Bool) : Cursor :=
  cursor.forward (cursor.rest.takeWhile condition).length

/-- The character at a distance, if the text reaches that far. -/
def peek? (cursor : Cursor) (distance : Nat) : Option Char := cursor.rest[distance]?

/-- Whether the character at a distance separates tokens, or the text ends before it. -/
def spaceAt (cursor : Cursor) (distance : Nat) : Bool := (cursor.peek? distance).all isSpace

/-- Whether the character at a distance is a given one. -/
def at? (cursor : Cursor) (distance : Nat) (char : Char) : Bool :=
  cursor.peek? distance == some char

/-- Whether a line starts here with three given characters that stand alone. -/
def marker (cursor : Cursor) (char : Char) : Bool :=
  cursor.column = 0 && cursor.at? 0 char && cursor.at? 1 char && cursor.at? 2 char &&
    cursor.spaceAt 3

/-- Whether a document starts or ends here. -/
def documentMarker (cursor : Cursor) : Bool := cursor.marker '-' || cursor.marker '.'

end Cursor

/-! ## YAML scalars

A scalar runs over lines by folding: a single line break counts as a space, and of several the
first does not count. Plain scalars end where the text starts to mean something else; quoted ones
end at their closing quote. -/

/-- What stands between two words of a scalar. -/
inductive Gap where
  /-- Spaces and tabs on one line. -/
  | within (spaces : List Char)
  /-- A line break, unless it is escaped, and the breaks after it. -/
  | across (first : Option Char) (more : List Char)

namespace Gap

/-- No gap. -/
def none : Gap := .within []

/-- Whether the gap reaches over a line break. -/
def isAcross : Gap → Bool
  | within _ => false
  | across _ _ => true

/-- What the gap contributes to the scalar. -/
def folded : Gap → List Char
  | within spaces => spaces
  | across Option.none more => more
  | across (some first) more =>
    if first = '\n' then if more.isEmpty then [' '] else more else first :: more

end Gap

/-- Take in the spaces, tabs and breaks here. In a plain scalar a tab must not stand for
indentation, that is, before the column at which the scalar may go on. -/
def readGap (tabLimit : Nat) : Nat → Cursor → Gap → Option (Cursor × Gap)
  | 0, _, _ => none
  | fuel + 1, cursor, gap =>
    match cursor.peek? 0 with
    | Option.none => some (cursor, gap)
    | some char =>
      if isGap char then
        match gap with
        | .within spaces => readGap tabLimit fuel (cursor.forward 1) (.within (spaces ++ [char]))
        | .across _ _ =>
          if char = '\t' && cursor.column < tabLimit then none
          else readGap tabLimit fuel (cursor.forward 1) gap
      else if isBreak char then
        match gap with
        | .within _ => readGap tabLimit fuel cursor.nextLine (.across (some (breakValue char)) [])
        | .across first more =>
          readGap tabLimit fuel cursor.nextLine (.across first (more ++ [breakValue char]))
      else some (cursor, gap)

/-! ### Plain scalars -/

/-- The characters that structure flow collections. -/
def isFlowMark (char : Char) : Bool :=
  char = ',' || char = '[' || char = ']' || char = '\x7b' || char = '\x7d'

/-- Whether a plain scalar ends before the character here. -/
def endsPlain (inFlow : Bool) (cursor : Cursor) : Bool :=
  match cursor.peek? 0 with
  | none => true
  | some char =>
    isSpace char || (char = ':' && cursor.spaceAt 1) || (inFlow && isFlowMark char)

/-- Whether a colon here may not stand in a plain scalar of a flow collection. -/
def strayColon (inFlow : Bool) (cursor : Cursor) : Bool :=
  inFlow && cursor.at? 0 ':' && (cursor.peek? 1).any fun next => isFlowMark next || next = '?'

/-- The characters of a plain scalar up to a gap or its end. -/
def readPlainRun (inFlow : Bool) : Nat → Cursor → Option (Cursor × List Char)
  | 0, _ => none
  | fuel + 1, cursor =>
    if strayColon inFlow cursor then none
    else if endsPlain inFlow cursor then some (cursor, [])
    else
      match cursor.rest with
      | [] => some (cursor, [])
      | char :: _ =>
        (readPlainRun inFlow fuel (cursor.forward 1)).map fun (cursor, run) =>
          (cursor, char :: run)

/-- A plain scalar from its first character or from a gap on, with the place after it and whether
that place is on a later line than the last word. -/
def readPlain (inFlow : Bool) (indent : Nat) : Nat → Cursor → Gap →
    Option (Cursor × Bool × List Char)
  | 0, _, _ => none
  | fuel + 1, cursor, gap =>
    if cursor.documentMarker || cursor.at? 0 '#' then some (cursor, gap.isAcross, [])
    else do
      let (afterRun, run) ← readPlainRun inFlow (cursor.rest.length + 1) cursor
      let words := if run.isEmpty then [] else gap.folded ++ run
      let left := if run.isEmpty then gap else .none
      if (afterRun.peek? 0).any isSpace then
        let (next, gap) ← readGap indent (afterRun.rest.length + 1) afterRun left
        if !inFlow && next.column < indent then some (next, gap.isAcross, words)
        else
          let (last, later, more) ← readPlain inFlow indent fuel next gap
          some (last, later, words ++ more)
      else some (afterRun, left.isAcross, words)

/-! ### Quoted scalars -/

/-- The character that a letter after a backslash stands for. -/
def simpleEscape? (letter : Char) : Option Char :=
  [('0', '\x00'), ('a', '\x07'), ('b', '\x08'), ('t', '\t'), ('\t', '\t'), ('n', '\n'),
    ('v', '\x0b'), ('f', '\x0c'), ('r', '\r'), ('e', '\x1b'), (' ', ' '), ('"', '"'), ('/', '/'),
    ('\\', '\\'), ('N', '\x85'), ('_', '\xa0'), ('L', '\u2028'), ('P', '\u2029')].lookup letter

/-- The number of hexadecimal digits that a letter after a backslash announces. -/
def escapeWidth? (letter : Char) : Option Nat := [('x', 2), ('u', 4), ('U', 8)].lookup letter

/-- The character of a code point that has one. -/
def charOfCode? (code : Nat) : Option Char :=
  if (0xD800 ≤ code && code ≤ 0xDFFF) || 0x10FFFF < code then none else some (Char.ofNat code)

/-- The character that an escape writes, with the place after the escape. -/
def readEscape (cursor : Cursor) : Option (Cursor × Char) := do
  let letter ← cursor.peek? 1
  match simpleEscape? letter with
  | some char => some (cursor.forward 2, char)
  | none =>
    let width ← escapeWidth? letter
    let digits := (cursor.rest.drop 2).take width
    if digits.length < width then none
    else
      let char ← Text.readNumeral? 16 digits >>= charOfCode?
      some (cursor.forward (2 + width), char)

/-- The characters of a quoted scalar up to a gap or its closing quote; the flag tells whether an
escaped line break ends them. -/
def readQuotedRun (quote : Char) : Nat → Cursor → Option (Cursor × Bool × List Char)
  | 0, _ => none
  | fuel + 1, cursor =>
    let one (next : Cursor) (char : Char) : Option (Cursor × Bool × List Char) :=
      (readQuotedRun quote fuel next).map fun (last, escaped, run) => (last, escaped, char :: run)
    match cursor.peek? 0 with
    | none => some (cursor, false, [])
    | some char =>
      if isSpace char then some (cursor, false, [])
      else if quote = '\'' && char = '\'' && cursor.at? 1 '\'' then one (cursor.forward 2) '\''
      else if char = quote then some (cursor, false, [])
      else if quote = '"' && char = '\\' then
        if (cursor.peek? 1).any isBreak then some ((cursor.forward 1).nextLine, true, [])
        else do
          let (next, char) ← readEscape cursor
          one next char
      else one (cursor.forward 1) char

/-- A quoted scalar after its opening quote, with the place after its closing quote. -/
def readQuoted (quote : Char) : Nat → Cursor → Option (Cursor × List Char)
  | 0, _ => none
  | fuel + 1, cursor =>
    if cursor.documentMarker || cursor.rest.isEmpty then none
    else do
      let (afterRun, escaped, run) ← readQuotedRun quote (cursor.rest.length + 1) cursor
      if !escaped && afterRun.at? 0 quote then some (afterRun.forward 1, run)
      else
        let gap := if escaped then .across Option.none [] else Gap.none
        let (next, gap) ← readGap 0 (afterRun.rest.length + 1) afterRun gap
        let (last, more) ← readQuoted quote fuel next
        some (last, run ++ gap.folded ++ more)

end PacketFilter.Yaml
