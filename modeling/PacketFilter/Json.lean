import PacketFilter.Text

/-!
# JSON

A value keeps what a reader of records needs to judge it, and a text is read as one value.
-/
namespace PacketFilter

/-! ## JSON values

A value keeps what a reader of records needs to judge it: numbers as they are written, fields in
order with repetitions, and strings that write no text. -/

/-- A JSON value. -/
inductive Json where
  /-- The word `null`. -/
  | null
  /-- A truth value. -/
  | bool (value : Bool)
  /-- A number as it is written. -/
  | number (spelling : String)
  /-- A string; it writes no text if it holds half of a surrogate pair. -/
  | string (text : Option String)
  /-- A list of values. -/
  | array (items : List Json)
  /-- Named values in order; names may repeat and write no text. -/
  | object (fields : List (Option String × Json))

namespace Json

/-- A string that writes a text. -/
def ofString (text : String) : Json := .string (some text)

/-- A natural number in decimal. -/
def ofNat (value : Nat) : Json := .number (toString value)

/-- An object of values under distinct names. -/
def ofFields (fields : List (String × Json)) : Json :=
  .object (fields.map fun (name, value) => (some name, value))

/-- The text of a string that writes one. -/
def text? : Json → Option String
  | .string text => text
  | _ => none

/-- The value of a number written in digits alone. -/
def nat? : Json → Option Nat
  | .number spelling => Text.readNumeral? 10 spelling.toList
  | _ => none

/-- Whether a value is the word `null`. -/
def isNull : Json → Bool
  | .null => true
  | _ => false

/-- The only value among the fields of one name; no value where the name does not occur, and
nothing at all where it repeats. -/
def onlyField? (fields : List (Option String × Json)) (name : String) : Option (Option Json) :=
  match fields.filter fun (other, _) => other == some name with
  | [] => some none
  | [(_, value)] => some (some value)
  | _ => none

/-- The values of a record's fields, by name from an object or by place from an array. Names that
the record does not have are passed over, but every name must write a text. -/
def record? (names : List String) : Json → Option (List (Option Json))
  | .object fields =>
    if fields.all fun (name, _) => name.isSome then names.mapM (onlyField? fields) else none
  | .array items =>
    if items.length ≤ names.length then
      some (items.map some ++ List.replicate (names.length - items.length) none)
    else none
  | _ => none

/-- The name of a plain choice: a string, or an object with that one name and no content. -/
def choice? : Json → Option String
  | .string text => text
  | .object [(name, content)] => if content.isNull then name else none
  | _ => none

end Json

end PacketFilter

namespace PacketFilter.Json

/-! ## Reading JSON

A text is one value with white space around its parts and nothing after it. Numbers are checked
for form only, and values may nest to any depth. -/

open Text

/-- The characters that may stand between the parts of a value. -/
def isSpace (char : Char) : Bool := char = ' ' || char = '\t' || char = '\n' || char = '\r'

/-- Text without the space at its start. -/
def skipSpace (text : List Char) : List Char := text.dropWhile isSpace

/-- Whether a character is a decimal digit. -/
def isDigit (char : Char) : Bool := '0' ≤ char && char ≤ '9'

/-! ### Strings -/

/-- The code unit that four hexadecimal digits write. -/
def hexUnit? : List Char → Option (Nat × List Char)
  | a :: b :: c :: d :: rest => (readNumeral? 16 [a, b, c, d]).map (·, rest)
  | _ => none

/-- The character that a letter after a backslash stands for. -/
def simpleEscape? (letter : Char) : Option Nat :=
  [('"', 0x22), ('\\', 0x5C), ('/', 0x2F), ('b', 0x08), ('f', 0x0C), ('n', 0x0A), ('r', 0x0D),
    ('t', 0x09)].lookup letter

/-- The code points and surrogate halves up to the closing quote, with the text after it. -/
def readUnits : Nat → List Char → Option (List Nat × List Char)
  | 0, _ => none
  | _ + 1, [] => none
  | _ + 1, '"' :: rest => some ([], rest)
  | fuel + 1, '\\' :: 'u' :: rest => do
    let (unit, rest) ← hexUnit? rest
    let (units, rest) ← readUnits fuel rest
    some (unit :: units, rest)
  | fuel + 1, '\\' :: letter :: rest => do
    let unit ← simpleEscape? letter
    let (units, rest) ← readUnits fuel rest
    some (unit :: units, rest)
  | fuel + 1, char :: rest =>
    if char = '\\' || char.toNat < 0x20 then none
    else do
      let (units, rest) ← readUnits fuel rest
      some (char.toNat :: units, rest)

/-- Whether a unit is the first half of a surrogate pair. -/
def isHighHalf (unit : Nat) : Bool := 0xD800 ≤ unit && unit < 0xDC00

/-- Whether a unit is the second half of a surrogate pair. -/
def isLowHalf (unit : Nat) : Bool := 0xDC00 ≤ unit && unit < 0xE000

/-- The text of units in which every surrogate half has its other half next to it. -/
def textOfUnits? : List Nat → Option (List Char)
  | [] => some []
  | [unit] => if isHighHalf unit || isLowHalf unit then none else some [Char.ofNat unit]
  | unit :: next :: rest =>
    if isLowHalf unit then none
    else if isHighHalf unit then
      if isLowHalf next then
        (textOfUnits? rest).map
          (Char.ofNat (0x10000 + (unit - 0xD800) * 0x400 + (next - 0xDC00)) :: ·)
      else none
    else (textOfUnits? (next :: rest)).map (Char.ofNat unit :: ·)

/-- A string after its opening quote, with the text after it. -/
def readString? (text : List Char) : Option (Option String × List Char) :=
  (readUnits (text.length + 1) text).map fun (units, rest) =>
    ((textOfUnits? units).map String.ofList, rest)

/-! ### Numbers -/

/-- A row of at least one digit at the start, with the text after it. -/
def takeDigits? (text : List Char) : Option (List Char × List Char) :=
  match text.span isDigit with
  | ([], _) => none
  | taken => some taken

/-- A whole number at the start, without leading zeros. -/
def takeWhole? (text : List Char) : Option (List Char × List Char) :=
  match text with
  | '0' :: rest => some (['0'], rest)
  | _ => takeDigits? text

/-- A fraction at the start, if a point starts one. -/
def takeFraction? (text : List Char) : Option (List Char × List Char) :=
  match text with
  | '.' :: rest => (takeDigits? rest).map fun (digits, rest) => ('.' :: digits, rest)
  | _ => some ([], text)

/-- An optional sign at the start. -/
def takeSign (signs : List Char) : List Char → List Char × List Char
  | char :: rest => if char ∈ signs then ([char], rest) else ([], char :: rest)
  | [] => ([], [])

/-- An exponent at the start, if a letter starts one. -/
def takeExponent? (text : List Char) : Option (List Char × List Char) :=
  match takeSign ['e', 'E'] text with
  | ([], _) => some ([], text)
  | (letter, rest) =>
    let (sign, rest) := takeSign ['+', '-'] rest
    (takeDigits? rest).map fun (digits, rest) => (letter ++ sign ++ digits, rest)

/-- A number at the start, with the text after it. -/
def readNumber? (text : List Char) : Option (Json × List Char) := do
  let (sign, rest) := takeSign ['-'] text
  let (whole, rest) ← takeWhole? rest
  let (fraction, rest) ← takeFraction? rest
  let (exponent, rest) ← takeExponent? rest
  some (.number (String.ofList (sign ++ whole ++ fraction ++ exponent)), rest)

/-! ### Values -/

mutual

/-- A value at the start, with the text after it. -/
def readValue : Nat → List Char → Option (Json × List Char)
  | 0, _ => none
  | fuel + 1, text =>
    match skipSpace text with
    | 'n' :: 'u' :: 'l' :: 'l' :: rest => some (.null, rest)
    | 't' :: 'r' :: 'u' :: 'e' :: rest => some (.bool true, rest)
    | 'f' :: 'a' :: 'l' :: 's' :: 'e' :: rest => some (.bool false, rest)
    | '"' :: rest => (readString? rest).map fun (text, rest) => (.string text, rest)
    | '[' :: rest =>
      match skipSpace rest with
      | ']' :: rest => some (.array [], rest)
      | rest => (readItems fuel rest).map fun (items, rest) => (.array items, rest)
    | '\x7b' :: rest =>
      match skipSpace rest with
      | '\x7d' :: rest => some (.object [], rest)
      | rest => (readFields fuel rest).map fun (fields, rest) => (.object fields, rest)
    | text => readNumber? text

/-- The items of an array up to its closing bracket, at least one. -/
def readItems : Nat → List Char → Option (List Json × List Char)
  | 0, _ => none
  | fuel + 1, text => do
    let (item, rest) ← readValue fuel text
    match skipSpace rest with
    | ']' :: rest => some ([item], rest)
    | ',' :: rest =>
      let (items, rest) ← readItems fuel rest
      some (item :: items, rest)
    | _ => none

/-- The fields of an object up to its closing brace, at least one. -/
def readFields : Nat → List Char → Option (List (Option String × Json) × List Char)
  | 0, _ => none
  | fuel + 1, text => do
    let '"' :: rest := skipSpace text | none
    let (name, rest) ← readString? rest
    let ':' :: rest := skipSpace rest | none
    let (value, rest) ← readValue fuel rest
    match skipSpace rest with
    | '\x7d' :: rest => some ([(name, value)], rest)
    | ',' :: rest =>
      let (fields, rest) ← readFields fuel rest
      some ((name, value) :: fields, rest)
    | _ => none

end

/-- The value that a text writes, if it writes one and nothing else. Every step down or along
takes at least one character, so twice the length of the text is enough for all of them. -/
def read? (text : String) : Option Json :=
  let chars := text.toList
  match readValue (2 * chars.length + 2) chars with
  | some (value, rest) => if (skipSpace rest).isEmpty then some value else none
  | none => none

end PacketFilter.Json
