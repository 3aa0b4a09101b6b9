/-!
# Texts taken apart

A sequence of characters or bytes is cut at separators. Words, list items and lines are read off the
pieces, and numerals off their digits.
-/
namespace PacketFilter.Text

/-! ## Pieces of a sequence

Cutting a sequence at separators keeps every piece, empty ones included, so joining the pieces
gives the sequence back. Words, list items and lines are all read off these pieces. -/

/-- The pieces between the separators; there is always one piece more than separators. -/
def split {α : Type} (isSeparator : α → Bool) : List α → List (List α)
  | [] => [[]]
  | item :: rest =>
    if isSeparator item then [] :: split isSeparator rest
    else
      match split isSeparator rest with
      | [] => [[item]]
      | piece :: pieces => (item :: piece) :: pieces

/-- Cutting never yields nothing: an empty sequence is one empty piece. -/
theorem split_ne_nil {α : Type} (isSeparator : α → Bool) (items : List α) :
    split isSeparator items ≠ [] := by
  induction items with
  | nil => simp [split]
  | cons item rest ih =>
    unfold split
    split
    · simp
    · split <;> simp_all

/-- A sequence without separators is its own single piece. -/
theorem split_of_forall_not {α : Type} (isSeparator : α → Bool) (items : List α)
    (plain : ∀ item ∈ items, isSeparator item = false) : split isSeparator items = [items] := by
  induction items with
  | nil => rfl
  | cons item rest ih =>
    have first := plain item (by simp)
    have others := ih fun other member => plain other (by simp [member])
    simp [split, first, others]

/-- A separator closes the pieces before it and opens the pieces after it. -/
theorem split_append_cons {α : Type} (isSeparator : α → Bool) (before : List α) (mark : α)
    (after : List α) (separates : isSeparator mark = true) :
    split isSeparator (before ++ mark :: after) =
      split isSeparator before ++ split isSeparator after := by
  induction before with
  | nil => simp [split, separates]
  | cons item rest ih =>
    by_cases isMark : isSeparator item = true
    · simp [split, isMark, ih]
    · have nonempty := split_ne_nil isSeparator rest
      cases pieces : split isSeparator rest with
      | nil => exact absurd pieces nonempty
      | cons piece others => simp [split, isMark, ih, pieces]

/-- What holds no separator comes in front of the first piece of what follows. -/
theorem split_plain_append {α : Type} {isSeparator : α → Bool} {before after piece : List α}
    {pieces : List (List α)} (plain : ∀ item ∈ before, isSeparator item = false)
    (cut : split isSeparator after = piece :: pieces) :
    split isSeparator (before ++ after) = (before ++ piece) :: pieces := by
  induction before with
  | nil => exact cut
  | cons item rest ih =>
    have first := plain item List.mem_cons_self
    have others := ih fun other member => plain other (List.mem_cons_of_mem _ member)
    simp [split, first, others]

/-- No piece holds a separator. -/
theorem not_separator_of_mem_split {α : Type} (isSeparator : α → Bool) (items piece : List α)
    (member : piece ∈ split isSeparator items) : ∀ item ∈ piece, isSeparator item = false := by
  induction items generalizing piece with
  | nil => simp_all [split]
  | cons item rest ih =>
    by_cases isMark : isSeparator item = true
    · simp only [split, isMark, if_true, List.mem_cons] at member
      rcases member with rfl | member
      · simp
      · exact ih piece member
    · cases pieces : split isSeparator rest with
      | nil => exact absurd pieces (split_ne_nil isSeparator rest)
      | cons first others =>
        simp only [split, isMark, pieces, Bool.false_eq_true, if_false, List.mem_cons] at member
        rcases member with rfl | member
        · intro other within
          rcases List.mem_cons.1 within with rfl | within
          · simpa using isMark
          · exact ih first (by simp [pieces]) other within
        · exact ih piece (by simp [pieces, member])

/-! ## Blank characters and words

Blank characters are those with the property `White_Space`: they separate words and are trimmed
from both ends of a line. Zero-width characters and the information separators are not blank. -/

/-- First and last code point of each run of blank characters. -/
def blankRanges : List (Nat × Nat) :=
  [(0x09, 0x0D), (0x20, 0x20), (0x85, 0x85), (0xA0, 0xA0), (0x1680, 0x1680), (0x2000, 0x200A),
    (0x2028, 0x2029), (0x202F, 0x202F), (0x205F, 0x205F), (0x3000, 0x3000)]

/-- A character is blank when one of the runs holds its code point. -/
def isBlank (char : Char) : Bool :=
  blankRanges.any fun (first, last) => first ≤ char.toNat && char.toNat ≤ last

/-- Text without the blank characters at its start. -/
def trimStart (text : List Char) : List Char := text.dropWhile isBlank

/-- Text without the blank characters at its end. -/
def trimEnd (text : List Char) : List Char := (trimStart text.reverse).reverse

/-- Text without the blank characters at either end. -/
def trim (text : List Char) : List Char := trimEnd (trimStart text)

/-- The maximal runs of characters that are not blank, in order. -/
def words (text : List Char) : List (List Char) :=
  (split isBlank text).filter fun piece => !piece.isEmpty

/-- No word is empty. -/
theorem ne_nil_of_mem_words {text word : List Char} (member : word ∈ words text) : word ≠ [] := by
  simpa using (List.mem_filter.1 member).2

/-- No word holds a blank character. -/
theorem not_blank_of_mem_words {text word : List Char} (member : word ∈ words text) :
    ∀ char ∈ word, isBlank char = false :=
  not_separator_of_mem_split isBlank text word (List.mem_filter.1 member).1

/-! ## Lines

A line ends at a line feed, and one carriage return right before that line feed belongs to the
line end. A carriage return anywhere else is an ordinary item of its line. Text after the last
line feed is a line of its own unless it is empty. The same rule reads characters and bytes. -/

variable {α : Type} [DecidableEq α]

/-- A line without the carriage return that belonged to its line end. -/
def dropReturn (carriageReturn : α) (line : List α) : List α :=
  if line.getLast? = some carriageReturn then line.dropLast else line

/-- Lines from the pieces between line feeds: all but the last piece were ended by a line feed. -/
def closeLines (carriageReturn : α) : List (List α) → List (List α)
  | [] => []
  | [last] => if last.isEmpty then [] else [last]
  | line :: next :: rest =>
    dropReturn carriageReturn line :: closeLines carriageReturn (next :: rest)

/-- The lines of a sequence, for the given line feed and carriage return. -/
def linesWith (lineFeed carriageReturn : α) (items : List α) : List (List α) :=
  closeLines carriageReturn (split (· == lineFeed) items)

/-- The lines that a line feed ends; text after the last line feed is left out. -/
def endedLinesWith (lineFeed carriageReturn : α) (items : List α) : List (List α) :=
  (split (· == lineFeed) items).dropLast.map (dropReturn carriageReturn)

/-- The lines of a text. -/
def lines (text : String) : List String :=
  (linesWith '\n' '\r' text.toList).map String.ofList

/-! ## Decimal numerals

Numbers are written without sign or leading zeros. Reading takes ASCII digits only; leading
zeros are allowed, and the caller says which values are in range. -/

/-- The value of a digit in bases up to sixteen, in either case. -/
def digitValue? (char : Char) : Option Nat :=
  if '0' ≤ char && char ≤ '9' then some (char.toNat - '0'.toNat)
  else if 'a' ≤ char && char ≤ 'f' then some (char.toNat - 'a'.toNat + 10)
  else if 'A' ≤ char && char ≤ 'F' then some (char.toNat - 'A'.toNat + 10)
  else none

/-- One more digit of a numeral in the given base. -/
def pushDigit? (base value : Nat) (char : Char) : Option Nat := do
  let digit ← digitValue? char
  if digit < base then some (value * base + digit) else none

/-- The value of a non-empty numeral made of digits of the base and nothing else. -/
def readNumeral? (base : Nat) (digits : List Char) : Option Nat :=
  if digits.isEmpty then none else digits.foldlM (pushDigit? base) 0

/-- The least number that does not fit in a machine word of 64 bits. -/
def wordLimit : Nat := UInt64.size

/-- A numeral right-aligned in a column, never cut. -/
def alignRight (width : Nat) (text : String) : String :=
  "".pushn ' ' (width - text.length) ++ text

end PacketFilter.Text
