import PacketFilter.Text

/-!
# Sources of bytes

A source delivers bytes and then ends or fails. Text is read from it line by line, each line
decoded as UTF-8 on its own, or as a whole.
-/
namespace PacketFilter

/-- Why a source cannot be read, or a file not be opened. -/
inductive Fault where
  /-- There is nothing of that name. -/
  | notFound
  /-- What has that name is a directory. -/
  | isDirectory
  /-- What should be a directory is a file. -/
  | notDirectory
  /-- The name is longer than names may be. -/
  | nameTooLong
  /-- The name holds a byte of value zero, which ends names. -/
  | nulByte
  /-- The bytes are no UTF-8. -/
  | notText
  /-- The device failed, in its own words. -/
  | device (wording : String)
  deriving DecidableEq, Repr

/-- The wording of a fault. -/
def Fault.message : Fault → String
  | notFound => "No such file or directory (os error 2)"
  | isDirectory => "Is a directory (os error 21)"
  | notDirectory => "Not a directory (os error 20)"
  | nameTooLong => "File name too long (os error 36)"
  | nulByte => "file name contained an unexpected NUL byte"
  | notText => "stream did not contain valid UTF-8"
  | device wording => wording

/-- Bytes that are delivered, and the fault that follows them, if one does. -/
structure ByteSource where
  /-- The bytes that arrive. -/
  bytes : List UInt8
  /-- What goes wrong after the last of them. -/
  fault : Option Fault
  deriving DecidableEq, Repr

namespace ByteSource

/-- The byte of a line feed. -/
def lineFeed : UInt8 := 0x0A

/-- The byte of a carriage return. -/
def carriageReturn : UInt8 := 0x0D

/-- A source that delivers a text and ends. -/
def ofText (text : String) : ByteSource := ⟨text.toUTF8.toList, none⟩

/-- The text of bytes that are UTF-8. -/
def decode? (bytes : List UInt8) : Option String := String.fromUTF8? bytes.toByteArray

/-- The byte lines that arrive whole: a fault loses a line that is not ended. -/
def rawLines (source : ByteSource) : List (List UInt8) :=
  match source.fault with
  | none => Text.linesWith lineFeed carriageReturn source.bytes
  | some _ => Text.endedLinesWith lineFeed carriageReturn source.bytes

/-- The lines before the first that is no text, and whether there is such a line. -/
def decodeLines : List (List UInt8) → List String × Bool
  | [] => ([], false)
  | line :: rest =>
    match decode? line with
    | none => ([], true)
    | some text =>
      let (texts, stopped) := decodeLines rest
      (text :: texts, stopped)

/-- The lines that can be read, and the fault that stops reading after them, if one does. -/
def lines (source : ByteSource) : List String × Option Fault :=
  let (texts, stopped) := decodeLines source.rawLines
  (texts, if stopped then some .notText else source.fault)

/-- All of the source as one text. -/
def text (source : ByteSource) : Except Fault String :=
  match source.fault, decode? source.bytes with
  | some fault, _ => .error fault
  | none, none => .error .notText
  | none, some text => .ok text

end ByteSource

end PacketFilter
