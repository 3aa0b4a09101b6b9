import PacketFilter.ByteSource
import PacketFilter.Text

/-!
# Paths and files

A path leads to a place on a disk by its components, and a disk says what is found there.
-/
namespace PacketFilter

/-! ## Paths

A path is read as its components: empty ones and single points do not count. Two points lead a
step back. What a path ends with tells whether it can name a directory only. -/

/-- The pieces of a path between its slashes. -/
def pathPieces (path : String) : List String :=
  (Text.split (· == '/') path.toList).map String.ofList

/-- The components of a path that count. A path from the root starts with a slash as component. -/
def pathComponents (path : String) : List String :=
  let names := (pathPieces path).filter fun piece => piece != "" && piece != "."
  if path.toList.head? = some '/' then "/" :: names else names

/-- Whether a path can name a directory only: it ends with a slash or with a single point. -/
def namesDirectory (path : String) : Bool :=
  (pathPieces path).getLast?.any fun piece => piece = "" || piece = "."

/-- The components of a path that have to lead to a directory when the path is to be written:
all before the last, and that one too where a single point stands behind it. -/
def directoryComponents (path : String) : List String :=
  if ((pathPieces path).filter (· != "")).getLast? = some "." then pathComponents path
  else (pathComponents path).dropLast

/-- What follows the last point in the name of a file, unless the point is its first character. -/
def extension? (path : String) : Option String :=
  match (pathComponents path).getLast? with
  | none => none
  | some name =>
    if name = ".." then none
    else
      match (Text.split (· == '.') name.toList).reverse with
      | _ :: [[]] => none
      | last :: _ :: _ => some (String.ofList last)
      | _ => none

/-- A place on a disk, known by the components of the shortest way to it, which starts at the
working directory or, with a slash as its first component, at the root. -/
abbrev Place := List String

/-- The place that a component leads to. A step back undoes the step to a name; there is none
from the root. -/
def Place.enter (place : Place) (component : String) : Place :=
  if component = ".." then
    match place.getLast? with
    | none | some ".." => place ++ [".."]
    | some "/" => place
    | some _ => place.dropLast
  else place ++ [component]

/-! ## Files by path

A disk is what a program finds under the paths it may use. Whatever lies on the way to a file must
be a directory, and so must what a path names that ends with a slash. -/

/-- What a path may lead to. -/
inductive Entry where
  /-- A directory. -/
  | directory
  /-- A file with its bytes. -/
  | file (bytes : List UInt8)
  /-- A device that is empty when it is read and that loses what is written to it. -/
  | sink
  deriving DecidableEq, Repr

/-- The bytes that are read from an entry. -/
def Entry.bytes : Entry → List UInt8
  | file bytes => bytes
  | directory | sink => []

/-- Entries by their places. The working directory, the directories above it and the root are
always there. -/
structure Disk where
  /-- The entries. -/
  entries : List (Place × Entry)
  deriving DecidableEq, Repr

namespace Disk

/-- The directories that every system has at its root. -/
def rootDirectories : List String :=
  ["bin", "dev", "etc", "home", "lib", "media", "mnt", "opt", "proc", "run", "sbin", "srv", "sys",
    "tmp", "usr", "var"]

/-- What every system has. -/
def systemEntries : List (Place × Entry) :=
  rootDirectories.map (fun name => (["/", name], .directory)) ++ [(["/", "dev", "null"], .sink)]

/-- A working directory that holds just the given files, on a system without any others. -/
def ofFiles (files : List (String × String)) : Disk :=
  ⟨systemEntries ++ files.map fun (name, text) => ([name], .file text.toUTF8.toList)⟩

/-- What lies at a place. -/
def entry? (disk : Disk) (place : Place) : Option Entry :=
  if place.all (· = "..") || place = ["/"] then some .directory else disk.entries.lookup place

/-- The number of bytes that a path stays below. -/
def pathLimit : Nat := 4096

/-- The greatest number of bytes in a component that can be looked up. -/
def nameLimit : Nat := 255

/-- The fault of a path that leads nowhere on any disk. -/
def pathFault? (path : String) : Option Fault :=
  if path.toList.contains '\x00' then some .nulByte
  else if path = "" then some .notFound
  else if pathLimit ≤ path.utf8ByteSize then some .nameTooLong
  else none

/-- The place that components lead to. Each is looked up in a directory. -/
def walk (disk : Disk) : Place → List String → Except Fault Place
  | place, [] => .ok place
  | place, component :: rest =>
    match disk.entry? place with
    | none => .error .notFound
    | some .directory =>
      if nameLimit < component.utf8ByteSize then .error .nameTooLong
      else disk.walk (place.enter component) rest
    | some _ => .error .notDirectory

/-- The place of a path. -/
def place (disk : Disk) (path : String) : Except Fault Place :=
  match pathFault? path with
  | some fault => .error fault
  | none => disk.walk [] (pathComponents path)

/-- The fault of writing to a path that can name a directory only: what leads to the directory is
at fault before the directory itself. -/
def directoryFault (disk : Disk) (path : String) : Fault :=
  match disk.walk [] (directoryComponents path) with
  | .error fault => fault
  | .ok place =>
    match disk.entry? place with
    | none => .notFound
    | some .directory => .isDirectory
    | some _ => .notDirectory

/-- The place of a path that is to be written. -/
def writablePlace (disk : Disk) (path : String) : Except Fault Place :=
  if (pathFault? path).isNone && namesDirectory path then .error (disk.directoryFault path)
  else disk.place path

/-- Open a path for reading. A directory opens and fails when it is read. -/
def openSource (disk : Disk) (path : String) : Except Fault ByteSource :=
  match disk.place path with
  | .error fault => .error fault
  | .ok place =>
    match disk.entry? place with
    | none => .error .notFound
    | some .directory => .ok ⟨[], some .isDirectory⟩
    | some entry => if namesDirectory path then .error .notDirectory else .ok ⟨entry.bytes, none⟩

/-- The text of the file at a path. -/
def readText (disk : Disk) (path : String) : Except Fault String :=
  match disk.openSource path with
  | .error fault => .error fault
  | .ok source => source.text

/-- The disk with a file at a place, in the stead of what was there. -/
def put (disk : Disk) (place : Place) (bytes : List UInt8) : Disk :=
  ⟨(disk.entries.filter fun (other, _) => other != place) ++ [(place, .file bytes)]⟩

/-- Put bytes into the file at a path, which is made if it is not there. The bytes come from
those that the file holds. -/
def modify (disk : Disk) (path : String) (change : List UInt8 → List UInt8) :
    Except Fault Disk :=
  match disk.writablePlace path with
  | .error fault => .error fault
  | .ok place =>
    match disk.entry? place with
    | none => .ok (disk.put place (change []))
    | some .directory => .error .isDirectory
    | some (.file bytes) => .ok (disk.put place (change bytes))
    | some .sink => .ok disk

/-- Write a text as the whole of a file. -/
def writeText (disk : Disk) (path text : String) : Except Fault Disk :=
  disk.modify path fun _ => text.toUTF8.toList

/-- Write a text after what a file holds. -/
def appendText (disk : Disk) (path text : String) : Except Fault Disk :=
  disk.modify path (· ++ text.toUTF8.toList)

end Disk

end PacketFilter
