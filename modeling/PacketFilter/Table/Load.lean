import PacketFilter.ByteSource
import PacketFilter.Command.Parser
import PacketFilter.Table

/-!
# Loading rule lines

Lines are carried out one after the other. A line that is malformed or refused is skipped with a
reason, and loading goes on with the table as it was before that line. The report counts what
happened to each line that starts a command.
-/
namespace PacketFilter

/-- Why a line was skipped. -/
inductive SkipReason where
  /-- It does not hold a command. -/
  | parse (error : ParseError)
  /-- The table refused its command. -/
  | reference (error : TableError)
  deriving DecidableEq, Repr

namespace SkipReason

/-- The label under which skipped lines are counted. -/
def kind : SkipReason → String
  | parse _ => "parse"
  | reference _ => "reference"

/-- Lines were skipped for the same reason, whatever the errors are. -/
inductive SameKind : SkipReason → SkipReason → Prop
  /-- They do not hold a command. -/
  | parse (first second : ParseError) : SameKind (.parse first) (.parse second)
  /-- The table refused their commands. -/
  | reference (first second : TableError) : SameKind (.reference first) (.reference second)

/-- Skipped lines have the same label just if they were skipped for the same reason. -/
theorem kind_eq_kind_iff {left right : SkipReason} :
    left.kind = right.kind ↔ left.SameKind right := by
  constructor
  · intro same
    cases left <;> cases right <;> first | constructor | simp [kind] at same
  · intro same
    cases same <;> rfl

/-- Whether lines were skipped for the same reason can be read off the labels. -/
instance (left right : SkipReason) : Decidable (left.SameKind right) :=
  decidable_of_iff _ kind_eq_kind_iff

/-- The wording of the error behind it. -/
def message : SkipReason → String
  | parse error => error.message
  | reference error => error.message

end SkipReason

/-- A line that was skipped. -/
structure SkippedLine where
  /-- Its number, counted from one. -/
  line : Nat
  /-- The line as it was read. -/
  text : String
  /-- Why it was skipped. -/
  reason : SkipReason
  deriving DecidableEq, Repr

/-- What became of the lines that start a command. -/
structure LoadReport where
  /-- The number of commands that were carried out. -/
  applied : Nat
  /-- The number of commands that had no effect. -/
  unchanged : Nat
  /-- The lines that were skipped, in order. -/
  skipped : List SkippedLine
  deriving DecidableEq, Repr

/-- What became of one line. -/
inductive LineOutcome where
  /-- It holds no command. -/
  | noCommand
  /-- Its command was carried out. -/
  | applied
  /-- Its command had no effect. -/
  | unchanged (verb : Verb)
  /-- It starts a command and does not hold one. -/
  | malformed (error : ParseError)
  /-- Its command was refused. -/
  | refused (verb : Verb) (error : TableError)
  deriving DecidableEq, Repr

namespace LoadReport

/-- The report on no lines. -/
def empty : LoadReport := ⟨0, 0, []⟩

/-- Whether no line was skipped. -/
def isClean (report : LoadReport) : Bool := report.skipped.isEmpty

/-- The report with one line put before those that it is about. -/
def precededBy (report : LoadReport) (line : Nat) (text : String) : LineOutcome → LoadReport
  | .noCommand => report
  | .applied => { report with applied := report.applied + 1 }
  | .unchanged _ => { report with unchanged := report.unchanged + 1 }
  | .malformed error => { report with skipped := ⟨line, text, .parse error⟩ :: report.skipped }
  | .refused _ error =>
    { report with skipped := ⟨line, text, .reference error⟩ :: report.skipped }

end LoadReport

/-- Why a source of rule lines could not be read to its end. -/
structure LoadFailure where
  /-- The number of the line that could not be read. -/
  line : Nat
  /-- What went wrong with it. -/
  fault : Fault
  deriving DecidableEq, Repr

/-- The wording of a load failure, the outer message first. -/
def LoadFailure.messages (failure : LoadFailure) : List String :=
  ["Failed to read line " ++ toString failure.line, failure.fault.message]

namespace Table

/-- Carry out the command of one line, if it holds one. -/
def loadLine (table : Table) (text : String) : Table × LineOutcome :=
  match Command.parse text with
  | .error error => (table, .malformed error)
  | .ok none => (table, .noCommand)
  | .ok (some command) =>
    match table.apply command with
    | .error error => (table, .refused command.verb error)
    | .ok none => (table, .unchanged command.verb)
    | .ok (some changed) => (changed, .applied)

/-- Carry out lines in order; the first of them has the given number. -/
def loadLines (table : Table) (number : Nat) : List String → Table × LoadReport
  | [] => (table, .empty)
  | text :: rest =>
    let (next, outcome) := table.loadLine text
    let (final, report) := next.loadLines (number + 1) rest
    (final, report.precededBy number text outcome)

/-- Carry out the lines of a text. -/
def loadText (table : Table) (text : String) : Table × LoadReport :=
  table.loadLines 1 (Text.lines text)

/-- Carry out the lines of a source, up to the one that cannot be read. -/
def loadSource (table : Table) (source : ByteSource) :
    Table × Except LoadFailure LoadReport :=
  let (lines, fault) := source.lines
  let (final, report) := table.loadLines 1 lines
  match fault with
  | none => (final, .ok report)
  | some fault => (final, .error ⟨lines.length + 1, fault⟩)

/-- What is worth telling about carrying out one line. -/
def lineEvents (table : Table) (number : Nat) (text : String) : List Event :=
  let narrated :=
    match Command.parse text with
    | .ok (some command) => table.applyEvents command
    | _ => []
  match (table.loadLine text).2 with
  | .malformed error => narrated ++ [.malformedLine number error]
  | .refused verb error => narrated ++ [.refusedLine number verb error]
  | .unchanged verb => narrated ++ [.noEffect number verb]
  | _ => narrated

/-- What is worth telling about carrying out lines in order. -/
def loadEvents (table : Table) (number : Nat) : List String → List Event
  | [] => []
  | text :: rest =>
    table.lineEvents number text ++ (table.loadLine text).1.loadEvents (number + 1) rest

end Table

end PacketFilter
