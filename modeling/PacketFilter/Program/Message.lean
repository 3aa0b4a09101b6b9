import PacketFilter.Disk
import PacketFilter.Table.Load
import PacketFilter.Table.Walk
import PacketFilter.Text.Quoted

/-!
# What the program tells people

Tables, reports and reasons for giving up are written as text.
-/
namespace PacketFilter

/-! ## Tables and reports for people -/

open Text

/-- A chain with its policy and its numbered rules, one on a line. -/
def Chain.listing (chain : Chain) : String :=
  let policy := (chain.policy.map Verdict.name).getD "-"
  let rules := chain.rules.zipIdx 1 |>.map fun (rule, position) =>
    "  " ++ alignRight 3 (toString position) ++ "  " ++ rule.text ++ "\n"
  "Chain " ++ chain.name ++ " (policy " ++ policy ++ ")\n" ++ String.join rules

/-- The chains of a table in the order of their names. -/
def Table.listing (table : Table) : String := String.join (table.chains.toList.map Chain.listing)

/-- The line without blanks at either end. -/
def SkippedLine.trimmed (skipped : SkippedLine) : String :=
  String.ofList (trim skipped.text.toList)

/-- A skipped line as a warning about a rule file. -/
def SkippedLine.warning (path : String) (skipped : SkippedLine) : String :=
  "⚠️  " ++ path ++ ":" ++ toString skipped.line ++ ": " ++ skipped.reason.message ++ " (" ++
    skipped.trimmed ++ ")\n"

/-- A skipped line as part of a listing. -/
def SkippedLine.listing (skipped : SkippedLine) : String :=
  "❌ line " ++ toString skipped.line ++ " [" ++ skipped.reason.kind ++ "]: " ++
    skipped.reason.message ++ "\n     " ++ skipped.trimmed ++ "\n"

/-- What a report says below the listing of a table. -/
def LoadReport.listing (report : LoadReport) : String :=
  if report.isClean then
    "\n✅ " ++ toString report.applied ++ " applied, " ++ toString report.unchanged ++
      " without effect\n"
  else "\n" ++ String.join (report.skipped.map SkippedLine.listing)

/-- A log rule that matched. -/
def LogRecord.listing (record : LogRecord) : String :=
  "📝 LOG " ++ record.chain ++ "#" ++ toString record.position ++ " " ++ quoted record.label ++ "\n"

/-- The log rules that matched, and the verdict. -/
def Evaluation.listing (evaluation : Evaluation) : String :=
  String.join (evaluation.logs.map LogRecord.listing) ++ evaluation.verdict.name ++ "\n"

/-! ## Why the program gives up -/

open Text

/-- A data format that the program reads. -/
inductive DataFormat where
  /-- JSON. -/
  | json
  /-- YAML. -/
  | yaml
  deriving DecidableEq, Repr

/-- The name of a data format. -/
def DataFormat.name : DataFormat → String
  | json => "JSON"
  | yaml => "YAML"

/-- Why the program gives up. -/
inductive ProgramError where
  /-- The configuration file cannot be read. -/
  | readConfig (path : String) (fault : Fault)
  /-- The configuration file holds no configuration. -/
  | parseConfig
  /-- The rule file cannot be opened. -/
  | openRules (path : String) (fault : Fault)
  /-- The rule file cannot be read to its end. -/
  | loadRules (path : String) (failure : LoadFailure)
  /-- The packet file cannot be read. -/
  | readPackets (path : String) (fault : Fault)
  /-- The packet file holds no packets. -/
  | parsePackets (format : DataFormat)
  /-- The decisions cannot be written. -/
  | writeDecisions (path : String) (fault : Fault)
  /-- The expected decisions cannot be read. -/
  | readExpected (path : String) (fault : Fault)
  /-- The decisions are not the expected ones. -/
  | decisionsDiffer (path : String)
  /-- The text to add holds no command. -/
  | noCommand (text : String)
  /-- The text to add starts a command and does not hold one. -/
  | invalidCommand (text : String) (error : ParseError)
  /-- Lines of the rule file were skipped. -/
  | skippedLines (count : Nat) (path : String)
  /-- The packet cannot be decided. -/
  | evaluate (chain : String) (error : TableError)
  deriving DecidableEq, Repr

namespace ProgramError

/-- What the program was about when it gave up. -/
def message : ProgramError → String
  | readConfig path _ => "Failed to read engine config from " ++ quoted path
  | parseConfig => "Failed to parse engine config YAML"
  | openRules path _ => "Failed to open rules file " ++ quoted path
  | loadRules path _ => "Failed to load rules from " ++ quoted path
  | readPackets path _ => "Failed to read packets from " ++ quoted path
  | parsePackets format => "Failed to parse packet " ++ format.name
  | writeDecisions path _ => "Failed to write decisions to " ++ quoted path
  | readExpected path _ => "Failed to read expected decisions from " ++ quoted path
  | decisionsDiffer path => "Decisions differ from " ++ path
  | noCommand text => "No iptables verb found in " ++ quoted text
  | invalidCommand text _ => "Invalid command " ++ quoted text
  | skippedLines count path => toString count ++ " line(s) of " ++ path ++ " were skipped"
  | evaluate chain _ => "Failed to evaluate chain " ++ chain

/-- What was behind it, the nearest cause first. -/
def causes : ProgramError → List String
  | readConfig _ fault | openRules _ fault | readPackets _ fault | writeDecisions _ fault
  | readExpected _ fault => [fault.message]
  | loadRules _ failure => failure.messages
  | invalidCommand _ error => [error.message]
  | evaluate _ error => [error.message]
  | parseConfig | parsePackets _ | decisionsDiffer _ | noCommand _ | skippedLines _ _ => []

/-- A text with spaces in front of all lines but the first. -/
def indentRest (width : Nat) (text : String) : String :=
  String.ofList (text.toList.flatMap fun char =>
    if char = '\n' then char :: List.replicate width ' ' else [char])

/-- The causes below one another, numbered if there are several. -/
def causeLines : List String → String
  | [] => ""
  | [cause] => "    " ++ indentRest 4 cause ++ "\n"
  | causes =>
    String.join (causes.zipIdx.map fun (cause, number) =>
      alignRight 5 (toString number) ++ ": " ++ indentRest 7 cause ++ "\n")

/-- The report on the error that ends the program. -/
def report (error : ProgramError) : String :=
  let causes := error.causes
  "Error: " ++ error.message ++ "\n" ++
    if causes.isEmpty then "" else "\nCaused by:\n" ++ causeLines causes

end ProgramError

end PacketFilter
