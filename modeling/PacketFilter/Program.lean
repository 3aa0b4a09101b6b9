import PacketFilter.CommandLine
import PacketFilter.Config
import PacketFilter.Difference
import PacketFilter.Json
import PacketFilter.Program.Message
import PacketFilter.Metrics
import PacketFilter.Packet.Forms

/-!
# The program

A run takes a command line and a disk to an exit code, what is printed, and the disk afterwards.
The task is carried out step by step: what was printed and written before an error stays.
-/
namespace PacketFilter

open Text

/-! ## Reading the files that a task needs -/

/-- The configuration in the file at a path. -/
def Config.load (disk : Disk) (path : String) : Except ProgramError Config :=
  match disk.readText path with
  | .error fault => .error (.readConfig path fault)
  | .ok text =>
    match Config.ofText? text with
    | none => .error .parseConfig
    | some config => .ok config

/-- The format of a packet file: JSON by its extension, and otherwise YAML. -/
def DataFormat.ofPath (path : String) : DataFormat :=
  if extension? path = some "json" then .json else .yaml

/-- The packets that a text writes in a format. -/
def Packet.listOfText? (format : DataFormat) (text : String) : Option (List Packet) :=
  match format with
  | .json => Json.read? text >>= listOfJson?
  | .yaml => Yaml.Node.ofText? text >>= listOfNode?

/-- The packets in the file at a path. -/
def Packet.loadList (disk : Disk) (path : String) : Except ProgramError (List Packet) :=
  match disk.readText path with
  | .error fault => .error (.readPackets path fault)
  | .ok text =>
    let format := DataFormat.ofPath path
    match listOfText? format text with
    | none => .error (.parsePackets format)
    | some packets => .ok packets

namespace Table

/-- Carry out the lines of an opened rule file. -/
def loadOpened (table : Table) (path : String) (opened : Except Fault ByteSource) :
    Table × Except ProgramError LoadReport :=
  match opened with
  | .error fault => (table, .error (.openRules path fault))
  | .ok source =>
    match table.loadSource source with
    | (next, .error failure) => (next, .error (.loadRules path failure))
    | (next, .ok report) => (next, .ok report)

/-- Carry out the lines of the rule file at a path. -/
def loadFile (table : Table) (disk : Disk) (path : String) :
    Table × Except ProgramError LoadReport :=
  table.loadOpened path (disk.openSource path)

/-- What is worth telling about carrying out the lines of an opened rule file. -/
def loadOpenedEvents (table : Table) (path : String) (opened : Except Fault ByteSource) :
    List Event :=
  .loading path ::
    match opened with
    | .error _ => []
    | .ok source => table.loadEvents 1 source.lines.1

end Table

/-! ## Rule files -/

/-- The line that adds a command to a rule file: the text without blanks around it, if it holds
a command. -/
def ruleLine (text : String) : Except ProgramError String :=
  match Command.parse text with
  | .error error => .error (.invalidCommand text error)
  | .ok none => .error (.noCommand text)
  | .ok (some _) => .ok (String.ofList (trim text.toList) ++ "\n")

/-! ## Running -/

/-- What a run has come to so far. -/
structure Progress where
  /-- The disk as it is now. -/
  disk : Disk
  /-- What was printed. -/
  output : String
  /-- What was printed for the reader's attention. -/
  warnings : String

/-- A step of a run, which may end it with an error and keeps what was done before. -/
abbrev Step := ExceptT ProgramError (StateM Progress)

namespace Step

/-- Print a text. -/
def print (text : String) : Step Unit :=
  modify fun progress => { progress with output := progress.output ++ text }

/-- Print a text for the reader's attention. -/
def warn (text : String) : Step Unit :=
  modify fun progress => { progress with warnings := progress.warnings ++ text }

/-- Read something from the disk. -/
def consult {α : Type} (read : Disk → Except ProgramError α) : Step α := do
  let progress ← get
  MonadExcept.ofExcept (read progress.disk)

/-- Change the disk; a fault ends the run with an error. -/
def change (edit : Disk → Except Fault Disk) (failure : Fault → ProgramError) : Step Unit := do
  let progress ← get
  match edit progress.disk with
  | .error fault => throw (failure fault)
  | .ok disk => set { progress with disk }

end Step

/-- What a finished run leaves. -/
structure Finished where
  /-- Zero for success. -/
  exitCode : Nat
  /-- What was printed. -/
  output : String
  /-- What was printed for the reader's attention. -/
  warnings : String
  /-- The disk afterwards. -/
  disk : Disk

namespace Program

/-- The table of a rule file with the report on its lines. -/
def loadTable (config : Config) (rules : String) : Step (Table × LoadReport) := do
  let (table, report) ← Step.consult fun disk =>
    match (Table.empty config.tableOptions).loadFile disk rules with
    | (table, .ok report) => .ok (table, report)
    | (_, .error error) => .error error
  return (table, report)

/-- The table of a rule file, with a warning for each line that was skipped. -/
def loadTableWarning (config : Config) (rules : String) : Step (Table × LoadReport) := do
  let (table, report) ← loadTable config rules
  Step.warn (String.join (report.skipped.map (SkippedLine.warning rules)))
  return (table, report)

/-- Compare decisions with those that are expected in a file. -/
def compare (decisions path : String) : Step Unit := do
  let expected ← Step.consult fun disk =>
    match disk.readText path with
    | .error fault => .error (.readExpected path fault)
    | .ok text => .ok text
  if expected = decisions then Step.print ("✅ Decisions match " ++ path ++ "\n")
  else
    Step.print (Difference.text expected decisions ++ "\n")
    throw (.decisionsDiffer path)

/-- Decide on the packets of a file and write the decisions. -/
def simulate (config : Config) (rules packets chain output : String) (expected : Option String)
    (metrics : Bool) : Step Unit := do
  let (table, report) ← loadTableWarning config rules
  let packets ← Step.consult fun disk => Packet.loadList disk packets
  let simulation :=
    Simulation.run table (Metrics.empty.observeLoad report) chain (packets.map Packet.view)
  let decisions := simulation.decisions
  Step.change (fun disk => disk.writeText output decisions) (.writeDecisions output)
  Step.print ("✅ Wrote " ++ toString packets.length ++ " packet decisions to " ++ output ++ "\n")
  if metrics then Step.print (simulation.metrics.observeTable simulation.table).render
  match expected with
  | none => return
  | some path => compare decisions path

/-- Add a command to a rule file. -/
def addRule (command file : String) : Step Unit := do
  let line ← MonadExcept.ofExcept (ruleLine command)
  Step.change (fun disk => disk.appendText file line) (.openRules file)
  Step.print ("✅ Added rule to " ++ file ++ "\n")

/-- List the chains of a rule file and the lines that were skipped. -/
def check (config : Config) (rules : String) : Step Unit := do
  let (table, report) ← loadTable config rules
  Step.print (table.listing ++ report.listing)
  if report.isClean then return else throw (.skippedLines report.skipped.length rules)

/-- Decide on one packet. -/
def eval (config : Config) (rules chain : String) (packet : Packet) : Step Unit := do
  let (table, _) ← loadTableWarning config rules
  match (table.evaluate chain packet.view).2 with
  | .error error => throw (.evaluate chain error)
  | .ok evaluation => Step.print evaluation.listing

/-- Carry out an invocation. -/
def perform (invocation : Invocation) : Step Unit := do
  let config ←
    match invocation.config with
    | none => pure Config.standard
    | some path => Step.consult fun disk => Config.load disk path
  match invocation.task with
  | .simulate rules packets chain output expected metrics =>
    simulate config rules packets (chain.getD config.defaultChain) output expected metrics
  | .addRule command file => addRule command file
  | .check rules => check config rules
  | .eval rules chain packet => eval config rules (chain.getD config.defaultChain) packet

/-- How the program is used. -/
def usage : String :=
  "Usage: iptsim [--config FILE] COMMAND [OPTIONS]\n\n" ++
  "Commands:\n" ++
  "  simulate  Evaluate a packet file against a rule file\n" ++
  "  add-rule  Append a command to a rule file after validating it\n" ++
  "  check     Load a rule file and list its chains and diagnostics\n" ++
  "  eval      Evaluate one packet described on the command line\n"

/-- The name and the version of the program. -/
def versionText : String := "iptsim 0.1.0\n"

/-- Run the program on the words of a command line. -/
def run (disk : Disk) (words : List String) : Finished :=
  match CommandLine.read words with
  | .error .help => ⟨0, usage, "", disk⟩
  | .error .version => ⟨0, versionText, "", disk⟩
  | .error .misuse => ⟨2, "", usage, disk⟩
  | .ok invocation =>
    match (perform invocation).run.run ⟨disk, "", ""⟩ with
    | (.ok (), progress) => ⟨0, progress.output, progress.warnings, progress.disk⟩
    | (.error error, progress) =>
      ⟨1, progress.output, progress.warnings ++ error.report, progress.disk⟩

end Program

end PacketFilter
