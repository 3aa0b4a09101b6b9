import PacketFilter.Table.Load
import PacketFilter.Table.Walk

/-!
# Runs and their metrics

Packets are decided one after the other, and what happens to them is counted in families of
samples, which have a text form.
-/
namespace PacketFilter

/-! ## Metrics of a run

A family of samples holds one number for each list of label values that was ever used, in
increasing order of the lists. Counters go up by one at a time; gauges are set to what a table
holds when it is observed. -/

/-- Numbers under label values, in increasing order of the label values. -/
abbrev Samples := List (List String × Nat)

namespace Samples

/-- The number under label values, if they were ever used. -/
def get? (samples : Samples) (labels : List String) : Option Nat := samples.lookup labels

/-- Change the number under label values, which is zero at first. -/
def update (labels : List String) (change : Nat → Nat) : Samples → Samples
  | [] => [(labels, change 0)]
  | (other, value) :: rest =>
    if labels = other then (other, change value) :: rest
    else if labels < other then (labels, change 0) :: (other, value) :: rest
    else (other, value) :: update labels change rest

/-- One more under label values. -/
def bump (samples : Samples) (labels : List String) : Samples := samples.update labels (· + 1)

/-- A number put under label values, in place of any other. -/
def put (samples : Samples) (labels : List String) (value : Nat) : Samples :=
  samples.update labels fun _ => value

end Samples

/-- The numbers of a run. -/
structure Metrics where
  /-- Packets by chain and verdict. -/
  verdicts : Samples
  /-- Packets that were dropped on an error, by kind of error. -/
  evaluationErrors : Samples
  /-- Skipped rule lines, by reason. -/
  skippedLines : Samples
  /-- Rules by chain, as last observed. -/
  chainRules : Samples
  /-- Established flows, as last observed. -/
  establishedConnections : Nat
  deriving DecidableEq, Repr

namespace Metrics

/-- The metrics before a run. -/
def empty : Metrics := ⟨[], [], [], [], 0⟩

/-- Count a verdict of a chain. -/
def recordVerdict (metrics : Metrics) (chain : String) (verdict : Verdict) : Metrics :=
  { metrics with verdicts := metrics.verdicts.bump [chain, verdict.name] }

/-- Count an error. -/
def recordError (metrics : Metrics) (error : TableError) : Metrics :=
  { metrics with evaluationErrors := metrics.evaluationErrors.bump [error.kind] }

/-- Count the skipped lines of a load. -/
def observeLoad (metrics : Metrics) (report : LoadReport) : Metrics :=
  { metrics with
    skippedLines := report.skipped.foldl (fun samples skipped => samples.bump [skipped.reason.kind])
      metrics.skippedLines }

/-- Set the gauges to what a table holds. -/
def observeTable (metrics : Metrics) (table : Table) : Metrics :=
  { metrics with
    chainRules := table.chains.toList.foldl
      (fun samples chain => samples.put [chain.name] chain.size) metrics.chainRules
    establishedConnections := table.tracker.size }

end Metrics

end PacketFilter

namespace PacketFilter.Metrics

/-! ## The text form of metrics

Families are written in the order of their names: a help line, a type line, and one line for each
sample. A family with labels is left out while it has no samples. -/

/-- A label value between its quotes. -/
def escapeLabel (value : String) : String :=
  String.ofList (value.toList.flatMap fun char =>
    if char = '\\' then ['\\', '\\']
    else if char = '"' then ['\\', '"']
    else if char = '\n' then ['\\', 'n']
    else [char])

/-- The labels of a sample with their values, or nothing if there are none. -/
def labelText (names values : List String) : String :=
  if names.isEmpty then ""
  else
    let pairs := (names.zip values).map fun (name, value) =>
      name ++ "=\"" ++ escapeLabel value ++ "\""
    "\x7b" ++ ",".intercalate pairs ++ "\x7d"

/-- One sample. -/
def sampleLine (family : String) (names : List String) (sample : List String × Nat) : String :=
  family ++ labelText names sample.1 ++ " " ++ toString sample.2 ++ "\n"

/-- A family with its samples, or nothing if it has none. -/
def familyText (family help type : String) (names : List String) (samples : Samples) : String :=
  if samples.isEmpty then ""
  else
    "# HELP " ++ family ++ " " ++ help ++ "\n" ++
    "# TYPE " ++ family ++ " " ++ type ++ "\n" ++
    String.join (samples.map (sampleLine family names))

/-- The metrics as text. -/
def render (metrics : Metrics) : String :=
  familyText "iptsim_chain_rules" "Number of rules per chain" "gauge" ["chain"]
    metrics.chainRules ++
  familyText "iptsim_established_connections" "Flows currently tracked as established" "gauge" []
    [([], metrics.establishedConnections)] ++
  familyText "iptsim_evaluation_errors_total" "Evaluations aborted by a traversal error" "counter"
    ["kind"] metrics.evaluationErrors ++
  familyText "iptsim_skipped_lines_total" "Rule file lines that were not applied" "counter"
    ["reason"] metrics.skippedLines ++
  familyText "iptsim_verdicts_total" "Packets evaluated, by chain and verdict" "counter"
    ["chain", "verdict"] metrics.verdicts

end PacketFilter.Metrics

namespace PacketFilter

/-! ## Deciding on packets one after the other

Each packet is decided with the flows that the packets before it established. A packet whose chain
cannot be followed is dropped, and the error is counted. -/

/-- What is left when packets have been decided. -/
structure Simulation where
  /-- The table with the flows that are established now. -/
  table : Table
  /-- The metrics with what was counted. -/
  metrics : Metrics
  /-- The verdicts in the order of the packets. -/
  verdicts : List Verdict

/-- The verdict that the outcome of an evaluation means. -/
def verdictOfResult : Except TableError Evaluation → Verdict
  | .ok evaluation => evaluation.verdict
  | .error _ => .drop

namespace Metrics

/-- Count the outcome of an evaluation: the error, if it is one, and the verdict that it means. -/
def recordResult (metrics : Metrics) (chain : String) (result : Except TableError Evaluation) :
    Metrics :=
  let counted :=
    match result with
    | .ok _ => metrics
    | .error error => metrics.recordError error
  counted.recordVerdict chain (verdictOfResult result)

end Metrics

namespace Simulation

/-- Decide on packets in order by one chain. -/
def run (table : Table) (metrics : Metrics) (chain : String) : List PacketView → Simulation
  | [] => ⟨table, metrics, []⟩
  | view :: rest =>
    let (next, result) := table.evaluate chain view
    let tail := run next (metrics.recordResult chain result) chain rest
    { tail with verdicts := verdictOfResult result :: tail.verdicts }

/-- The verdicts as text, one on a line. -/
def decisions (simulation : Simulation) : String :=
  String.join (simulation.verdicts.map fun verdict => verdict.name ++ "\n")

end Simulation

end PacketFilter
