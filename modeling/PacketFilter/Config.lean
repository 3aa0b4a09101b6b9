import PacketFilter.Table
import PacketFilter.Yaml.Node

/-!
# Configuration

A configuration names the chain that is asked by default, the settings of the table, and how
events are written down. All of it is optional, and names that a configuration does not have are
passed over.
-/
namespace PacketFilter

/-- The form in which events are written down. -/
inductive LogFormat where
  /-- Several lines for each event. -/
  | pretty
  /-- One line for each event. -/
  | compact
  /-- One JSON object for each event. -/
  | json
  deriving DecidableEq, Repr

/-- The word for a log format. -/
def LogFormat.name : LogFormat → String
  | pretty => "pretty"
  | compact => "compact"
  | json => "json"

/-- The log format that a word names. -/
def LogFormat.ofName? (word : String) : Option LogFormat :=
  [LogFormat.pretty, .compact, .json].find? (·.name = word)

/-- How packets are decided. -/
structure EvaluationConfig where
  /-- The greatest number of jumps that may be open at once. -/
  maxJumpDepth : Nat
  /-- The verdict where neither a rule nor a policy decides. -/
  implicitPolicy : Verdict
  deriving DecidableEq, Repr

/-- Which events are written down, and how. -/
structure LoggingConfig where
  /-- Which events are written down. -/
  level : String
  /-- How they are written down. -/
  format : LogFormat
  deriving DecidableEq, Repr

/-- The configuration of the program. -/
structure Config where
  /-- The chain that is asked where none is named. -/
  defaultChain : String
  /-- How packets are decided. -/
  evaluation : EvaluationConfig
  /-- The greatest number of established flows. -/
  trackerCapacity : Option Nat
  /-- Which events are written down, and how. -/
  logging : LoggingConfig
  deriving DecidableEq, Repr

namespace Config

/-- The configuration where nothing is configured. -/
def standard : Config where
  defaultChain := "INPUT"
  evaluation := ⟨TableOptions.standard.maxJumpDepth, TableOptions.standard.implicitPolicy⟩
  trackerCapacity := TableOptions.standard.trackerCapacity
  logging := ⟨"info", .pretty⟩

/-- The settings of a table. -/
def tableOptions (config : Config) : TableOptions where
  maxJumpDepth := config.evaluation.maxJumpDepth
  implicitPolicy := config.evaluation.implicitPolicy
  trackerCapacity := config.trackerCapacity

open Yaml

/-- A value from that of its field, or the standard one where the field is not there. The outcome
is nothing where the field is there and cannot be read. -/
def fieldOr {α : Type} (standard : α) (read : Node → Option α) : Option Node → Option α
  | none => some standard
  | some node => read node

/-- How packets are decided, from YAML. -/
def evaluationOfNode? (node : Node) : Option EvaluationConfig :=
  match node.record? ["max_jump_depth", "implicit_policy"] with
  | some [depth, policy] => do
    let depth ← fieldOr standard.evaluation.maxJumpDepth Node.nat? depth
    let policy ← fieldOr standard.evaluation.implicitPolicy
      (fun node => node.text? >>= Verdict.ofName?) policy
    some ⟨depth, policy⟩
  | _ => none

/-- The greatest number of established flows, from YAML. -/
def capacityOfNode? (node : Node) : Option (Option Nat) :=
  match node.record? ["capacity"] with
  | some [capacity] =>
    fieldOr standard.trackerCapacity
      (fun node => if node.isNull then some none else node.nat?.map some) capacity
  | _ => none

/-- Which events are written down and how, from YAML. -/
def loggingOfNode? (node : Node) : Option LoggingConfig :=
  match node.record? ["level", "format"] with
  | some [level, format] => do
    let level ← fieldOr standard.logging.level Node.text? level
    let format ← fieldOr standard.logging.format
      (fun node => node.text? >>= LogFormat.ofName?) format
    some ⟨level, format⟩
  | _ => none

/-- A configuration from YAML. -/
def ofNode? (node : Node) : Option Config :=
  match node.record? ["default_chain", "evaluation", "conntrack", "logging"] with
  | some [chain, evaluation, capacity, logging] => do
    let chain ← fieldOr standard.defaultChain Node.text? chain
    let evaluation ← fieldOr standard.evaluation evaluationOfNode? evaluation
    let capacity ← fieldOr standard.trackerCapacity capacityOfNode? capacity
    let logging ← fieldOr standard.logging loggingOfNode? logging
    some ⟨chain, evaluation, capacity, logging⟩
  | _ => none

/-- The configuration of a YAML text. -/
def ofText? (text : String) : Option Config := Node.ofText? text >>= ofNode?

end Config

end PacketFilter
