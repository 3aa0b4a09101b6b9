import PacketFilter.Chain
import PacketFilter.Command

/-!
# Events

An event is something worth telling while rules are loaded or packets are decided. Events are
values: what causes them lists them, and whoever wants a log writes them down.
-/
namespace PacketFilter

/-- A log rule that matched a packet. -/
structure LogRecord where
  /-- The chain of the rule. -/
  chain : String
  /-- The place of the rule in its chain, counted from one. -/
  position : Nat
  /-- The label of the rule. -/
  label : String
  deriving DecidableEq, Repr

/-- An edit of a chain at an index. -/
inductive IndexEdit where
  /-- Add a rule before the index. -/
  | insert
  /-- Remove the rule at the index. -/
  | delete
  /-- Put another rule at the index. -/
  | replace
  deriving DecidableEq, Repr

/-- The word for an edit. -/
def IndexEdit.name : IndexEdit → String
  | insert => "insert"
  | delete => "delete"
  | replace => "replace"

/-- How much an event matters. -/
inductive Level where
  /-- A detail. -/
  | debug
  /-- Ordinary news. -/
  | info
  /-- Something was passed over. -/
  | warn
  /-- Something failed. -/
  | error
  deriving DecidableEq, Repr

/-- The word for a level. -/
def Level.name : Level → String
  | debug => "DEBUG"
  | info => "INFO"
  | warn => "WARN"
  | error => "ERROR"

/-- Something worth telling. -/
inductive Event where
  /-- An edit named an index that the chain does not have. -/
  | indexOutOfRange (edit : IndexEdit) (chain : String) (index size : Nat)
  /-- No rule of the chain equals the one to remove. -/
  | noEqualRule (chain : String) (rule : Rule)
  /-- A flow made room for another. -/
  | evicted (flow : String)
  /-- A flow that was not held became established. -/
  | established (flow : String)
  /-- A log rule matched a packet, which may belong to a flow. -/
  | packetLogged (record : LogRecord) (flow : Option String)
  /-- A chain was asked and decided nothing. -/
  | returned (chain target : String)
  /-- A matching rule has no action. -/
  | noAction (chain : String) (position : Nat)
  /-- A packet was dropped because its chain could not be followed. -/
  | aborted (chain : String) (error : TableError)
  /-- A rule file is about to be read. -/
  | loading (path : String)
  /-- A line starts a command and does not hold one. -/
  | malformedLine (line : Nat) (error : ParseError)
  /-- A command was refused. -/
  | refusedLine (line : Nat) (verb : Verb) (error : TableError)
  /-- A command changed nothing. -/
  | noEffect (line : Nat) (verb : Verb)
  deriving DecidableEq, Repr

namespace Event

/-- How much an event matters. -/
def level : Event → Level
  | indexOutOfRange .. | noEqualRule .. | evicted _ | established _ | returned .. | noEffect .. =>
    .debug
  | packetLogged .. | loading _ => .info
  | noAction .. | malformedLine .. | refusedLine .. => .warn
  | aborted .. => .error

/-- The wording of an event, the same for all events of its form. -/
def message : Event → String
  | indexOutOfRange edit _ _ _ => edit.name ++ " index out of range"
  | noEqualRule .. => "no rule equal to delete target"
  | evicted _ => "evicted established connection"
  | established _ => "recorded established connection"
  | packetLogged .. => "packet logged"
  | returned .. => "returned from chain without policy"
  | noAction .. => "rule has no action and its chain has no default policy, ignoring"
  | aborted .. => "evaluation aborted"
  | loading _ => "loading rules"
  | malformedLine .. => "skipping malformed rule line"
  | refusedLine .. => "skipping rule line"
  | noEffect .. => "command had no effect"

/-- The particulars of an event, by name. -/
def fields : Event → List (String × String)
  | indexOutOfRange _ chain index size =>
    [("chain", chain), ("index", toString index), ("len", toString size)]
  | noEqualRule chain rule => [("chain", chain), ("rule", rule.text)]
  | evicted flow => [("flow", flow)]
  | established flow => [("flow", flow)]
  | packetLogged record flow =>
    [("prefix", record.label), ("chain", record.chain), ("rule", toString record.position),
      ("flow", flow.getD "-")]
  | returned chain target => [("chain", chain), ("target", target)]
  | noAction chain position => [("chain", chain), ("rule", toString position)]
  | aborted chain error => [("chain", chain), ("kind", error.kind), ("error", error.message)]
  | loading path => [("path", path)]
  | malformedLine line error => [("line", toString line), ("error", error.message)]
  | refusedLine line verb error =>
    [("line", toString line), ("verb", verb.flag), ("error", error.message)]
  | noEffect line verb => [("line", toString line), ("verb", verb.flag)]

end Event

namespace Chain

/-- What is worth telling about adding a rule at an index. -/
def insertEvents (chain : Chain) (index : Nat) : List Event :=
  if index ≤ chain.size then [] else [.indexOutOfRange .insert chain.name index chain.size]

/-- What is worth telling about removing the rule at an index. -/
def deleteEvents (chain : Chain) (index : Nat) : List Event :=
  if index < chain.size then [] else [.indexOutOfRange .delete chain.name index chain.size]

/-- What is worth telling about replacing the rule at an index. -/
def replaceEvents (chain : Chain) (index : Nat) : List Event :=
  if index < chain.size then [] else [.indexOutOfRange .replace chain.name index chain.size]

/-- What is worth telling about removing the first rule equal to a given one. -/
def deleteMatchingEvents (chain : Chain) (rule : Rule) : List Event :=
  if rule ∈ chain.rules then [] else [.noEqualRule chain.name rule]

end Chain

end PacketFilter
