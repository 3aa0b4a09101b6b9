import PacketFilter.Rule

/-!
# Commands and what can go wrong with them

A line of a rule file holds at most one command. A line may fail to be one, and a table may fail to
carry it out.
-/
namespace PacketFilter

/-! ## Commands of a rule file

A line of a rule file holds at most one command: a verb, the chain it works on, and what the verb
needs besides. Positions are counted from one, as they are written. -/

/-- What a command does. -/
inductive Verb where
  /-- Set the policy of a chain. -/
  | policy
  /-- Create a chain. -/
  | newChain
  /-- Remove the rules of a chain, or of all chains. -/
  | flush
  /-- Add a rule at the end. -/
  | append
  /-- Add a rule at a position. -/
  | insert
  /-- Remove a rule. -/
  | delete
  /-- Put a rule in the place of another. -/
  | replace
  deriving DecidableEq, Repr

namespace Verb

/-- The short spelling. -/
def flag : Verb → String
  | policy => "-P"
  | newChain => "-N"
  | flush => "-F"
  | append => "-A"
  | insert => "-I"
  | delete => "-D"
  | replace => "-R"

/-- The long spelling. -/
def longFlag : Verb → String
  | policy => "--policy"
  | newChain => "--new-chain"
  | flush => "--flush"
  | append => "--append"
  | insert => "--insert"
  | delete => "--delete"
  | replace => "--replace"

/-- All verbs. -/
def all : List Verb := [policy, newChain, flush, append, insert, delete, replace]

/-- The verb that a word spells. -/
def ofWord? (word : String) : Option Verb :=
  all.find? fun verb => word = verb.flag || word = verb.longFlag

/-- Both spellings of a verb are read as that verb. -/
theorem ofWord?_flag (verb : Verb) :
    ofWord? verb.flag = some verb ∧ ofWord? verb.longFlag = some verb := by
  cases verb <;> decide

end Verb

/-- One command of a rule file. -/
inductive Command where
  /-- Create an empty chain. -/
  | newChain (chain : String)
  /-- Set the policy of a chain. -/
  | setPolicy (chain : String) (policy : Verdict)
  /-- Remove the rules of the named chain, or of every chain. -/
  | flush (chain : Option String)
  /-- Add a rule at the end of a chain. -/
  | append (chain : String) (rule : Rule)
  /-- Add a rule before the one at a position. -/
  | insert (chain : String) (position : Nat) (rule : Rule)
  /-- Remove the rule at a position. -/
  | deleteAt (chain : String) (position : Nat)
  /-- Remove the first rule equal to the given one. -/
  | deleteMatching (chain : String) (rule : Rule)
  /-- Put a rule in the place of the one at a position. -/
  | replace (chain : String) (position : Nat) (rule : Rule)
  deriving DecidableEq, Repr

namespace Command

/-- The verb of a command. -/
def verb : Command → Verb
  | newChain _ => .newChain
  | setPolicy _ _ => .policy
  | flush _ => .flush
  | append _ _ => .append
  | insert _ _ _ => .insert
  | deleteAt _ _ => .delete
  | deleteMatching _ _ => .delete
  | replace _ _ _ => .replace

/-- The chain that a command names, if it names one. -/
def chain? : Command → Option String
  | newChain chain => some chain
  | setPolicy chain _ => some chain
  | flush chain => chain
  | append chain _ => some chain
  | insert chain _ _ => some chain
  | deleteAt chain _ => some chain
  | deleteMatching chain _ => some chain
  | replace chain _ _ => some chain

end Command

/-! ## What can go wrong with a rule line or a table

`ParseError` says why a line is no command, `TableError` why a table cannot carry out a command or
decide on a packet. Each is a cause; the wording is in its `message`. -/

/-- Why a line that starts a command does not hold one. -/
inductive ParseError where
  /-- A rule needs a verb, a chain and at least one more word. -/
  | tooShort (words : Nat)
  /-- The verb stands alone. -/
  | missingChain (verb : Verb)
  /-- The word after the verb is no chain name. -/
  | invalidChainName (word : String)
  /-- The verb needs a position and none follows the chain. -/
  | missingIndex (verb : Verb)
  /-- The position is beyond the machine's numbers. -/
  | invalidIndex (word : String)
  /-- No policy follows the chain. -/
  | missingPolicy
  /-- The word after the chain is no policy. -/
  | invalidPolicy (word : String)
  /-- The protocol, in upper case, is not one that rules know. -/
  | unsupportedProtocol (word : String)
  deriving DecidableEq, Repr

/-- The wording of a parse error. -/
def ParseError.message : ParseError → String
  | tooShort words => "rule needs at least 3 tokens, found " ++ toString words
  | missingChain verb => verb.flag ++ " is missing a chain name"
  | invalidChainName word => "invalid chain name '" ++ word ++ "'"
  | missingIndex verb => verb.flag ++ " requires a rule index"
  | invalidIndex word => "invalid rule index '" ++ word ++ "'"
  | missingPolicy => "-P is missing a policy"
  | invalidPolicy word => "invalid policy '" ++ word ++ "', expected ACCEPT or DROP"
  | unsupportedProtocol word => "unsupported protocol '" ++ word ++ "'"

/-- Why a table cannot do what it is asked. -/
inductive TableError where
  /-- The named chain is not in the table. -/
  | unknownChain (chain : String)
  /-- The chain to create is already there. -/
  | chainExists (chain : String)
  /-- A matching rule jumps to a chain that is not there. -/
  | unknownJumpTarget (source target : String)
  /-- A matching rule jumps to a chain that is being asked already; the path ends with it. -/
  | jumpCycle (path : List String)
  /-- A matching rule jumps to a chain when as many jumps as allowed are open. -/
  | jumpDepthExceeded (chain : String) (limit : Nat)
  deriving DecidableEq, Repr

namespace TableError

/-- The wording of a table error. -/
def message : TableError → String
  | unknownChain chain => "chain " ++ chain ++ " does not exist"
  | chainExists chain => "chain " ++ chain ++ " already exists"
  | unknownJumpTarget source target =>
    "chain " ++ source ++ " jumps to " ++ target ++ ", which does not exist"
  | jumpCycle path => "jump cycle detected: " ++ " -> ".intercalate path
  | jumpDepthExceeded chain limit =>
    "jump depth limit of " ++ toString limit ++ " exceeded entering chain " ++ chain

/-- The label under which a table error is counted. -/
def kind : TableError → String
  | unknownChain _ => "unknown_chain"
  | chainExists _ => "chain_exists"
  | unknownJumpTarget _ _ => "unknown_jump_target"
  | jumpCycle _ => "jump_cycle"
  | jumpDepthExceeded _ _ => "jump_depth_exceeded"

/-- The same went wrong, with any chains. -/
inductive SameKind : TableError → TableError → Prop
  /-- A chain is not in the table. -/
  | unknownChain (first second : String) : SameKind (.unknownChain first) (.unknownChain second)
  /-- A chain is already there. -/
  | chainExists (first second : String) : SameKind (.chainExists first) (.chainExists second)
  /-- A jump leads to a chain that is not there. -/
  | unknownJumpTarget (first firstTarget second secondTarget : String) :
      SameKind (.unknownJumpTarget first firstTarget) (.unknownJumpTarget second secondTarget)
  /-- A jump leads around in a cycle. -/
  | jumpCycle (first second : List String) : SameKind (.jumpCycle first) (.jumpCycle second)
  /-- A jump leads too deep. -/
  | jumpDepthExceeded (first : String) (firstLimit : Nat) (second : String) (secondLimit : Nat) :
      SameKind (.jumpDepthExceeded first firstLimit) (.jumpDepthExceeded second secondLimit)

/-- Errors have the same label just if the same went wrong. -/
theorem kind_eq_kind_iff {left right : TableError} :
    left.kind = right.kind ↔ left.SameKind right := by
  constructor
  · intro same
    cases left <;> cases right <;> first | constructor | simp [kind] at same
  · intro same
    cases same <;> rfl

/-- Whether the same went wrong can be read off the labels. -/
instance (left right : TableError) : Decidable (left.SameKind right) :=
  decidable_of_iff _ kind_eq_kind_iff

end TableError

end PacketFilter
