/-!
# Rules

A rule says which packets it is about and what happens to them: a verdict, a note, or a question to
another chain.
-/
namespace PacketFilter

/-! ## Verdicts

A packet is accepted or dropped. A chain's policy is a verdict too. -/

/-- The decision on a packet. -/
inductive Verdict where
  /-- Let the packet pass. -/
  | accept
  /-- Discard the packet. -/
  | drop
  deriving DecidableEq, Repr

/-- The word for a verdict in rule files, decisions and metrics. -/
def Verdict.name : Verdict → String
  | accept => "ACCEPT"
  | drop => "DROP"

/-- The verdict that a word names, in exactly this case. -/
def Verdict.ofName? (word : String) : Option Verdict :=
  if word = "ACCEPT" then some .accept
  else if word = "DROP" then some .drop
  else none

/-- Reading the word of a verdict gives the verdict back. -/
@[simp] theorem Verdict.ofName?_name (verdict : Verdict) :
    Verdict.ofName? verdict.name = some verdict := by
  cases verdict <;> rfl

/-! ## Protocols a rule can ask for -/

/-- The protocol that a rule restricts itself to. -/
inductive Protocol where
  /-- Every protocol. -/
  | any
  /-- TCP. -/
  | tcp
  /-- UDP. -/
  | udp
  /-- ICMP of either version. -/
  | icmp
  deriving DecidableEq, Repr

/-- The word for a protocol in rule text. -/
def Protocol.name : Protocol → String
  | any => "all"
  | tcp => "tcp"
  | udp => "udp"
  | icmp => "icmp"

/-- The protocol that a word names, in any mix of ASCII upper and lower case. -/
def Protocol.ofName? (word : String) : Option Protocol :=
  let upper := word.toUpper
  if upper = "ALL" then some .any
  else if upper = "TCP" then some .tcp
  else if upper = "UDP" then some .udp
  else if upper = "ICMP" then some .icmp
  else none

/-- Reading the word of a protocol gives the protocol back. -/
@[simp] theorem Protocol.ofName?_name (protocol : Protocol) :
    Protocol.ofName? protocol.name = some protocol := by
  cases protocol <;> decide +kernel

/-! ## Rules

A rule says which packets it is about and what happens to them. An absent condition holds of every
packet. A rule is written as the flags that it would have in a rule file. -/

/-- What happens to a packet that a rule matches. -/
inductive Action where
  /-- Let it pass. -/
  | accept
  /-- Discard it. -/
  | drop
  /-- Refuse it, which decides like discarding it. -/
  | reject
  /-- Note it under a label and go on with the next rule. -/
  | log (label : String)
  /-- Ask another chain. -/
  | jump (target : String)
  deriving DecidableEq, Repr

/-- The action that carries out a policy. -/
def Action.ofVerdict : Verdict → Action
  | .accept => .accept
  | .drop => .drop

/-- The written form of an action, as the operand of the jump flag. A label is quoted without
escapes and left out when it is empty. -/
def Action.text : Action → String
  | accept => "ACCEPT"
  | drop => "DROP"
  | reject => "REJECT"
  | log label => if label = "" then "LOG" else "LOG --log-prefix \"" ++ label ++ "\""
  | jump target => target

/-- The action that carries out a policy is written as the policy. -/
@[simp] theorem Action.text_ofVerdict (verdict : Verdict) :
    (Action.ofVerdict verdict).text = verdict.name := by
  cases verdict <;> rfl

/-- The conditions and the action of one entry of a chain. -/
structure Rule where
  /-- The protocol the packet must have. -/
  protocol : Protocol
  /-- The address it must come from. -/
  sourceAddress : Option String
  /-- The address it must go to. -/
  destinationAddress : Option String
  /-- The port it must come from. -/
  sourcePort : Option String
  /-- The port it must go to. -/
  destinationPort : Option String
  /-- The interface it must come in by. -/
  inInterface : Option String
  /-- The interface it must go out by. -/
  outInterface : Option String
  /-- What happens to the packet; the chain's policy decides where it is unset. -/
  action : Option Action
  /-- Whether its flow must be established. -/
  requireEstablished : Bool
  deriving DecidableEq, Repr

namespace Rule

/-- The rule without conditions and without an action. -/
def wildcard : Rule where
  protocol := .any
  sourceAddress := none
  destinationAddress := none
  sourcePort := none
  destinationPort := none
  inInterface := none
  outInterface := none
  action := none
  requireEstablished := false

/-- A flag and its operand, if there is one to write. -/
def flagText (flag : String) (operand : Option String) : List String :=
  (operand.map fun text => flag ++ " " ++ text).toList

/-- The written parts of a rule, in the order in which they are written. -/
def parts (rule : Rule) : List String :=
  flagText "-p" (if rule.protocol = .any then none else some rule.protocol.name) ++
  flagText "-s" rule.sourceAddress ++
  flagText "--sport" rule.sourcePort ++
  flagText "-d" rule.destinationAddress ++
  flagText "--dport" rule.destinationPort ++
  flagText "-i" rule.inInterface ++
  flagText "-o" rule.outInterface ++
  (if rule.requireEstablished then ["-m conntrack --ctstate ESTABLISHED"] else []) ++
  flagText "-j" (rule.action.map Action.text)

/-- The written form of a rule: its parts joined by single spaces. -/
def text (rule : Rule) : String := " ".intercalate rule.parts

end Rule

end PacketFilter
