import PacketFilter.Rule
import PacketFilter.Table
import PacketFilter.Tracker

/-!
# Deciding on packets

A rule is held against a packet, and the rules of a chain one after the other; a verdict
establishes the flow of an accepted packet.
-/
namespace PacketFilter.Rule

/-! ## When a rule matches a packet

A rule matches when all of its conditions hold. Addresses and ports are compared as text; only
the loopback interface is checked, and it stands for the loopback addresses. -/

/-- The interface that stands for traffic inside the host. -/
def loopbackInterface : String := "lo"

/-- The addresses of the host itself. -/
def loopbackAddresses : List String := ["127.0.0.1", "::1"]

/-- An absent condition holds of every text, and a present one of its own text. -/
def admits (condition : Option String) (actual : String) : Bool :=
  condition.all (· == actual)

/-- The conditions on both ends of a layer; where one is present, so must be the layer. -/
def admitsEnds (source destination : Option String) (ends : Option Endpoints) : Bool :=
  (source.isNone && destination.isNone) ||
    ends.any fun ends => admits source ends.source && admits destination ends.destination

/-- The packet has the layer that the protocol asks for. -/
def matchesProtocol (rule : Rule) (view : PacketView) : Bool :=
  match rule.protocol with
  | .any => true
  | .tcp => view.has .tcp
  | .udp => view.has .udp
  | .icmp => view.has .icmpV4 || view.has .icmpV6

/-- The packet has the addresses that the rule asks for. -/
def matchesAddresses (rule : Rule) (view : PacketView) : Bool :=
  admitsEnds rule.sourceAddress rule.destinationAddress view.network

/-- The packet has the ports that the rule asks for. -/
def matchesPorts (rule : Rule) (view : PacketView) : Bool :=
  admitsEnds rule.sourcePort rule.destinationPort view.transport

/-- The flow of the packet is established, if the rule asks for that. -/
def matchesState (rule : Rule) (view : PacketView) (tracker : Tracker) : Bool :=
  !rule.requireEstablished || (FlowKey.ofView? view).any tracker.isEstablished

/-- One end of the packet is the host itself, if the rule names the loopback interface. -/
def matchesLoopback (rule : Rule) (view : PacketView) : Bool :=
  (rule.inInterface != some loopbackInterface && rule.outInterface != some loopbackInterface) ||
    view.network.any fun ends =>
      loopbackAddresses.contains ends.source || loopbackAddresses.contains ends.destination

/-- All conditions of the rule hold of the packet, given the established flows. -/
def isMatch (rule : Rule) (view : PacketView) (tracker : Tracker) : Bool :=
  rule.matchesProtocol view && rule.matchesAddresses view && rule.matchesPorts view &&
    rule.matchesState view tracker && rule.matchesLoopback view

end PacketFilter.Rule

namespace PacketFilter

/-! ## Deciding on a packet

A packet is held against the rules of a chain in order. The first matching rule with a final
action decides; a log rule is noted and a jump asks another chain, whose verdict counts if it has
one. Where no rule decides, the policy does, and where there is none the asking chain goes on.

A jump to a chain that is being asked already is an error, so the chains being asked form a path
without repetitions, and the walk ends because the table holds finitely many chains. -/

/-- Something that happened on a walk and did not end it. -/
inductive Notice where
  /-- A log rule matched. -/
  | logged (record : LogRecord)
  /-- A chain that was asked did not decide. -/
  | returned (chain target : String)
  /-- A rule without an action matched. -/
  | noAction (chain : String) (position : Nat)
  deriving DecidableEq, Repr

/-- The log record of a notice, if it is one. -/
def Notice.record? : Notice → Option LogRecord
  | logged record => some record
  | _ => none

/-- The event of a notice, for a packet that may belong to a flow. -/
def Notice.event (flow : Option String) : Notice → Event
  | logged record => .packetLogged record flow
  | returned chain target => .returned chain target
  | noAction chain position => .noAction chain position

/-- What a walk comes to: notices on the way, and a verdict, no verdict, or an error. -/
structure Walked where
  /-- What happened on the way, in order. -/
  notices : List Notice
  /-- What the walk came to. -/
  outcome : Except TableError (Option Verdict)

namespace Walked

/-- A walk that ends at once. -/
def done (outcome : Except TableError (Option Verdict)) : Walked := ⟨[], outcome⟩

/-- A walk with notices before its own. -/
def after (walked : Walked) (notices : List Notice) : Walked :=
  { walked with notices := notices ++ walked.notices }

/-- The log records of a walk, in order. -/
def logs (walked : Walked) : List LogRecord := walked.notices.filterMap Notice.record?

end Walked

/-- The verdict on a packet with the log rules that it matched. -/
structure Evaluation where
  /-- The verdict. -/
  verdict : Verdict
  /-- The log rules that matched, in order. -/
  logs : List LogRecord
  deriving DecidableEq, Repr

/-- A stricter condition holds of fewer members if it rules out one of them. -/
theorem countP_lt_of_imp {α : Type} {strict loose : α → Bool} {items : List α} {witness : α}
    (member : witness ∈ items) (imp : ∀ item, strict item = true → loose item = true)
    (ruledOut : strict witness = false) (holds : loose witness = true) :
    items.countP strict < items.countP loose := by
  induction items with
  | nil => simp at member
  | cons item rest ih =>
    have below : rest.countP strict ≤ rest.countP loose :=
      List.countP_mono_left fun other _ => imp other
    simp only [List.countP_cons]
    rcases List.mem_cons.1 member with rfl | within
    · simp only [ruledOut, holds, Bool.false_eq_true, if_false, if_true]
      omega
    · have fewer := ih within
      have step := imp item
      cases held : strict item with
      | false => simp only [Bool.false_eq_true, if_false]; omega
      | true => simp only [step held, if_true]; omega

namespace Table

/-- The number of chains that are not on a path. -/
def unvisited (table : Table) (path : List String) : Nat :=
  table.chains.toList.countP fun chain => chain.name ∉ path

/-- Putting a chain of the table on a path that it is not on leaves fewer chains off the path. -/
theorem unvisited_lt (table : Table) {path : List String} {name : String} {chain : Chain}
    (found : table.chains.find? name = some chain) (fresh : name ∉ path) :
    table.unvisited (path ++ [name]) < table.unvisited path := by
  have named := ChainSet.name_of_find? found
  refine countP_lt_of_imp (ChainSet.mem_of_find? found) (fun other => ?_) ?_ ?_
  · simp +contextual
  · simp [named]
  · simpa [named] using fresh

/-- Hold a packet against the rules of a chain, the first of which has the given position.
`ask` is the walk through a chain of the table that is not on the path. -/
def scan (table : Table) (view : PacketView) (path : List String) (chain : Chain)
    (ask : (target : String) → (next : Chain) → table.chains.find? target = some next →
      target ∉ path → Walked) (position : Nat) : List Rule → Walked
  | [] => .done (.ok chain.policy)
  | rule :: rest =>
    if rule.isMatch view table.tracker then
      match rule.action with
      | some .accept => .done (.ok (some .accept))
      | some .drop | some .reject => .done (.ok (some .drop))
      | some (.log label) =>
        (table.scan view path chain ask (position + 1) rest).after
          [.logged ⟨chain.name, position, label⟩]
      | some (.jump target) =>
        match found : table.chains.find? target with
        | none => .done (.error (.unknownJumpTarget chain.name target))
        | some next =>
          if visited : target ∈ path then .done (.error (.jumpCycle (path ++ [target])))
          else if table.options.maxJumpDepth < path.length then
            .done (.error (.jumpDepthExceeded target table.options.maxJumpDepth))
          else
            let inner := ask target next found visited
            match inner.outcome with
            | .ok none =>
              (table.scan view path chain ask (position + 1) rest).after
                (inner.notices ++ [.returned chain.name target])
            | _ => inner
      | none =>
        (table.scan view path chain ask (position + 1) rest).after
          [.noAction chain.name position]
    else table.scan view path chain ask (position + 1) rest

/-- Walk through a chain. The path holds the chains that are being asked, this one last. -/
def walk (table : Table) (view : PacketView) (path : List String) (chain : Chain) : Walked :=
  table.scan view path chain
    (fun target next _ _ => table.walk view (path ++ [target]) next) 1 chain.rules
termination_by table.unvisited path
decreasing_by
  rename_i found fresh
  exact table.unvisited_lt found fresh

/-- Walk through the chain of a name. -/
def traverse (table : Table) (start : String) (view : PacketView) : Walked :=
  match table.chains.find? start with
  | none => .done (.error (.unknownChain start))
  | some chain => table.walk view [start] chain

/-- The verdict that a walk comes to, given the one that holds where nothing decides. -/
def verdictOf (table : Table) (decided : Option Verdict) : Verdict :=
  decided.getD table.options.implicitPolicy

/-- The flow that a verdict establishes: that of an accepted packet, if it has one. -/
def flowToRecord (verdict : Verdict) (view : PacketView) : Option FlowKey :=
  match verdict with
  | .accept => FlowKey.ofView? view
  | .drop => none

/-- The table once a verdict on a packet stands. -/
def settle (table : Table) (verdict : Verdict) (view : PacketView) : Table :=
  match flowToRecord verdict view with
  | none => table
  | some key => { table with tracker := table.tracker.record key }

/-- Decide on a packet by the chain of a name, and record its flow if it is accepted. An error
leaves the table as it was. -/
def evaluate (table : Table) (start : String) (view : PacketView) :
    Table × Except TableError Evaluation :=
  let walked := table.traverse start view
  match walked.outcome with
  | .error error => (table, .error error)
  | .ok decided =>
    let verdict := table.verdictOf decided
    (table.settle verdict view, .ok ⟨verdict, walked.logs⟩)

/-- Decide on a packet, dropping it if its chain cannot be followed. -/
def process (table : Table) (start : String) (view : PacketView) : Table × Verdict :=
  match table.evaluate start view with
  | (next, .ok evaluation) => (next, evaluation.verdict)
  | (next, .error _) => (next, .drop)

/-- What is worth telling about recording the flow of an accepted packet. -/
def settleEvents (table : Table) (verdict : Verdict) (view : PacketView) : List Event :=
  match flowToRecord verdict view with
  | none => []
  | some key =>
    (table.tracker.evicted key.token).map Event.evicted ++
      if table.tracker.isNew key then [.established key.token] else []

/-- What is worth telling about deciding on a packet. -/
def evaluateEvents (table : Table) (start : String) (view : PacketView) : List Event :=
  let walked := table.traverse start view
  let flow := (FlowKey.ofView? view).map FlowKey.token
  walked.notices.map (Notice.event flow) ++
    match walked.outcome with
    | .error _ => []
    | .ok decided => table.settleEvents (table.verdictOf decided) view

/-- What is worth telling about deciding on a packet that is dropped on an error. -/
def processEvents (table : Table) (start : String) (view : PacketView) : List Event :=
  table.evaluateEvents start view ++
    match (table.traverse start view).outcome with
    | .error error => [.aborted start error]
    | .ok _ => []

end Table

end PacketFilter
