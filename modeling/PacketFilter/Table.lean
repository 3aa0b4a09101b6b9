import PacketFilter.Chain
import PacketFilter.Event
import PacketFilter.Tracker

/-!
# Tables

A table holds chains and the flows that are established. A command edits one chain, creates one,
or empties them all; one that is refused or has no effect leaves the table as it was.
-/
namespace PacketFilter

/-- The settings of a table. -/
structure TableOptions where
  /-- The greatest number of jumps that may be open at once. -/
  maxJumpDepth : Nat
  /-- The verdict where neither a rule nor a policy decides. -/
  implicitPolicy : Verdict
  /-- The greatest number of established flows. -/
  trackerCapacity : Option Nat
  deriving DecidableEq, Repr

/-- The settings of a table that nobody configured. -/
def TableOptions.standard : TableOptions where
  maxJumpDepth := 32
  implicitPolicy := .accept
  trackerCapacity := none

/-- Chains, established flows, and settings. -/
structure Table where
  /-- The chains by name. -/
  chains : ChainSet
  /-- The established flows. -/
  tracker : Tracker
  /-- The settings. -/
  options : TableOptions

namespace Table

/-- A table without chains and flows. -/
def empty (options : TableOptions) : Table :=
  ⟨.empty, .empty options.trackerCapacity, options⟩

/-- Add a chain under a name that is free. -/
def addChain (table : Table) (chain : Chain) : Except TableError Table :=
  match table.chains.find? chain.name with
  | some _ => .error (.chainExists chain.name)
  | none => .ok { table with chains := table.chains.insert chain }

/-- Edit the chain of a name; an edit that does not happen gives no table. -/
def edit (table : Table) (name : String) (change : Chain → Option Chain) :
    Except TableError (Option Table) :=
  match table.chains.find? name with
  | none => .error (.unknownChain name)
  | some chain =>
    .ok ((change chain).map fun changed => { table with chains := table.chains.insert changed })

/-- An edit at a position counted from one, of which none is before the first. -/
def atPosition (position : Nat) (change : Nat → Option Chain) : Option Chain :=
  match position with
  | 0 => none
  | index + 1 => change index

/-- Carry out a command. The outcome is the changed table, nothing where the command has no
effect, or the reason why it is refused. -/
def apply (table : Table) : Command → Except TableError (Option Table)
  | .newChain name => some <$> table.addChain (.empty name none)
  | .setPolicy name policy => table.edit name fun chain => some (chain.setPolicy policy)
  | .flush none => .ok (some { table with chains := table.chains.flushAll })
  | .flush (some name) => table.edit name fun chain => some chain.flush
  | .append name rule => table.edit name fun chain => some (chain.append rule)
  | .insert name position rule =>
    table.edit name fun chain => atPosition position fun index => chain.insertAt? index rule
  | .deleteAt name position =>
    table.edit name fun chain => atPosition position fun index => chain.deleteAt? index
  | .deleteMatching name rule => table.edit name fun chain => chain.deleteMatching? rule
  | .replace name position rule =>
    table.edit name fun chain => atPosition position fun index => chain.replaceAt? index rule

/-- What is worth telling about an edit at a position; nothing is told of position zero. -/
def positionEvents (position : Nat) (events : Nat → List Event) : List Event :=
  match position with
  | 0 => []
  | index + 1 => events index

/-- What is worth telling about carrying out a command. -/
def applyEvents (table : Table) (command : Command) : List Event :=
  match command.chain?.bind table.chains.find? with
  | none => []
  | some chain =>
    match command with
    | .insert _ position _ => positionEvents position chain.insertEvents
    | .deleteAt _ position => positionEvents position chain.deleteEvents
    | .replace _ position _ => positionEvents position chain.replaceEvents
    | .deleteMatching _ rule => chain.deleteMatchingEvents rule
    | _ => []

end Table

end PacketFilter
