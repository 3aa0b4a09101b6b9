import PacketFilter.Rule

/-!
# Chains and their collections

A chain is an ordered list of rules with a name and an optional policy; a table holds chains by
name.
-/
namespace PacketFilter

/-! ## Chains

A chain is an ordered list of rules with a name and an optional policy. A rule without an action
takes the policy as its action when it enters the chain. An edit at an index that is not there
does not happen; indices are counted from zero. -/

/-- A named list of rules. -/
structure Chain where
  /-- The name under which rules jump to it. -/
  name : String
  /-- The verdict where no rule decides, and the action of rules that come without one. -/
  policy : Option Verdict
  /-- The rules, first to last. -/
  rules : List Rule
  deriving DecidableEq, Repr

namespace Chain

/-- A chain without rules. -/
def empty (name : String) (policy : Option Verdict) : Chain := ⟨name, policy, []⟩

/-- The number of rules. -/
def size (chain : Chain) : Nat := chain.rules.length

/-- A rule as it enters the chain: an unset action becomes the policy, if there is one. -/
def resolve (chain : Chain) (rule : Rule) : Rule :=
  { rule with action := rule.action <|> chain.policy.map Action.ofVerdict }

/-- Add a rule at the end. -/
def append (chain : Chain) (rule : Rule) : Chain :=
  { chain with rules := chain.rules ++ [chain.resolve rule] }

/-- Add a rule before the one at an index; the index after the last rule adds at the end. -/
def insertAt? (chain : Chain) (index : Nat) (rule : Rule) : Option Chain :=
  if index ≤ chain.size then
    some { chain with rules := chain.rules.insertIdx index (chain.resolve rule) }
  else none

/-- Remove the rule at an index. -/
def deleteAt? (chain : Chain) (index : Nat) : Option Chain :=
  if index < chain.size then some { chain with rules := chain.rules.eraseIdx index } else none

/-- Remove the first rule equal to a given one. -/
def deleteMatching? (chain : Chain) (rule : Rule) : Option Chain :=
  if rule ∈ chain.rules then some { chain with rules := chain.rules.erase rule } else none

/-- Put a rule in the place of the one at an index. -/
def replaceAt? (chain : Chain) (index : Nat) (rule : Rule) : Option Chain :=
  if index < chain.size then
    some { chain with rules := chain.rules.set index (chain.resolve rule) }
  else none

/-- Remove all rules and keep the policy. -/
def flush (chain : Chain) : Chain := { chain with rules := [] }

/-- Set the policy; rules already in the chain keep their actions. -/
def setPolicy (chain : Chain) (policy : Verdict) : Chain := { chain with policy := some policy }

/-- Make a verdict the action of every rule; the policy stays. -/
def overrule (chain : Chain) (verdict : Verdict) : Chain :=
  { chain with
    rules := chain.rules.map fun rule => { rule with action := some (Action.ofVerdict verdict) } }

end Chain

/-! ## The chains of a table

Chains are kept in increasing order of their names, so each name occurs once and equal collections
of chains are equal as lists. Names are ordered by code points. -/

/-- Chains in increasing order of their names. -/
structure ChainSet where
  /-- The chains, in that order. -/
  toList : List Chain
  /-- Each name is less than all names after it. -/
  ordered : toList.Pairwise fun left right => left.name < right.name

namespace ChainSet

/-- Put a chain at its place in an ordered list, over one of the same name. -/
def place (chain : Chain) : List Chain → List Chain
  | [] => [chain]
  | other :: rest =>
    if chain.name < other.name then chain :: other :: rest
    else if other.name = chain.name then chain :: rest
    else other :: place chain rest

/-- What is in the list after placing a chain was there before or is that chain. -/
theorem mem_of_mem_place {chain member : Chain} {chains : List Chain}
    (within : member ∈ place chain chains) : member = chain ∨ member ∈ chains := by
  induction chains with
  | nil => simpa [place] using within
  | cons other rest ih =>
    unfold place at within
    split at within
    · simpa using within
    · split at within
      · rcases List.mem_cons.1 within with same | below
        · exact .inl same
        · exact .inr (List.mem_cons_of_mem _ below)
      · rcases List.mem_cons.1 within with rfl | below
        · exact .inr List.mem_cons_self
        · exact (ih below).imp_right (List.mem_cons_of_mem _)

/-- Placing a chain keeps the order. -/
theorem ordered_place (chain : Chain) {chains : List Chain}
    (ordered : chains.Pairwise fun left right => left.name < right.name) :
    (place chain chains).Pairwise fun left right => left.name < right.name := by
  induction chains with
  | nil => simp [place]
  | cons other rest ih =>
    obtain ⟨first, later⟩ := List.pairwise_cons.1 ordered
    unfold place
    split
    · next before =>
      refine List.pairwise_cons.2 ⟨fun member within => ?_, ordered⟩
      rcases List.mem_cons.1 within with rfl | below
      · exact before
      · exact String.lt_trans before (first member below)
    · next notBefore =>
      split
      · next same => exact List.pairwise_cons.2 ⟨same ▸ first, later⟩
      · next differs =>
        refine List.pairwise_cons.2 ⟨fun member within => ?_, ih later⟩
        rcases mem_of_mem_place within with rfl | below
        · exact Classical.byContradiction fun notAfter => differs
            (String.le_antisymm (String.not_lt.1 notBefore) (String.not_lt.1 notAfter))
        · exact first member below

/-- No chains. -/
def empty : ChainSet := ⟨[], .nil⟩

/-- The chain of a name. -/
def find? (chains : ChainSet) (name : String) : Option Chain :=
  chains.toList.find? (·.name == name)

/-- The chains with one added, over any of the same name. -/
def insert (chains : ChainSet) (chain : Chain) : ChainSet :=
  ⟨place chain chains.toList, ordered_place chain chains.ordered⟩

/-- The chains with all rules removed. -/
def flushAll (chains : ChainSet) : ChainSet :=
  ⟨chains.toList.map Chain.flush, by
    rw [List.pairwise_map]
    exact chains.ordered⟩

/-- The number of chains. -/
def size (chains : ChainSet) : Nat := chains.toList.length

/-- A chain that is found has the name it was looked up by. -/
theorem name_of_find? {chains : ChainSet} {name : String} {chain : Chain}
    (found : chains.find? name = some chain) : chain.name = name := by
  simpa using List.find?_some found

/-- A chain that is found is one of the chains. -/
theorem mem_of_find? {chains : ChainSet} {name : String} {chain : Chain}
    (found : chains.find? name = some chain) : chain ∈ chains.toList :=
  List.mem_of_find?_eq_some found

/-- Placing a chain changes what is found under its own name only. -/
theorem find?_insert (chains : ChainSet) (chain : Chain) (name : String) :
    (chains.insert chain).find? name =
      if chain.name = name then some chain else chains.find? name := by
  obtain ⟨chains, _⟩ := chains
  simp only [find?, insert]
  induction chains with
  | nil => by_cases same : chain.name = name <;> simp [place, same]
  | cons other rest ih =>
    have tail := ih (by simp_all)
    unfold place
    by_cases same : chain.name = name
    · split
      · simp [same]
      · split
        · simp [same]
        · next differs =>
          have : (other.name == name) = false := by simpa [← same] using differs
          simp only [List.find?_cons, this, tail, same, if_true]
    · have : (chain.name == name) = false := by simpa using same
      split
      · simp [List.find?_cons, this]
      · split
        · next twin =>
          have : (other.name == name) = false := by simpa [twin] using same
          simp [this, same]
        · simp only [List.find?_cons, tail, same, if_false]

/-- Removing all rules does so under every name. -/
theorem find?_flushAll (chains : ChainSet) (name : String) :
    chains.flushAll.find? name = (chains.find? name).map Chain.flush := by
  simp only [find?, flushAll, List.find?_map]
  rfl

/-- No chain behind the first one of an ordered list has its name. -/
theorem find?_eq_none_of_ordered {first : Chain} {rest : List Chain}
    (below : ∀ chain ∈ rest, first.name < chain.name) : rest.find? (·.name == first.name) = none := by
  refine List.find?_eq_none.2 fun chain within same => ?_
  have smaller := below chain within
  rw [beq_iff_eq.1 same] at smaller
  exact String.lt_irrefl _ smaller

/-- Collections in which the same is found under every name are the same. -/
theorem ext_find? {left right : ChainSet}
    (alike : ∀ name, left.find? name = right.find? name) : left = right := by
  obtain ⟨left, ordered⟩ := left
  obtain ⟨right, orderedToo⟩ := right
  congr
  simp only [find?] at alike
  induction left generalizing right with
  | nil =>
    cases right with
    | nil => rfl
    | cons first rest => simpa using alike first.name
  | cons first rest ih =>
    cases right with
    | nil => simpa using alike first.name
    | cons other others =>
      obtain ⟨below, later⟩ := List.pairwise_cons.1 ordered
      obtain ⟨belowToo, laterToo⟩ := List.pairwise_cons.1 orderedToo
      have onTheRight : first ∈ other :: others :=
        List.mem_of_find?_eq_some ((alike first.name).symm.trans (by simp))
      have onTheLeft : other ∈ first :: rest :=
        List.mem_of_find?_eq_some ((alike other.name).trans (by simp))
      -- Each of the two first chains has the least name of both lists.
      obtain rfl : first = other := by
        rcases List.mem_cons.1 onTheRight with same | behind
        · exact same
        · rcases List.mem_cons.1 onTheLeft with same | behindToo
          · exact same.symm
          · have cycle := String.lt_trans (belowToo first behind) (below other behindToo)
            exact absurd cycle (String.lt_irrefl _)
      have same : rest = others := by
        refine ih later others laterToo fun name => ?_
        by_cases isFirst : first.name = name
        · subst isFirst
          rw [find?_eq_none_of_ordered below, find?_eq_none_of_ordered belowToo]
        · simpa [isFirst] using alike name
      rw [same]

end ChainSet

end PacketFilter
