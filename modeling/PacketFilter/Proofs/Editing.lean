import PacketFilter.Proofs.History
import PacketFilter.Proofs.Loading

/-!
# What a command does to the chains

A command that edits a chain is an edit of its list of rules at a position counted from one, or of
its policy. `Chain.EditedBy` says what the list is cut into and put together from, `Chain.Admits`
when there is such an edit at all, and `CommandOutcome` what becomes of the table: an edit that has
no place, and a command that is refused, leave everything as it was, and no other chain changes.
-/
namespace PacketFilter

/-- A rule as it stands in a chain with a policy: where it has no action, it accepts or drops as the
policy does, if there is one. -/
def Rule.under (policy : Option Verdict) (rule : Rule) : Rule :=
  match rule.action, policy with
  | none, some .accept => { rule with action := some .accept }
  | none, some .drop => { rule with action := some .drop }
  | _, _ => rule

/-- A rule enters a chain as it stands under the policy of the chain. -/
theorem Chain.resolve_eq_under (chain : Chain) (rule : Rule) :
    chain.resolve rule = rule.under chain.policy := by
  obtain ⟨name, policy, rules⟩ := chain
  obtain ⟨_, _, _, _, _, _, _, action, _⟩ := rule
  match action, policy with
  | some _, _ | none, none | none, some .accept | none, some .drop => rfl

/-- The chain that has to be there for a command to be carried out. -/
def Command.edited? : Command → Option String
  | .newChain _ | .flush none => none
  | .flush (some name) | .setPolicy name _ | .append name _ | .insert name _ _ | .deleteAt name _
  | .deleteMatching name _ | .replace name _ _ => some name

/-- A command that edits a chain names it. -/
theorem Command.chain?_of_edited? {command : Command} {name : String}
    (edits : command.edited? = some name) : command.chain? = some name := by
  cases command with
  | newChain => cases edits
  | flush target =>
    cases target with
    | none => cases edits
    | some chain => exact edits
  | setPolicy | append | insert | deleteAt | deleteMatching | replace => exact edits

/-- A command that edits no chain creates one or empties all of them. -/
theorem Command.eq_of_edited?_eq_none {command : Command} (edits : command.edited? = none) :
    (∃ name, command = .newChain name) ∨ command = .flush none := by
  cases command with
  | newChain name => exact .inl ⟨name, rfl⟩
  | flush target =>
    cases target with
    | none => exact .inr rfl
    | some name => cases edits
  | setPolicy | append | insert | deleteAt | deleteMatching | replace => cases edits

/-- The edit of the chain that a command names. -/
def Command.edit : Command → Chain → Option Chain
  | .newChain _, _ | .flush none, _ => none
  | .flush (some _), chain => some chain.flush
  | .setPolicy _ policy, chain => some (chain.setPolicy policy)
  | .append _ rule, chain => some (chain.append rule)
  | .insert _ position rule, chain =>
    Table.atPosition position fun index => chain.insertAt? index rule
  | .deleteAt _ position, chain => Table.atPosition position fun index => chain.deleteAt? index
  | .deleteMatching _ rule, chain => chain.deleteMatching? rule
  | .replace _ position rule, chain =>
    Table.atPosition position fun index => chain.replaceAt? index rule

namespace Chain

/-- A chain has what a command needs: the position is there, or the rule to delete. -/
def Admits (chain : Chain) : Command → Prop
  | .insert _ position _ => 1 ≤ position ∧ position ≤ chain.rules.length + 1
  | .deleteAt _ position | .replace _ position _ =>
    1 ≤ position ∧ position ≤ chain.rules.length
  | .deleteMatching _ rule => rule ∈ chain.rules
  | _ => True

/-- What a command makes of the chain that it names. A rule with so many rules before it stands at
the position after them. -/
inductive EditedBy (chain : Chain) : Command → Chain → Prop
  /-- The policy is set and nothing else. -/
  | setPolicy {name : String} {policy : Verdict} :
      EditedBy chain (.setPolicy name policy) ⟨chain.name, some policy, chain.rules⟩
  /-- The rules are gone. -/
  | flush {name : String} : EditedBy chain (.flush (some name)) ⟨chain.name, chain.policy, []⟩
  /-- The rule is the last one. -/
  | append {name : String} {rule : Rule} :
      EditedBy chain (.append name rule)
        ⟨chain.name, chain.policy, chain.rules ++ [rule.under chain.policy]⟩
  /-- The rule stands at the position, between the others. -/
  | insert {name : String} {rule : Rule} {before after : List Rule}
      (cut : chain.rules = before ++ after) :
      EditedBy chain (.insert name (before.length + 1) rule)
        ⟨chain.name, chain.policy, before ++ rule.under chain.policy :: after⟩
  /-- The rule at the position is gone. -/
  | deleteAt {name : String} {old : Rule} {before after : List Rule}
      (cut : chain.rules = before ++ old :: after) :
      EditedBy chain (.deleteAt name (before.length + 1))
        ⟨chain.name, chain.policy, before ++ after⟩
  /-- The first rule that is equal to the given one is gone. -/
  | deleteMatching {name : String} {rule : Rule} {before after : List Rule}
      (cut : chain.rules = before ++ rule :: after) (first : rule ∉ before) :
      EditedBy chain (.deleteMatching name rule) ⟨chain.name, chain.policy, before ++ after⟩
  /-- The rule stands in the place of the one at the position. -/
  | replace {name : String} {rule old : Rule} {before after : List Rule}
      (cut : chain.rules = before ++ old :: after) :
      EditedBy chain (.replace name (before.length + 1) rule)
        ⟨chain.name, chain.policy, before ++ rule.under chain.policy :: after⟩

variable {chain changed : Chain}

/-- An edit keeps the name. -/
theorem EditedBy.name_eq {command : Command} (edited : chain.EditedBy command changed) :
    changed.name = chain.name := by
  cases edited <;> rfl

/-- An edit keeps the policy, unless it sets it. -/
theorem EditedBy.policy_eq {command : Command} (edited : chain.EditedBy command changed)
    (keeps : ∀ name policy, command ≠ .setPolicy name policy) :
    changed.policy = chain.policy := by
  cases edited with
  | setPolicy => exact absurd rfl (keeps _ _)
  | flush | append | insert | deleteAt | deleteMatching | replace => rfl

/-- A rule is inserted where the list of rules is cut. -/
theorem insertAt?_of_cut {before after : List Rule} (rule : Rule)
    (cut : chain.rules = before ++ after) :
    chain.insertAt? before.length rule =
      some ⟨chain.name, chain.policy, before ++ rule.under chain.policy :: after⟩ := by
  have inside : before.length ≤ chain.size := by
    rw [size, cut, List.length_append]
    omega
  have inserted : ∀ front : List Rule,
      (front ++ after).insertIdx front.length (rule.under chain.policy) =
        front ++ rule.under chain.policy :: after := by
    intro front
    induction front with
    | nil => rfl
    | cons first rest ih => exact congrArg (first :: ·) ih
  rw [insertAt?, if_pos inside, resolve_eq_under, cut, inserted]

/-- The rule between two parts of the list of rules is removed. -/
theorem deleteAt?_of_cut {before after : List Rule} {old : Rule}
    (cut : chain.rules = before ++ old :: after) :
    chain.deleteAt? before.length = some ⟨chain.name, chain.policy, before ++ after⟩ := by
  have inside : before.length < chain.size := by
    rw [size, cut, List.length_append, List.length_cons]
    omega
  rw [deleteAt?, if_pos inside, cut, List.eraseIdx_append_of_length_le (Nat.le_refl _),
    Nat.sub_self, List.eraseIdx_cons_zero]

/-- The rule between two parts of the list of rules is replaced. -/
theorem replaceAt?_of_cut {before after : List Rule} {old : Rule} (rule : Rule)
    (cut : chain.rules = before ++ old :: after) :
    chain.replaceAt? before.length rule =
      some ⟨chain.name, chain.policy, before ++ rule.under chain.policy :: after⟩ := by
  have inside : before.length < chain.size := by
    rw [size, cut, List.length_append, List.length_cons]
    omega
  rw [replaceAt?, if_pos inside, resolve_eq_under, cut, List.set_append_right _ _ (Nat.le_refl _),
    Nat.sub_self, List.set_cons_zero]

/-- The first rule equal to a given one is removed. -/
theorem deleteMatching?_of_cut {before after : List Rule} {rule : Rule}
    (cut : chain.rules = before ++ rule :: after) (first : rule ∉ before) :
    chain.deleteMatching? rule = some ⟨chain.name, chain.policy, before ++ after⟩ := by
  have inside : rule ∈ chain.rules := by
    rw [cut]
    exact List.mem_append_right _ List.mem_cons_self
  rw [deleteMatching?, if_pos inside, cut, List.erase_append_right _ first, List.erase_cons_head]

/-- A list of rules is cut at each of its positions. -/
theorem exists_cut {rules : List Rule} {position : Nat} (least : 1 ≤ position)
    (greatest : position ≤ rules.length) :
    ∃ before old after, rules = before ++ old :: after ∧ position = before.length + 1 := by
  have inside : position - 1 < rules.length := by omega
  refine ⟨rules.take (position - 1), rules[position - 1], rules.drop (position - 1 + 1), ?_, ?_⟩
  · rw [List.getElem_cons_drop, List.take_append_drop]
  · rw [List.length_take]
    omega

end Chain

variable {chain changed : Chain} {command : Command}

/-- An edit that is described is the one that is made. -/
theorem Chain.EditedBy.edit_eq (edited : chain.EditedBy command changed) :
    command.edit chain = some changed := by
  cases edited with
  | setPolicy | flush => rfl
  | @append name rule => rw [Command.edit, Chain.append, resolve_eq_under]
  | insert cut => exact chain.insertAt?_of_cut _ cut
  | deleteAt cut => exact chain.deleteAt?_of_cut cut
  | deleteMatching cut first => exact chain.deleteMatching?_of_cut cut first
  | replace cut => exact chain.replaceAt?_of_cut _ cut

/-- A chain that has what a command needs is edited by it. -/
theorem Chain.Admits.exists_editedBy (admits : chain.Admits command)
    (edits : command.edited?.isSome = true) : ∃ changed, chain.EditedBy command changed := by
  cases command with
  | newChain => cases edits
  | flush target =>
    cases target with
    | none => cases edits
    | some name => exact ⟨_, .flush⟩
  | setPolicy => exact ⟨_, .setPolicy⟩
  | append => exact ⟨_, .append⟩
  | insert name position rule =>
    obtain ⟨least, greatest⟩ := admits
    have place : position = (chain.rules.take (position - 1)).length + 1 := by
      rw [List.length_take]
      omega
    rw [place]
    exact ⟨_, .insert (List.take_append_drop _ _).symm⟩
  | deleteAt name position =>
    obtain ⟨before, old, after, cut, rfl⟩ := exists_cut admits.1 admits.2
    exact ⟨_, .deleteAt cut⟩
  | deleteMatching name rule =>
    obtain ⟨before, after, first, cut, -⟩ := List.exists_erase_eq admits
    exact ⟨_, .deleteMatching cut first⟩
  | replace name position rule =>
    obtain ⟨before, old, after, cut, rfl⟩ := exists_cut admits.1 admits.2
    exact ⟨_, .replace cut⟩

/-- A chain that does not have what a command needs is not edited by it. -/
theorem Command.edit_eq_none (refuses : ¬ chain.Admits command) : command.edit chain = none := by
  cases command with
  | newChain => rfl
  | flush target =>
    cases target with
    | none => rfl
    | some name => exact absurd trivial refuses
  | setPolicy | append => exact absurd trivial refuses
  | insert name position rule =>
    match position with
    | 0 => rfl
    | index + 1 =>
      exact if_neg fun inside => refuses ⟨Nat.le_add_left 1 index, Nat.succ_le_succ inside⟩
  | deleteAt name position =>
    match position with
    | 0 => rfl
    | index + 1 => exact if_neg fun inside => refuses ⟨Nat.le_add_left 1 index, inside⟩
  | deleteMatching name rule => exact if_neg refuses
  | replace name position rule =>
    match position with
    | 0 => rfl
    | index + 1 => exact if_neg fun inside => refuses ⟨Nat.le_add_left 1 index, inside⟩

namespace Table

variable {table : Table} {name : String}

/-- A table has a chain under a name and is otherwise like another table. -/
structure DiffersAt (before : Table) (name : String) (chain : Chain) (after : Table) : Prop where
  /-- The flows and the settings are the same. -/
  beside : SameBesideChains before after
  /-- The chain is found under the name, and under the others what was found before. -/
  found : ∀ other, after.chains.find? other =
    if other = name then some chain else before.chains.find? other

/-- What a table and an answer come to when a command is carried out. -/
inductive CommandOutcome (before : Table) : Command → Table → Answer → Prop
  /-- A chain that is not there is not edited. -/
  | missing {command : Command} {name : String} (edits : command.edited? = some name)
      (unknown : before.chains.find? name = none) :
      CommandOutcome before command before (.applied (.error (.unknownChain name)))
  /-- A chain is not created under a name that is taken. -/
  | taken {name : String} {chain : Chain} (found : before.chains.find? name = some chain) :
      CommandOutcome before (.newChain name) before (.applied (.error (.chainExists name)))
  /-- A chain that does not have what the command needs is not edited. -/
  | idle {command : Command} {name : String} {chain : Chain}
      (edits : command.edited? = some name) (found : before.chains.find? name = some chain)
      (refuses : ¬ chain.Admits command) :
      CommandOutcome before command before (.applied (.ok false))
  /-- A chain that has it is edited, and no other chain. -/
  | edited {command : Command} {name : String} {chain changed : Chain} {after : Table}
      (edits : command.edited? = some name) (found : before.chains.find? name = some chain)
      (admits : chain.Admits command) (edited : chain.EditedBy command changed)
      (differs : before.DiffersAt name changed after) :
      CommandOutcome before command after (.applied (.ok true))
  /-- A chain without policy and rules is created. -/
  | created {name : String} {after : Table} (free : before.chains.find? name = none)
      (differs : before.DiffersAt name ⟨name, none, []⟩ after) :
      CommandOutcome before (.newChain name) after (.applied (.ok true))
  /-- All chains are emptied and keep their policies. -/
  | emptied {after : Table} (beside : SameBesideChains before after)
      (found : ∀ name, after.chains.find? name =
        (before.chains.find? name).map fun chain => ⟨chain.name, chain.policy, []⟩) :
      CommandOutcome before (.flush none) after (.applied (.ok true))

variable {after : Table}

/-- A command that edits a chain makes its edit of the chain that it names. -/
theorem apply_of_edited? (edits : command.edited? = some name) :
    table.apply command = table.edit name command.edit := by
  cases command with
  | newChain => cases edits
  | flush target =>
    cases target with
    | none => cases edits
    | some chain =>
      cases edits
      rfl
  | setPolicy | append | insert | deleteAt | deleteMatching | replace =>
    cases edits
    rfl

/-- Putting a chain under its name changes nothing else. -/
theorem differsAt_insert (named : chain.name = name) :
    table.DiffersAt name chain { table with chains := table.chains.insert chain } := by
  refine ⟨⟨rfl, rfl⟩, fun other => ?_⟩
  rw [ChainSet.find?_insert, named]
  simp only [eq_comm]

/-- Two tables that differ from a third in their chains at most are the same if they have the same
chains. -/
theorem SameBesideChains.eq_of_find? {before other : Table}
    (left : SameBesideChains before after) (right : SameBesideChains before other)
    (alike : ∀ name, after.chains.find? name = other.chains.find? name) : after = other := by
  obtain ⟨chains, tracker, options⟩ := after
  obtain ⟨otherChains, otherTracker, otherOptions⟩ := other
  have chains : chains = otherChains := ChainSet.ext_find? alike
  have trackers : tracker = otherTracker := left.tracker.trans right.tracker.symm
  have settings : options = otherOptions := left.options.trans right.options.symm
  rw [chains, trackers, settings]

/-- Only one table has a chain under a name and is otherwise like another table. -/
theorem DiffersAt.eq_insert (differs : table.DiffersAt name chain after)
    (named : chain.name = name) : after = { table with chains := table.chains.insert chain } := by
  have inserted : table.DiffersAt name chain { table with chains := table.chains.insert chain } :=
    differsAt_insert named
  refine differs.beside.eq_of_find? inserted.beside fun other => ?_
  rw [differs.found, inserted.found]

/-- Every command has an outcome. -/
theorem exists_commandOutcome (table : Table) (command : Command) :
    ∃ after answer, table.CommandOutcome command after answer := by
  cases edits : command.edited? with
  | some name =>
    cases found : table.chains.find? name with
    | none => exact ⟨_, _, .missing edits found⟩
    | some chain =>
      by_cases admits : chain.Admits command
      · have isEdit : command.edited?.isSome = true := by rw [edits, Option.isSome_some]
        obtain ⟨changed, edited⟩ := admits.exists_editedBy isEdit
        have named : changed.name = name :=
          edited.name_eq.trans (ChainSet.name_of_find? found)
        exact ⟨_, _, .edited edits found admits edited (differsAt_insert named)⟩
      · exact ⟨_, _, .idle edits found admits⟩
  | none =>
    rcases Command.eq_of_edited?_eq_none edits with ⟨name, rfl⟩ | rfl
    · cases found : table.chains.find? name with
      | none => exact ⟨_, _, .created found (differsAt_insert rfl)⟩
      | some chain => exact ⟨_, _, .taken found⟩
    · have emptied := table.chains.find?_flushAll
      exact ⟨{ table with chains := table.chains.flushAll }, _, .emptied ⟨rfl, rfl⟩ emptied⟩

/-- An outcome of a command is what carrying it out comes to. -/
theorem CommandOutcome.perform_eq {answer : Answer}
    (outcome : table.CommandOutcome command after answer) :
    table.perform (.apply command) = (after, answer) := by
  cases outcome with
  | missing edits unknown =>
    simp only [perform, apply_of_edited? edits, edit, unknown]
  | taken found =>
    simp only [perform, apply, addChain, Chain.empty, found]
    rfl
  | idle edits found refuses =>
    simp only [perform, apply_of_edited? edits, edit, found, Command.edit_eq_none refuses,
      Option.map_none]
  | edited edits found admits edited differs =>
    have named := edited.name_eq.trans (ChainSet.name_of_find? found)
    rw [differs.eq_insert named]
    simp only [perform, apply_of_edited? edits, edit, found, edited.edit_eq, Option.map_some]
  | created free differs =>
    rw [differs.eq_insert rfl]
    simp only [perform, apply, addChain, Chain.empty, free]
    rfl
  | emptied beside found =>
    have flushed : after = { table with chains := table.chains.flushAll } := by
      refine beside.eq_of_find? ⟨rfl, rfl⟩ fun name => ?_
      rw [found, ChainSet.find?_flushAll]
      rfl
    rw [flushed]
    rfl

/-- A command touches chains only. -/
theorem CommandOutcome.sameBesideChains {answer : Answer}
    (outcome : table.CommandOutcome command after answer) : SameBesideChains table after := by
  cases outcome with
  | missing | taken | idle => exact .refl table
  | edited _ _ _ _ differs | created _ differs => exact differs.beside
  | emptied beside => exact beside

/-- A command for one chain leaves all others as they were. -/
theorem CommandOutcome.find?_of_ne {answer : Answer} {other : String}
    (outcome : table.CommandOutcome command after answer) (names : command.chain? = some name)
    (differs : other ≠ name) : after.chains.find? other = table.chains.find? other := by
  cases outcome with
  | missing | taken | idle => rfl
  | edited edits _ _ _ differsAt =>
    obtain rfl := Option.some.inj ((Command.chain?_of_edited? edits).symm.trans names)
    rw [differsAt.found, if_neg differs]
  | created _ differsAt =>
    obtain rfl := Option.some.inj names
    rw [differsAt.found, if_neg differs]
  | emptied => cases names

/-- A line that holds a command leaves what carrying the command out leaves. -/
theorem loadLine_fst_of_parse {line : String}
    (parsed : Command.parse line = .ok (some command)) :
    (table.loadLine line).1 = (table.perform (.apply command)).1 := by
  rw [loadLine_of_parse _ parsed, carryOut, perform]
  cases table.apply command with
  | error error => rfl
  | ok outcome => cases outcome <;> rfl

/-- A line leaves the table as it was, or comes to what its command comes to. -/
theorem loadLine_fst_eq_or_outcome (table : Table) (line : String) :
    (table.loadLine line).1 = table ∨ ∃ command answer,
      Command.parse line = .ok (some command) ∧
        table.CommandOutcome command (table.loadLine line).1 answer := by
  cases parsed : Command.parse line with
  | error error => exact .inl (by rw [loadLine, parsed])
  | ok held =>
    cases held with
    | none => exact .inl (by rw [loadLine, parsed])
    | some command =>
      obtain ⟨after, answer, outcome⟩ := table.exists_commandOutcome command
      rw [loadLine_fst_of_parse parsed, outcome.perform_eq]
      exact .inr ⟨command, answer, rfl, outcome⟩

/-- Carrying out a command comes to exactly one outcome: it is refused if its chain is not there,
or is there already when it is to be created; else its chain is edited at the position or the rule
that the command names, if the chain has it. Wherever nothing is edited the table is as it was, and
an edit touches neither another chain nor the flows and settings. -/
theorem perform_apply_iff (table : Table) (command : Command) (after : Table) (answer : Answer) :
    table.perform (.apply command) = (after, answer) ↔
      table.CommandOutcome command after answer := by
  constructor
  · intro performed
    obtain ⟨reached, given, outcome⟩ := table.exists_commandOutcome command
    rw [outcome.perform_eq] at performed
    cases performed
    exact outcome
  · exact CommandOutcome.perform_eq

end Table

end PacketFilter
