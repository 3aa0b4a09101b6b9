import PacketFilter.Proofs.Editing

/-!
# The order of commands

What a command comes to depends on the chain that it names and on nothing else, and it leaves all
others as they are, so two commands for different chains can change places. A command that empties
all chains concerns each of them. Commands that are carried out in another order leave the same table
and give the same answers, if those that concern a chain keep their order for every chain
(`Table.carryOutAll_reordered`). So a rule can be added before or after the chain that it asks is
created.
-/
namespace PacketFilter

namespace Command

/-- A command has to do with the chain of a name: it names the chain, or it empties all chains. -/
def concerns (command : Command) (name : String) : Bool := command.chain?.all (· == name)

/-- Two commands have no chain in common. -/
def Apart (first second : Command) : Prop :=
  ∀ name, first.concerns name = true → second.concerns name = false

/-- A command that names a chain concerns this chain only. -/
theorem concerns_iff_of_chain? {command : Command} {name other : String}
    (names : command.chain? = some name) : command.concerns other = true ↔ name = other := by
  rw [concerns, names, Option.all_some, beq_iff_eq]

/-- Every command has to do with some chain. -/
theorem exists_concerns (command : Command) : ∃ name, command.concerns name = true := by
  cases names : command.chain? with
  | none => exact ⟨"", by rw [concerns, names, Option.all_none]⟩
  | some name => exact ⟨name, (concerns_iff_of_chain? names).2 rfl⟩

/-- Commands that have no chain in common name different chains. -/
theorem Apart.exists_ne {first second : Command} (apart : first.Apart second) :
    ∃ name other, first.chain? = some name ∧ second.chain? = some other ∧ name ≠ other := by
  obtain ⟨name, concerned⟩ := first.exists_concerns
  obtain ⟨other, concernedToo⟩ := second.exists_concerns
  cases names : first.chain? with
  | none =>
    -- The first command would concern the chain of the second one, too.
    have both := apart other (by rw [concerns, names, Option.all_none])
    exact absurd (concernedToo.symm.trans both) Bool.noConfusion
  | some chain =>
    cases namesToo : second.chain? with
    | none =>
      have both := apart name concerned
      rw [concerns, namesToo, Option.all_none] at both
      exact absurd both.symm Bool.false_ne_true
    | some chainToo =>
      refine ⟨chain, chainToo, rfl, rfl, ?_⟩
      rintro rfl
      have both := apart chain ((concerns_iff_of_chain? names).2 rfl)
      rw [(concerns_iff_of_chain? namesToo).2 rfl] at both
      exact absurd both.symm Bool.false_ne_true

/-- If some commands and a first one before them are other commands in another order, those of the
others that are before the first one have no chain in common with it. -/
theorem exists_append_of_filter_concerns {command : Command} {rest others : List Command}
    (alike : ∀ name, (command :: rest).filter (·.concerns name) =
      others.filter (·.concerns name)) :
    ∃ before after, others = before ++ command :: after ∧ (∀ other ∈ before, command.Apart other) ∧
      ∀ name, rest.filter (·.concerns name) = (before ++ after).filter (·.concerns name) := by
  have member : command ∈ others := by
    obtain ⟨name, concerned⟩ := command.exists_concerns
    have inside : command ∈ (command :: rest).filter (·.concerns name) :=
      List.mem_filter.2 ⟨List.mem_cons_self, concerned⟩
    rw [alike name] at inside
    exact (List.mem_filter.1 inside).1
  obtain ⟨before, after, rfl, fresh⟩ := List.eq_append_cons_of_mem member
  -- The first of the others that concerns one of its chains is the command.
  have nothing : ∀ name, command.concerns name = true →
      before.filter (·.concerns name) = [] := by
    intro name concerned
    have same := alike name
    rw [List.filter_cons_of_pos (by exact concerned), List.filter_append] at same
    cases front : before.filter (·.concerns name) with
    | nil => rfl
    | cons first later =>
      rw [front, List.cons_append] at same
      have isFirst : command ∈ before.filter (·.concerns name) := by
        rw [front, (List.cons.inj same).1]
        exact List.mem_cons_self
      exact absurd (List.mem_filter.1 isFirst).1 fresh
  refine ⟨before, after, rfl, fun other within name concerned => ?_, fun name => ?_⟩
  · have none := List.filter_eq_nil_iff.1 (nothing name concerned) other within
    simpa using none
  · have same := alike name
    rw [List.filter_append] at same ⊢
    by_cases concerned : command.concerns name = true
    · rw [nothing name concerned] at same ⊢
      rw [List.filter_cons_of_pos (by exact concerned),
        List.filter_cons_of_pos (by exact concerned)] at same
      exact (List.cons.inj same).2
    · rwa [List.filter_cons_of_neg (by exact concerned),
        List.filter_cons_of_neg (by exact concerned)] at same

end Command

namespace Table

variable {table after : Table} {name : String}

/-- What a command comes to depends on the chain that it names only: in every table that has the
same under this name it comes to the same answer, and to the same chain. -/
theorem CommandOutcome.elsewhere {command : Command} {answer : Answer} {other : Table}
    (outcome : table.CommandOutcome command after answer) (names : command.chain? = some name)
    (alike : other.chains.find? name = table.chains.find? name) :
    ∃ reached, other.CommandOutcome command reached answer ∧
      reached.chains.find? name = after.chains.find? name := by
  cases outcome with
  | missing edits unknown =>
    obtain rfl := Option.some.inj ((Command.chain?_of_edited? edits).symm.trans names)
    exact ⟨other, .missing edits (alike.trans unknown), alike⟩
  | taken found =>
    obtain rfl := Option.some.inj names
    exact ⟨other, .taken (alike.trans found), alike⟩
  | idle edits found refuses =>
    obtain rfl := Option.some.inj ((Command.chain?_of_edited? edits).symm.trans names)
    exact ⟨other, .idle edits (alike.trans found) refuses, alike⟩
  | edited edits found admits edited differs =>
    obtain rfl := Option.some.inj ((Command.chain?_of_edited? edits).symm.trans names)
    have named := edited.name_eq.trans (ChainSet.name_of_find? found)
    have differsToo : other.DiffersAt _ _ _ := differsAt_insert named
    refine ⟨_, .edited edits (alike.trans found) admits edited differsToo, ?_⟩
    rw [differs.found, differsToo.found, if_pos rfl, if_pos rfl]
  | @created name _ free differs =>
    obtain rfl := Option.some.inj names
    have differsToo : other.DiffersAt name ⟨name, none, []⟩ _ := differsAt_insert rfl
    refine ⟨_, .created (alike.trans free) differsToo, ?_⟩
    rw [differs.found, differsToo.found, if_pos rfl, if_pos rfl]
  | emptied => cases names

/-- Two operations can change places: both orders come to the same table, and each operation gives
the same answer whether it comes first or second. -/
structure Exchange (table : Table) (first second : Operation) : Prop where
  /-- The table is the same. -/
  reached : ((table.perform first).1.perform second).1 = ((table.perform second).1.perform first).1
  /-- The first operation gives the same answer behind the second one. -/
  answer : ((table.perform second).1.perform first).2 = (table.perform first).2
  /-- The second operation gives the same answer behind the first one. -/
  answerToo : ((table.perform first).1.perform second).2 = (table.perform second).2

/-- Commands for different chains can change places. -/
theorem exchange_of_ne (table : Table) {first second : Command} {name other : String}
    (names : first.chain? = some name) (namesToo : second.chain? = some other)
    (differs : name ≠ other) : table.Exchange (.apply first) (.apply second) := by
  obtain ⟨afterFirst, answer, outcome⟩ := table.exists_commandOutcome first
  obtain ⟨afterSecond, answerToo, outcomeToo⟩ := table.exists_commandOutcome second
  -- Each command finds its chain as it was, also behind the other one.
  have kept : afterSecond.chains.find? name = table.chains.find? name :=
    outcomeToo.find?_of_ne namesToo differs
  have keptToo : afterFirst.chains.find? other = table.chains.find? other :=
    outcome.find?_of_ne names (Ne.symm differs)
  obtain ⟨last, lastOutcome, lastChain⟩ := outcome.elsewhere names kept
  obtain ⟨lastToo, lastOutcomeToo, lastChainToo⟩ := outcomeToo.elsewhere namesToo keptToo
  have besides : SameBesideChains table last :=
    outcomeToo.sameBesideChains.trans lastOutcome.sameBesideChains
  have besidesToo : SameBesideChains table lastToo :=
    outcome.sameBesideChains.trans lastOutcomeToo.sameBesideChains
  have same : lastToo = last := by
    refine besidesToo.eq_of_find? besides fun chain => ?_
    by_cases isFirst : chain = name
    · rw [isFirst, lastChain, lastOutcomeToo.find?_of_ne namesToo differs]
    by_cases isSecond : chain = other
    · rw [isSecond, lastChainToo, lastOutcome.find?_of_ne names (Ne.symm differs)]
    rw [lastOutcome.find?_of_ne names isFirst, lastOutcomeToo.find?_of_ne namesToo isSecond,
      outcome.find?_of_ne names isFirst, outcomeToo.find?_of_ne namesToo isSecond]
  constructor
  · simp only [outcome.perform_eq, outcomeToo.perform_eq, lastOutcome.perform_eq,
      lastOutcomeToo.perform_eq, same]
  · simp only [outcome.perform_eq, outcomeToo.perform_eq, lastOutcome.perform_eq]
  · simp only [outcome.perform_eq, outcomeToo.perform_eq, lastOutcomeToo.perform_eq]

/-- The table once commands are carried out in order. -/
def carryOutAll (table : Table) (commands : List Command) : Table :=
  table.run (commands.map .apply)

/-- Commands that are carried out in order, each with its answer. -/
def answered (table : Table) (commands : List Command) : List (Command × Answer) :=
  commands.zip (table.answers (commands.map .apply))

/-- The first command is carried out first. -/
theorem carryOutAll_cons (table : Table) (command : Command) (rest : List Command) :
    table.carryOutAll (command :: rest) = (table.perform (.apply command)).1.carryOutAll rest := rfl

/-- The first command is answered first. -/
theorem answered_cons (table : Table) (command : Command) (rest : List Command) :
    table.answered (command :: rest) =
      (command, (table.perform (.apply command)).2) ::
        (table.perform (.apply command)).1.answered rest := rfl

/-- A command that has no chain in common with those before it can be carried out first. -/
theorem carryOutAll_middle (table : Table) {command : Command} {before : List Command}
    (apart : ∀ other ∈ before, command.Apart other) (after : List Command) :
    table.carryOutAll (before ++ command :: after) =
        table.carryOutAll (command :: (before ++ after)) ∧
      (table.answered (before ++ command :: after)).Perm
        (table.answered (command :: (before ++ after))) := by
  induction before generalizing table with
  | nil => exact ⟨rfl, .refl _⟩
  | cons first rest ih =>
    obtain ⟨apartFirst, apartRest⟩ := List.forall_mem_cons.1 apart
    obtain ⟨name, other, names, namesToo, differs⟩ := apartFirst.exists_ne
    have exchange := table.exchange_of_ne names namesToo differs
    obtain ⟨sameTable, sameAnswers⟩ := ih (table.perform (.apply first)).1 apartRest
    constructor
    · rw [List.cons_append, carryOutAll_cons, sameTable, List.cons_append, carryOutAll_cons,
        carryOutAll_cons, carryOutAll_cons, exchange.reached]
    · rw [List.cons_append, answered_cons]
      refine (sameAnswers.cons _).trans ?_
      rw [List.cons_append, answered_cons, answered_cons, answered_cons, exchange.reached,
        exchange.answer, exchange.answerToo]
      exact .swap _ _ _

/-- Commands in another order, in which those that concern a chain keep their order for every chain,
come to the same table and each to the same answer. -/
theorem carryOutAll_of_filter_concerns (table : Table) {commands others : List Command}
    (alike : ∀ name, commands.filter (·.concerns name) = others.filter (·.concerns name)) :
    table.carryOutAll commands = table.carryOutAll others ∧
      (table.answered commands).Perm (table.answered others) := by
  induction commands generalizing table others with
  | nil =>
    cases others with
    | nil => exact ⟨rfl, .refl _⟩
    | cons other rest =>
      obtain ⟨name, concerned⟩ := other.exists_concerns
      have none := List.filter_eq_nil_iff.1 (alike name).symm other List.mem_cons_self
      exact absurd concerned none
  | cons command rest ih =>
    obtain ⟨before, after, rfl, apart, alikeRest⟩ := Command.exists_append_of_filter_concerns alike
    obtain ⟨movedTable, movedAnswers⟩ := table.carryOutAll_middle apart after
    obtain ⟨sameTable, sameAnswers⟩ := ih (table.perform (.apply command)).1 alikeRest
    constructor
    · rw [movedTable, carryOutAll_cons, carryOutAll_cons, sameTable]
    · refine .trans ?_ movedAnswers.symm
      rw [answered_cons, answered_cons]
      exact sameAnswers.cons _

/-- Two commands for different chains come to the same table in both orders, and each to the same
answer. So do any commands in any other order in which those that concern a chain keep their order,
for every chain. -/
theorem carryOutAll_reordered (table : Table) :
    (∀ {first second : Command} {name other : String}, first.chain? = some name →
      second.chain? = some other → name ≠ other →
      table.Exchange (.apply first) (.apply second)) ∧
    ∀ {commands others : List Command},
      (∀ name, commands.filter (·.concerns name) = others.filter (·.concerns name)) →
      table.carryOutAll commands = table.carryOutAll others ∧
        (table.answered commands).Perm (table.answered others) :=
  ⟨table.exchange_of_ne, table.carryOutAll_of_filter_concerns⟩

/-- A rule that asks the second chain. -/
def askingRule : Rule := { Rule.wildcard with action := some (.jump "WEB") }

/-- Two chains are created, one of them twice, and edited; then both are emptied. -/
def twoChains : List Command :=
  [.newChain "WEB", .setPolicy "WEB" .drop, .deleteAt "WEB" 7, .newChain "INPUT",
    .append "INPUT" askingRule, .newChain "INPUT", .flush none, .append "INPUT" askingRule]

/-- The same commands, with the chain that is asked created after the rule that asks it. -/
def twoChainsToo : List Command :=
  [.newChain "INPUT", .append "INPUT" askingRule, .newChain "INPUT", .newChain "WEB",
    .setPolicy "WEB" .drop, .deleteAt "WEB" 7, .flush none, .append "INPUT" askingRule]

/-- The rule can be added before or after the chain that it asks is created, and so can all that is
done to either chain before both are emptied. -/
theorem carryOutAll_twoChains :
    (empty .standard).Exchange (.apply (.append "INPUT" askingRule)) (.apply (.newChain "WEB")) ∧
      (empty .standard).carryOutAll twoChains = (empty .standard).carryOutAll twoChainsToo ∧
      ((empty .standard).answered twoChains).Perm ((empty .standard).answered twoChainsToo) := by
  obtain ⟨exchange, reordered⟩ := carryOutAll_reordered (empty .standard)
  refine ⟨exchange rfl rfl (by decide), reordered fun name => ?_⟩
  by_cases isInput : "INPUT" = name
  · subst isInput
    decide +kernel
  by_cases isWeb : "WEB" = name
  · subst isWeb
    decide +kernel
  simp [twoChains, twoChainsToo, Command.concerns, Command.chain?, isInput, isWeb]

end Table

end PacketFilter
