import PacketFilter.Proofs.Editing
import PacketFilter.Proofs.ParsedRules
import PacketFilter.Proofs.Text.Utf8

/-!
# Tables that texts come to

In a table that texts of rule lines come to, the chains have names of chains, are listed once each,
in the order of the bytes of their names, and hold rules that are well formed. Every command that is
read keeps this, so it holds after any lines, malformed ones included. No line removes a chain, so a
chain that is there after some of the lines, or that a line creates, is there after all of them
(`Table.wellFormed_of_loadAll`).
-/
namespace PacketFilter

/-- A chain has the name of a chain, and its rules are well formed. -/
structure Chain.WellFormed (chain : Chain) : Prop where
  /-- It is named as chains are. -/
  named : ChainName chain.name
  /-- Its rules are well formed. -/
  rules : ∀ rule ∈ chain.rules, rule.WellFormed

namespace Table

/-- The chains of a table are listed once each and in order, and are well formed. -/
structure WellFormed (table : Table) : Prop where
  /-- The chains that are listed are those that are found under their names. -/
  stored : ∀ name chain, table.chains.find? name = some chain ↔
    chain ∈ table.chains.toList ∧ chain.name = name
  /-- The bytes of their names increase. -/
  increasing : table.chains.toList.Pairwise fun left right =>
    left.name.toUTF8.toList < right.name.toUTF8.toList
  /-- Each of them is well formed. -/
  chains : ∀ chain ∈ table.chains.toList, chain.WellFormed

/-- The names under which a table has chains are names under which another one has chains. -/
def KeptIn (before after : Table) : Prop :=
  ∀ name, (before.chains.find? name).isSome = true → (after.chains.find? name).isSome = true

/-- The table once texts are loaded one after the other. -/
def loadAll (table : Table) (texts : List String) : Table :=
  texts.foldl (fun reached text => (reached.loadText text).1) table

end Table

/-! ## Chains -/

/-- The characters of chain names are below 128. -/
theorem ChainName.ascii {name : String} (named : ChainName name) :
    ∀ char ∈ name.toList, char.toNat < 128 := by
  intro char within
  rcases named.characters char within with ⟨-, last⟩ | ⟨-, last⟩ | rfl | rfl
  · exact Nat.lt_of_le_of_lt last (by decide)
  · exact Nat.lt_of_le_of_lt last (by decide)
  · decide
  · decide

/-- A chain is found under a name exactly if it is among the chains and has this name. -/
theorem ChainSet.find?_eq_some_iff {chains : ChainSet} {name : String} {chain : Chain} :
    chains.find? name = some chain ↔ chain ∈ chains.toList ∧ chain.name = name := by
  constructor
  · exact fun found => ⟨mem_of_find? found, name_of_find? found⟩
  · rintro ⟨within, rfl⟩
    obtain ⟨before, after, cut⟩ := List.append_of_mem within
    have smaller : ∀ other ∈ before, other.name < chain.name := by
      have ordered := chains.ordered
      rw [cut] at ordered
      exact fun other inFront =>
        (List.pairwise_append.1 ordered).2.2 other inFront chain List.mem_cons_self
    refine List.find?_eq_some_iff_append.2 ⟨beq_self_eq_true _, before, after, cut, ?_⟩
    intro other inFront
    have differs : other.name ≠ chain.name := fun same =>
      String.lt_irrefl _ (same ▸ smaller other inFront)
    simpa using differs

/-- A rule under a policy keeps its action, or accepts or drops. -/
theorem Rule.action_under_or (policy : Option Verdict) (rule : Rule) :
    (rule.under policy).action = rule.action ∨ (rule.under policy).action = some .accept ∨
      (rule.under policy).action = some .drop := by
  unfold under
  split
  · exact .inr (.inl rfl)
  · exact .inr (.inr rfl)
  · exact .inl rfl

/-- A rule under a policy says the same but for its action. -/
theorem Rule.under_eq (policy : Option Verdict) (rule : Rule) :
    rule.under policy = { rule with action := (rule.under policy).action } := by
  unfold under
  split <;> rfl

/-- A rule that enters a chain stays well formed. -/
theorem Rule.WellFormed.under {rule : Rule} (wellFormed : rule.WellFormed)
    (policy : Option Verdict) : (rule.under policy).WellFormed := by
  obtain ⟨field, target, label⟩ := wellFormed
  rw [rule.under_eq policy]
  rcases rule.action_under_or policy with kept | taken | taken
  · exact ⟨field, fun other jumps => target other (kept.symm.trans jumps),
      fun other logs => label other (kept.symm.trans logs)⟩
  all_goals
    refine ⟨field, fun other jumps => ?_, fun other logs => ?_⟩
    · cases taken.symm.trans jumps
    · cases taken.symm.trans logs

namespace Chain

variable {chain changed : Chain} {command : Command}

/-- The rules of an edited chain were in it, but for the rule of the command. -/
theorem EditedBy.rules_or (edited : chain.EditedBy command changed) {rule : Rule}
    (within : rule ∈ changed.rules) :
    rule ∈ chain.rules ∨
      ∃ given, command.rule? = some given ∧ rule = given.under chain.policy := by
  cases edited with
  | setPolicy => exact .inl within
  | flush => exact absurd within List.not_mem_nil
  | append =>
    rcases List.mem_append.1 within with old | added
    · exact .inl old
    · exact .inr ⟨_, rfl, List.mem_singleton.1 added⟩
  | insert cut =>
    rw [cut]
    rcases List.mem_cons.1 (List.perm_middle.mem_iff.1 within) with added | old
    · exact .inr ⟨_, rfl, added⟩
    · exact .inl old
  | replace cut =>
    rw [cut]
    rcases List.mem_cons.1 (List.perm_middle.mem_iff.1 within) with added | old
    · exact .inr ⟨_, rfl, added⟩
    · exact .inl (List.perm_middle.mem_iff.2 (List.mem_cons_of_mem _ old))
  | deleteAt cut | deleteMatching cut =>
    rw [cut]
    exact .inl (List.perm_middle.mem_iff.2 (List.mem_cons_of_mem _ within))

/-- An edit by a well formed command keeps a chain well formed. -/
theorem WellFormed.edited (wellFormed : chain.WellFormed) (isCommand : command.WellFormed)
    (edited : chain.EditedBy command changed) : changed.WellFormed := by
  refine ⟨edited.name_eq ▸ wellFormed.named, fun rule within => ?_⟩
  rcases edited.rules_or within with old | ⟨given, holds, rfl⟩
  · exact wellFormed.rules rule old
  · exact (isCommand.rule given holds).under chain.policy

/-- A chain without rules is well formed if it is named as chains are. -/
theorem wellFormed_of_rules_eq_nil (named : ChainName chain.name) (empty : chain.rules = []) :
    chain.WellFormed := by
  refine ⟨named, fun rule within => ?_⟩
  rw [empty] at within
  exact absurd within List.not_mem_nil

end Chain

namespace Table

variable {table before middle after : Table}

/-! ## Tables -/

/-- A table is well formed if the chains in it are: chains are stored in the order of their names,
which is that of the bytes. -/
theorem wellFormed_of_chains (wellFormed : ∀ chain ∈ table.chains.toList, chain.WellFormed) :
    table.WellFormed where
  stored _ _ := ChainSet.find?_eq_some_iff
  increasing := by
    refine table.chains.ordered.imp_of_mem fun left right less => ?_
    exact Text.toUTF8_lt_toUTF8 (wellFormed _ left).named.ascii (wellFormed _ right).named.ascii less
  chains := wellFormed

/-- A table without chains is well formed. -/
theorem wellFormed_empty (options : TableOptions) : (empty options).WellFormed :=
  wellFormed_of_chains fun _ within => absurd within List.not_mem_nil

/-- The names of a table are kept in itself. -/
theorem KeptIn.refl (table : Table) : table.KeptIn table := fun _ found => found

/-- Names that are kept in a table are kept in every table that keeps those of it. -/
theorem KeptIn.trans (first : before.KeptIn middle) (second : middle.KeptIn after) :
    before.KeptIn after :=
  fun name found => second name (first name found)

/-- A well formed command keeps a table well formed. -/
theorem WellFormed.outcome {command : Command} {answer : Answer} (wellFormed : before.WellFormed)
    (isCommand : command.WellFormed) (outcome : before.CommandOutcome command after answer) :
    after.WellFormed := by
  have known {name : String} {chain : Chain} (found : before.chains.find? name = some chain) :
      chain.WellFormed := wellFormed.chains chain (ChainSet.mem_of_find? found)
  refine wellFormed_of_chains fun chain within => ?_
  have found : after.chains.find? chain.name = some chain :=
    ChainSet.find?_eq_some_iff.2 ⟨within, rfl⟩
  cases outcome with
  | missing | taken | idle => exact known found
  | edited _ foundOld _ edited differs =>
    rw [differs.found] at found
    split at found
    · obtain rfl := Option.some.inj found
      exact (known foundOld).edited isCommand edited
    · exact known found
  | created _ differs =>
    rw [differs.found] at found
    split at found
    · obtain rfl := Option.some.inj found
      exact Chain.wellFormed_of_rules_eq_nil (isCommand.chain _ rfl) rfl
    · exact known found
  | emptied _ emptied =>
    rw [emptied] at found
    obtain ⟨old, foundOld, rfl⟩ := Option.map_eq_some_iff.1 found
    exact Chain.wellFormed_of_rules_eq_nil (known foundOld).named rfl

/-- A command removes no chain. -/
theorem CommandOutcome.keptIn {command : Command} {answer : Answer}
    (outcome : before.CommandOutcome command after answer) : before.KeptIn after := by
  intro name found
  cases outcome with
  | missing | taken | idle => exact found
  | edited _ _ _ _ differs | created _ differs =>
    rw [differs.found]
    split
    · rfl
    · exact found
  | emptied _ emptied => rwa [emptied, Option.isSome_map]

/-- A chain that is to be created is there afterwards, whether it was before or not. -/
theorem CommandOutcome.isSome_find?_of_newChain {name : String} {answer : Answer}
    (outcome : before.CommandOutcome (.newChain name) after answer) :
    (after.chains.find? name).isSome = true := by
  cases outcome with
  | taken found => rw [found, Option.isSome_some]
  | created _ differs => rw [differs.found, if_pos rfl, Option.isSome_some]
  | missing edits | idle edits | edited edits => cases edits

/-- A line keeps a table well formed, whatever it holds. -/
theorem WellFormed.loadLine (wellFormed : table.WellFormed) (line : String) :
    (table.loadLine line).1.WellFormed := by
  rcases table.loadLine_fst_eq_or_outcome line with same | ⟨command, answer, parsed, outcome⟩
  · rwa [same]
  · exact wellFormed.outcome (Command.wellFormed_of_parse parsed) outcome

/-- A line removes no chain. -/
theorem keptIn_loadLine (table : Table) (line : String) : table.KeptIn (table.loadLine line).1 := by
  rcases table.loadLine_fst_eq_or_outcome line with same | ⟨command, answer, -, outcome⟩
  · rw [same]
    exact .refl table
  · exact outcome.keptIn

/-! ## Lines and texts -/

/-- Lines keep a table well formed. -/
theorem WellFormed.afterLines (wellFormed : table.WellFormed) (lines : List String) :
    (table.afterLines lines).WellFormed := by
  induction lines generalizing table with
  | nil => exact wellFormed
  | cons line rest ih =>
    rw [afterLines_cons]
    exact ih (wellFormed.loadLine line)

/-- Lines remove no chain. -/
theorem keptIn_afterLines (table : Table) (lines : List String) :
    table.KeptIn (table.afterLines lines) := by
  induction lines generalizing table with
  | nil => exact .refl table
  | cons line rest ih =>
    rw [afterLines_cons]
    exact (table.keptIn_loadLine line).trans (ih _)

/-- Loading texts one after the other carries out their lines in a row. -/
theorem loadAll_eq_afterLines (table : Table) (texts : List String) :
    table.loadAll texts = table.afterLines (texts.flatMap Text.lines) := by
  induction texts generalizing table with
  | nil => rw [List.flatMap_nil, afterLines_nil, loadAll, List.foldl_nil]
  | cons text rest ih =>
    rw [List.flatMap_cons, afterLines_append, ← ih, ← loadLines_fst _ 1, ← loadText, loadAll,
      List.foldl_cons, loadAll]

/-- Every table that texts come to is well formed, whatever lines they have. It has all chains that
were there at any time while the texts were loaded, and all that any of their lines creates. -/
theorem wellFormed_of_loadAll (options : TableOptions) (texts : List String) :
    ((empty options).loadAll texts).WellFormed ∧
      (∀ before after, texts.flatMap Text.lines = before ++ after →
        ((empty options).afterLines before).KeptIn ((empty options).loadAll texts)) ∧
      ∀ line ∈ texts.flatMap Text.lines, ∀ name, Command.parse line = .ok (some (.newChain name)) →
        (((empty options).loadAll texts).chains.find? name).isSome = true := by
  rw [loadAll_eq_afterLines]
  refine ⟨(wellFormed_empty options).afterLines _, fun before after lines => ?kept,
    fun line within name creates => ?created⟩
  case kept =>
    rw [lines, afterLines_append]
    exact keptIn_afterLines _ after
  case created =>
    obtain ⟨before, after, lines⟩ := List.append_of_mem within
    rw [lines, afterLines_append, afterLines_cons]
    refine keptIn_afterLines _ after name ?_
    obtain ⟨reached, answer, outcome⟩ :=
      ((empty options).afterLines before).exists_commandOutcome (.newChain name)
    rw [loadLine_fst_of_parse creates, outcome.perform_eq]
    exact outcome.isSome_find?_of_newChain

/-- Two texts of which the first one adds a rule with a quote in its label and has a line without a
valid name, and the second one adds a rule that asks a chain before it is created. -/
def unrulyTexts : List String :=
  ["-N WEB\r\n-A WEB -j LOG --log-prefix a\"b\n-N web # too low\n",
    "-A WEB\t-s 10.0.0.1 -j API\n-P\n-N API"]

/-- Both chains are listed in order, with the rules that were added. The one that the first line
creates is still there, and so is the one that the last line creates. -/
theorem loadAll_unrulyTexts :
    ((empty .standard).loadAll unrulyTexts).WellFormed ∧
      ((empty .standard).loadAll unrulyTexts).chains.toList =
        [⟨"API", none, []⟩,
          ⟨"WEB", none,
            [{ Rule.wildcard with action := some (.log "a\"b") },
              { Rule.wildcard with
                sourceAddress := some "10.0.0.1", action := some (.jump "API") }]⟩] ∧
      ((empty .standard).afterLines ["-N WEB"]).KeptIn
        ((empty .standard).loadAll unrulyTexts) ∧
      (((empty .standard).loadAll unrulyTexts).chains.find? "API").isSome = true := by
  obtain ⟨wellFormed, kept, created⟩ := wellFormed_of_loadAll .standard unrulyTexts
  have lines : unrulyTexts.flatMap Text.lines = ["-N WEB"] ++
      ["-A WEB -j LOG --log-prefix a\"b", "-N web # too low", "-A WEB\t-s 10.0.0.1 -j API", "-P",
        "-N API"] := by
    decide +kernel
  have creates : Command.parse "-N API" = .ok (some (.newChain "API")) := by decide +kernel
  have within : "-N API" ∈ unrulyTexts.flatMap Text.lines := by
    rw [lines]
    decide
  exact ⟨wellFormed, by decide +kernel, kept _ _ lines, created _ within "API" creates⟩

end Table

end PacketFilter
