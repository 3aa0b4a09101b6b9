import Mathlib.Data.List.Induction
import PacketFilter.Proofs.Editing
import PacketFilter.Proofs.Walk.Course

/-!
# Rules without an action

A rule without an action takes the policy of its chain when it enters the chain, if there is one, and
keeps the action that it has from then on. So a chain with a policy never gets a rule without an
action, but one that has such rules keeps them when its policy is set. `PolicyAfterRules` says
when this was, and every chain that rule lines come to either has no policy or has been left so
(`unsetRules_of_afterLines`).
-/
namespace PacketFilter

namespace Chain

/-- The rules that have no action. -/
def unsetRules (chain : Chain) : List Rule := chain.rules.filter (·.action.isNone)

variable {chain changed : Chain} {command : Command}

/-- A rule that enters a chain with a policy has an action. -/
theorem action_under (rule : Rule) (hasPolicy : chain.policy ≠ none) :
    (rule.under chain.policy).action.isNone = false := by
  obtain ⟨policy, isPolicy⟩ := Option.ne_none_iff_exists'.1 hasPolicy
  cases action : rule.action <;> cases policy <;> simp [Rule.under, action, isPolicy]

/-- A rule with an action among others does not count. -/
theorem filter_unset_of_action {rule : Rule} (acts : rule.action.isNone = false)
    (before after : List Rule) :
    (before ++ rule :: after).filter (·.action.isNone) =
      (before ++ after).filter (·.action.isNone) := by
  simp only [List.filter_append, List.filter_cons, acts, Bool.false_eq_true, if_false]

/-- No edit adds a rule without an action to a chain that has a policy. -/
theorem EditedBy.unsetRules_sublist (edited : chain.EditedBy command changed)
    (hasPolicy : chain.policy ≠ none) : changed.unsetRules.Sublist chain.unsetRules := by
  have shorter : ∀ (before : List Rule) (old : Rule) (after : List Rule),
      (before ++ after).Sublist (before ++ old :: after) := fun before old after =>
    (List.Sublist.refl before).append (List.sublist_cons_self old after)
  cases edited with
  | setPolicy => exact List.Sublist.refl _
  | flush => exact List.nil_sublist _
  | @append name rule =>
    have acts := action_under rule hasPolicy
    rw [unsetRules, filter_unset_of_action acts, List.append_nil, unsetRules]
  | @insert name rule before after cut =>
    have acts := action_under rule hasPolicy
    rw [unsetRules, filter_unset_of_action acts, unsetRules, cut]
  | @deleteAt name old before after cut =>
    rw [unsetRules, unsetRules, cut]
    exact (shorter before old after).filter _
  | @deleteMatching name rule before after cut first =>
    rw [unsetRules, unsetRules, cut]
    exact (shorter before rule after).filter _
  | @replace name rule old before after cut =>
    have acts := action_under rule hasPolicy
    rw [unsetRules, filter_unset_of_action acts, unsetRules, cut]
    exact (shorter before old after).filter _

end Chain

namespace Table

variable {table after : Table} {name : String} {chain : Chain} {command : Command}

/-- A chain comes from another one by the command of a line, or not at all by it. -/
inductive ChainStep (line name : String) (old chain : Chain) : Prop
  /-- The chain is as it was. -/
  | kept (same : chain = old)
  /-- The chain is emptied together with all others. -/
  | emptied (flushed : chain = ⟨old.name, old.policy, []⟩)
  /-- The chain is edited. -/
  | edited {command : Command} (parsed : Command.parse line = .ok (some command))
      (edits : command.edited? = some name) (edited : old.EditedBy command chain)

/-- What a command leaves under a name is a new chain, or comes from what was there. -/
theorem CommandOutcome.chainStep {answer : Answer} {line : String}
    (outcome : table.CommandOutcome command after answer)
    (parsed : Command.parse line = .ok (some command))
    (found : after.chains.find? name = some chain) :
    chain = ⟨name, none, []⟩ ∨
      ∃ old, table.chains.find? name = some old ∧ ChainStep line name old chain := by
  cases outcome with
  | missing | taken | idle => exact .inr ⟨chain, found, .kept rfl⟩
  | @edited _ edited old changed _ edits foundOld admits isEdit differs =>
    rw [differs.found] at found
    split at found
    · next same =>
      subst same
      obtain rfl := Option.some.inj found
      exact .inr ⟨old, foundOld, .edited parsed edits isEdit⟩
    · exact .inr ⟨chain, found, .kept rfl⟩
  | created free differs =>
    rw [differs.found] at found
    split at found
    · next same =>
      subst same
      exact .inl (Option.some.inj found).symm
    · exact .inr ⟨chain, found, .kept rfl⟩
  | emptied beside emptied =>
    rw [emptied] at found
    obtain ⟨old, foundOld, rfl⟩ := Option.map_eq_some_iff.1 found
    exact .inr ⟨old, foundOld, .emptied rfl⟩

/-- What a line leaves under a name is a new chain, or comes from what was there. -/
theorem chainStep_loadLine {line : String}
    (found : (table.loadLine line).1.chains.find? name = some chain) :
    chain = ⟨name, none, []⟩ ∨
      ∃ old, table.chains.find? name = some old ∧ ChainStep line name old chain := by
  rcases table.loadLine_fst_eq_or_outcome line with same | ⟨command, answer, parsed, outcome⟩
  · rw [same] at found
    exact .inr ⟨chain, found, .kept rfl⟩
  · exact outcome.chainStep parsed found

/-- A chain got its policy from one of the lines, and all of its rules without an action were in it
before. -/
def PolicyAfterRules (initial : Table) (lines : List String) (name : String) (chain : Chain) :
    Prop :=
  ∃ before line after policy old, lines = before ++ line :: after ∧
    Command.parse line = .ok (some (.setPolicy name policy)) ∧
    (initial.afterLines before).chains.find? name = some old ∧ old.policy = none ∧
    chain.unsetRules.Sublist old.unsetRules

/-- Lines that come later, and a chain with no other rules without an action, change nothing of
that. -/
theorem PolicyAfterRules.mono {initial : Table} {lines : List String} {old : Chain}
    (set : initial.PolicyAfterRules lines name old) (line : String)
    (fewer : chain.unsetRules.Sublist old.unsetRules) :
    initial.PolicyAfterRules (lines ++ [line]) name chain := by
  obtain ⟨before, setter, after, policy, first, rfl, parsed, found, without, among⟩ := set
  refine ⟨before, setter, after ++ [line], policy, first, ?_, parsed, found, without,
    fewer.trans among⟩
  rw [List.append_assoc, List.cons_append]

/-- A line leaves a chain without a policy, or with rules without an action that were there before
the policy, if it finds it so. -/
theorem ChainStep.policyAfterRules {initial : Table} {lines : List String} {line : String}
    {old : Chain} (step : ChainStep line name old chain)
    (found : (initial.afterLines lines).chains.find? name = some old)
    (left : old.policy = none ∨ initial.PolicyAfterRules lines name old) :
    chain.policy = none ∨ initial.PolicyAfterRules (lines ++ [line]) name chain := by
  cases step with
  | kept same =>
    subst same
    exact left.imp_right fun set => set.mono line (List.Sublist.refl _)
  | emptied flushed =>
    subst flushed
    exact left.imp_right fun set => set.mono line (List.nil_sublist _)
  | @edited command parsed edits edited =>
    by_cases without : old.policy = none
    · by_cases keeps : ∀ target policy, command ≠ .setPolicy target policy
      · exact .inl ((edited.policy_eq keeps).trans without)
      · -- The line sets the first policy of the chain, which keeps its rules as they are.
        push Not at keeps
        obtain ⟨target, policy, rfl⟩ := keeps
        cases edits
        cases edited
        exact .inr ⟨lines, line, [], policy, old, rfl, parsed, found, without,
          List.Sublist.refl _⟩
    · have set := left.resolve_left without
      exact .inr (set.mono line (edited.unsetRules_sublist without))

/-- A chain that rule lines come to from no chains has no policy, or has got its policy after all of
its rules without an action. -/
theorem policyAfterRules_of_afterLines {initial : Table} (empty : initial.chains = .empty)
    {lines : List String} (found : (initial.afterLines lines).chains.find? name = some chain) :
    chain.policy = none ∨ initial.PolicyAfterRules lines name chain := by
  induction lines using List.reverseRecOn generalizing chain with
  | nil =>
    rw [afterLines_nil, empty] at found
    cases found
  | append_singleton lines line ih =>
    rw [afterLines_append, afterLines_cons, afterLines_nil] at found
    rcases chainStep_loadLine found with rfl | ⟨old, foundOld, step⟩
    · exact .inl rfl
    · exact step.policyAfterRules foundOld (ih foundOld)

/-! ## What a walk passes over -/

/-- A rule without an action stands at a position of the chain of a name, counted from one, and
matches a packet. -/
def PassesOver (table : Table) (view : PacketView) (name : String) (position : Nat) (chain : Chain)
    (rule : Rule) : Prop :=
  table.chains.find? name = some chain ∧ 1 ≤ position ∧
    chain.rules[position - 1]? = some rule ∧ rule.action = none ∧
    rule.isMatch view table.tracker = true

/-- Where a walk tells of a rule without an action, there is one. -/
theorem Course.exists_passesOver {view : PacketView} {path : List String} {position : Nat}
    {rules : List Rule} {walked : Walked}
    (course : table.Course view path chain position rules walked)
    (found : table.chains.find? chain.name = some chain)
    (tried : ∃ before, chain.rules = before ++ rules ∧ position = before.length + 1)
    {index : Nat} (told : .noAction name index ∈ walked.notices) :
    ∃ other rule, table.PassesOver view name index other rule := by
  induction course with
  | ended | stopped | cyclic | tooDeep => cases told
  | @passed path chain position rule rest notices walked effect later ih =>
    obtain ⟨before, cut, counted⟩ := tried
    rcases List.mem_append.1 told with here | after
    · rcases effect_eq_goOn_iff.1 effect with ⟨-, rfl⟩ | ⟨matched, ⟨label, -, rfl⟩ | ⟨unset, rfl⟩⟩
      · cases here
      · simp at here
      · obtain ⟨rfl, rfl⟩ := Notice.noAction.inj (List.mem_singleton.1 here)
        refine ⟨chain, rule, found, by omega, ?_, unset, matched⟩
        rw [cut, counted]
        simp
    · refine ih found ⟨before ++ [rule], ?_, ?_⟩ after
      · rw [cut, List.append_assoc, List.singleton_append]
      · rw [List.length_append, List.length_singleton, counted]
  | @adopted path chain position rule rest target next inner effect _ _ _ _ ih =>
    obtain ⟨-, -, foundNext⟩ := effect_eq_ask_iff.1 effect
    have named := ChainSet.name_of_find? foundNext
    exact ih (by rw [named, foundNext]) ⟨[], rfl, rfl⟩ told
  | @returned path chain position rule rest target next inner walked effect _ _ _ _ _ ihAsked ih =>
    obtain ⟨-, -, foundNext⟩ := effect_eq_ask_iff.1 effect
    have named := ChainSet.name_of_find? foundNext
    obtain ⟨before, cut, counted⟩ := tried
    rcases List.mem_append.1 told with here | after
    · rcases List.mem_append.1 here with inside | last
      · exact ihAsked (by rw [named, foundNext]) ⟨[], rfl, rfl⟩ inside
      · simp at last
    · refine ih found ⟨before ++ [rule], ?_, ?_⟩ after
      · rw [cut, List.append_assoc, List.singleton_append]
      · rw [List.length_append, List.length_singleton, counted]

/-- A walk tells of a rule without an action only where there is one that matches. -/
theorem exists_passesOver_of_traverse {view : PacketView} {start : String} {index : Nat}
    (told : .noAction name index ∈ (table.traverse start view).notices) :
    ∃ other rule, table.PassesOver view name index other rule := by
  cases found : table.chains.find? start with
  | none =>
    simp only [traverse, found] at told
    cases told
  | some chain =>
    rw [table.traverse_of_find? view found] at told
    have named := ChainSet.name_of_find? found
    exact (table.walk_course view [start] chain).exists_passesOver (by rw [named, found])
      ⟨[], rfl, rfl⟩ told

/-- In a table that rule lines come to from no chains, a rule without an action stands in a chain
without a policy, or was there before the chain got its first policy; a chain that has a policy gets
no more of them. A walk passes over a rule for its missing action only if it has none and is such a
rule. -/
theorem unsetRules_of_afterLines (options : TableOptions) (lines : List String) :
    (∀ name chain, ((empty options).afterLines lines).chains.find? name = some chain →
      chain.policy = none ∨ (empty options).PolicyAfterRules lines name chain) ∧
    ∀ tracker start view name position,
      .noAction name position ∈
          ({ (empty options).afterLines lines with tracker }.traverse start view).notices →
        ∃ chain rule, { (empty options).afterLines lines with tracker }.PassesOver view name position
            chain rule ∧
          (chain.policy = none ∨ (empty options).PolicyAfterRules lines name chain) := by
  have placed : ∀ name chain, ((empty options).afterLines lines).chains.find? name = some chain →
      chain.policy = none ∨ (empty options).PolicyAfterRules lines name chain :=
    fun name chain found => policyAfterRules_of_afterLines rfl found
  refine ⟨placed, fun tracker start view name position told => ?_⟩
  obtain ⟨chain, rule, passed⟩ := exists_passesOver_of_traverse told
  exact ⟨chain, rule, passed, placed name chain passed.1⟩

/-- Three lines that create a chain, add a rule without an action to it, and set its policy. -/
def lateLines : List String := ["-N WEB", "-A WEB -s 10.0.0.1", "-P WEB DROP"]

/-- The rule of the second line. -/
def lateRule : Rule := { Rule.wildcard with sourceAddress := some "10.0.0.1" }

/-- A packet that the rule matches. -/
def lateView : PacketView := ⟨[], some ⟨"10.0.0.1", "10.0.0.2"⟩, none⟩

/-- The lines leave the rule in the chain, and a walk passes over it. -/
theorem find?_afterLines_lateLines :
    ((empty .standard).afterLines lateLines).chains.find? "WEB" =
        some ⟨"WEB", some .drop, [lateRule]⟩ ∧
      .noAction "WEB" 1 ∈
        (((empty .standard).afterLines lateLines).traverse "WEB" lateView).notices := by
  decide +kernel

/-- The rule is still without an action in the chain that has a policy now, and a walk passes over
it. -/
theorem unset_rule_below_policy :
    ((empty .standard).afterLines lateLines).chains.find? "WEB" =
        some ⟨"WEB", some .drop, [lateRule]⟩ ∧
      lateRule.action = none ∧
      .noAction "WEB" 1 ∈
        (((empty .standard).afterLines lateLines).traverse "WEB" lateView).notices :=
  ⟨find?_afterLines_lateLines.1, rfl, find?_afterLines_lateLines.2⟩

/-- The chain got its policy after the rule, which the walk passes over. -/
theorem policyAfterRules_lateLines :
    ((empty .standard).afterLines lateLines).chains.find? "WEB" =
        some ⟨"WEB", some .drop, [lateRule]⟩ ∧
      (empty .standard).PolicyAfterRules lateLines "WEB" ⟨"WEB", some .drop, [lateRule]⟩ ∧
      .noAction "WEB" 1 ∈
        (((empty .standard).afterLines lateLines).traverse "WEB" lateView).notices ∧
      ∃ chain rule, ((empty .standard).afterLines lateLines).PassesOver lateView "WEB" 1 chain
          rule ∧
        (chain.policy = none ∨ (empty .standard).PolicyAfterRules lateLines "WEB" chain) := by
  obtain ⟨found, told⟩ := find?_afterLines_lateLines
  have account := unsetRules_of_afterLines .standard lateLines
  have set := (account.1 "WEB" _ found).resolve_left (Option.some_ne_none Verdict.drop)
  refine ⟨found, set, told, ?_⟩
  -- What the lines come to is not looked at again.
  generalize (empty .standard).afterLines lateLines = reached at told account ⊢
  exact account.2 reached.tracker "WEB" lateView "WEB" 1 told

end Table
end PacketFilter
