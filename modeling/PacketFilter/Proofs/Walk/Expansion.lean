import PacketFilter.Proofs.Walk.Plain

/-!
# Flat rule lists

A chain can be written as one list without jumps: each jump gives way to the entries of the chain
it leads to, guarded by the jump, and by an entry for the policy of that chain. Where all jumps
from a chain lead somewhere, not in a circle and not too deep, there is exactly one such list, and
deciding a packet by the chain is finding the first final entry whose guard holds.
-/
namespace PacketFilter

/-- What an entry of a flat list does where its guard holds. -/
inductive Conclusion where
  /-- It decides. -/
  | decide (verdict : Verdict)
  /-- It is noted. -/
  | note (record : LogRecord)
  deriving DecidableEq, Repr

/-- An entry of a flat list. -/
structure FlatEntry where
  /-- The rules that all have to match. -/
  guard : List Rule
  /-- What happens then. -/
  conclusion : Conclusion
  deriving DecidableEq, Repr

namespace FlatEntry

/-- The verdict of a final entry. -/
def verdict? (entry : FlatEntry) : Option Verdict :=
  match entry.conclusion with
  | .decide verdict => some verdict
  | .note _ => none

/-- The log record of an entry that is noted. -/
def record? (entry : FlatEntry) : Option LogRecord :=
  match entry.conclusion with
  | .decide _ => none
  | .note record => some record

/-- The entry that a policy stands for behind a guard, if there is a policy. -/
def ofPolicy (guard : List Rule) (policy : Option Verdict) : List FlatEntry :=
  policy.toList.map fun verdict => ⟨guard, .decide verdict⟩

/-- The verdict of the first final entry. -/
def firstVerdict (entries : List FlatEntry) : Option Verdict := entries.findSome? verdict?

/-- The log records of the entries before the first final one. -/
def recordsBefore (entries : List FlatEntry) : List LogRecord :=
  (entries.takeWhile fun entry => entry.verdict?.isNone).filterMap record?

/-- A list decides as its first entry does, if that is final. -/
@[simp] theorem firstVerdict_decide_cons (guard : List Rule) (verdict : Verdict)
    (rest : List FlatEntry) : firstVerdict (⟨guard, .decide verdict⟩ :: rest) = some verdict := rfl

/-- A list decides as the rest does behind an entry that is noted. -/
@[simp] theorem firstVerdict_note_cons (guard : List Rule) (record : LogRecord)
    (rest : List FlatEntry) :
    firstVerdict (⟨guard, .note record⟩ :: rest) = firstVerdict rest := rfl

/-- Nothing is noted before an entry that is first and final. -/
@[simp] theorem recordsBefore_decide_cons (guard : List Rule) (verdict : Verdict)
    (rest : List FlatEntry) : recordsBefore (⟨guard, .decide verdict⟩ :: rest) = [] := rfl

/-- An entry that is noted comes before what the rest notes. -/
@[simp] theorem recordsBefore_note_cons (guard : List Rule) (record : LogRecord)
    (rest : List FlatEntry) :
    recordsBefore (⟨guard, .note record⟩ :: rest) = record :: recordsBefore rest := rfl

/-- A policy entry decides as the policy does. -/
@[simp] theorem firstVerdict_ofPolicy (guard : List Rule) (policy : Option Verdict) :
    firstVerdict (ofPolicy guard policy) = policy := by
  cases policy <;> rfl

/-- A policy entry is not noted. -/
@[simp] theorem recordsBefore_ofPolicy (guard : List Rule) (policy : Option Verdict) :
    recordsBefore (ofPolicy guard policy) = [] := by
  cases policy <;> rfl

/-- The first final entry of two lists is that of the first list, if it has one. -/
@[simp] theorem firstVerdict_append (front back : List FlatEntry) :
    firstVerdict (front ++ back) = (firstVerdict front).or (firstVerdict back) :=
  List.findSome?_append

/-- Two lists note what the first one does and, if it has no final entry, what the second one
does. -/
theorem recordsBefore_append (front back : List FlatEntry) :
    recordsBefore (front ++ back) =
      recordsBefore front ++ if (firstVerdict front).isNone then recordsBefore back else [] := by
  induction front with
  | nil => rfl
  | cons entry rest ih =>
    obtain ⟨guard, verdict | record⟩ := entry
    · simp
    · simp [ih]

end FlatEntry

namespace Table

/-- The flat list of the rules of a chain from a position on, behind a guard. The policy of the
chain is left to the chain that asks. -/
inductive Expands (table : Table) :
    List Rule → Chain → Nat → List Rule → List FlatEntry → Prop where
  /-- No rule is left. -/
  | nil {guard : List Rule} {chain : Chain} {position : Nat} :
      Expands table guard chain position [] []
  /-- A rule that decides is an entry. -/
  | decided {guard : List Rule} {chain : Chain} {position : Nat} {rule : Rule}
      {rest : List Rule} {entries : List FlatEntry} {action : Action} {verdict : Verdict}
      (acts : rule.action = some action) (final : action.verdict? = some verdict)
      (later : Expands table guard chain (position + 1) rest entries) :
      Expands table guard chain position (rule :: rest)
        (⟨guard ++ [rule], .decide verdict⟩ :: entries)
  /-- A log rule is an entry. -/
  | logged {guard : List Rule} {chain : Chain} {position : Nat} {rule : Rule}
      {rest : List Rule} {entries : List FlatEntry} {label : String}
      (acts : rule.action = some (.log label))
      (later : Expands table guard chain (position + 1) rest entries) :
      Expands table guard chain position (rule :: rest)
        (⟨guard ++ [rule], .note ⟨chain.name, position, label⟩⟩ :: entries)
  /-- A rule without an action is left out. -/
  | unset {guard : List Rule} {chain : Chain} {position : Nat} {rule : Rule}
      {rest : List Rule} {entries : List FlatEntry} (acts : rule.action = none)
      (later : Expands table guard chain (position + 1) rest entries) :
      Expands table guard chain position (rule :: rest) entries
  /-- A jump gives way to the list and the policy of the chain it leads to. -/
  | jumped {guard : List Rule} {chain : Chain} {position : Nat} {rule : Rule}
      {rest : List Rule} {inner entries : List FlatEntry} {target : String} {next : Chain}
      (acts : rule.action = some (.jump target))
      (found : table.chains.find? target = some next)
      (asked : Expands table (guard ++ [rule]) next 1 next.rules inner)
      (later : Expands table guard chain (position + 1) rest entries) :
      Expands table guard chain position (rule :: rest)
        (inner ++ FlatEntry.ofPolicy (guard ++ [rule]) next.policy ++ entries)

/-- All rules of a guard match. -/
def guardHolds (table : Table) (view : PacketView) (guard : List Rule) : Bool :=
  guard.all fun rule => rule.isMatch view table.tracker

/-- The entries whose guards hold. -/
def holding (table : Table) (view : PacketView) (entries : List FlatEntry) : List FlatEntry :=
  entries.filter fun entry => table.guardHolds view entry.guard

variable {table : Table} {view : PacketView}

section Inversion

variable {guard : List Rule} {chain : Chain} {position : Nat} {rule : Rule} {rest : List Rule}
  {entries : List FlatEntry}

/-- A flat list at a rule that decides starts with its entry. -/
theorem Expands.of_final {action : Action} {verdict : Verdict}
    (expands : table.Expands guard chain position (rule :: rest) entries)
    (acts : rule.action = some action) (final : action.verdict? = some verdict) :
    ∃ later, table.Expands guard chain (position + 1) rest later ∧
      entries = ⟨guard ++ [rule], .decide verdict⟩ :: later := by
  cases expands with
  | decided same decides later =>
    cases acts.symm.trans same
    cases final.symm.trans decides
    exact ⟨_, later, rfl⟩
  | logged same | jumped same =>
    cases acts.symm.trans same
    cases final
  | unset same => cases acts.symm.trans same

/-- A flat list at a log rule starts with its entry. -/
theorem Expands.of_log {label : String}
    (expands : table.Expands guard chain position (rule :: rest) entries)
    (acts : rule.action = some (.log label)) :
    ∃ later, table.Expands guard chain (position + 1) rest later ∧
      entries = ⟨guard ++ [rule], .note ⟨chain.name, position, label⟩⟩ :: later := by
  cases expands with
  | logged same later =>
    cases acts.symm.trans same
    exact ⟨_, later, rfl⟩
  | decided same final =>
    cases acts.symm.trans same
    cases final
  | unset same | jumped same => cases acts.symm.trans same

/-- A flat list at a rule without an action is that of the rules after it. -/
theorem Expands.of_unset
    (expands : table.Expands guard chain position (rule :: rest) entries)
    (acts : rule.action = none) : table.Expands guard chain (position + 1) rest entries := by
  cases expands with
  | unset _ later => exact later
  | decided same | logged same | jumped same => cases acts.symm.trans same

/-- A flat list at a jump starts with the list and the policy of the chain it leads to. -/
theorem Expands.of_jump {target : String} {next : Chain}
    (expands : table.Expands guard chain position (rule :: rest) entries)
    (acts : rule.action = some (.jump target)) (found : table.chains.find? target = some next) :
    ∃ inner later, table.Expands (guard ++ [rule]) next 1 next.rules inner ∧
      table.Expands guard chain (position + 1) rest later ∧
      entries = inner ++ FlatEntry.ofPolicy (guard ++ [rule]) next.policy ++ later := by
  cases expands with
  | jumped same there asked later =>
    cases acts.symm.trans same
    cases found.symm.trans there
    exact ⟨_, _, asked, later, rfl⟩
  | decided same final =>
    cases acts.symm.trans same
    cases final
  | logged same | unset same => cases acts.symm.trans same

end Inversion

/-- A chain has at most one flat list behind a guard. -/
theorem Expands.unique {guard : List Rule} {chain : Chain} {position : Nat} {rules : List Rule}
    {entries other : List FlatEntry} (left : table.Expands guard chain position rules entries)
    (right : table.Expands guard chain position rules other) : entries = other := by
  induction left generalizing other with
  | nil =>
    cases right
    rfl
  | decided acts final _ ih =>
    obtain ⟨later, expands, rfl⟩ := right.of_final acts final
    rw [ih expands]
  | logged acts _ ih =>
    obtain ⟨later, expands, rfl⟩ := right.of_log acts
    rw [ih expands]
  | unset acts _ ih => exact ih (right.of_unset acts)
  | jumped acts found _ _ innerIh laterIh =>
    obtain ⟨inner, later, asked, expands, rfl⟩ := right.of_jump acts found
    rw [innerIh asked, laterIh expands]

/-- Every entry of a flat list is behind the guard of the list. -/
theorem Expands.guard_subset {guard : List Rule} {chain : Chain} {position : Nat}
    {rules : List Rule} {entries : List FlatEntry}
    (expands : table.Expands guard chain position rules entries) :
    ∀ entry ∈ entries, guard ⊆ entry.guard := by
  induction expands with
  | nil => simp
  | decided _ _ _ ih | logged _ _ ih =>
    simp only [List.forall_mem_cons]
    exact ⟨List.subset_append_left _ _, ih⟩
  | unset _ _ ih => exact ih
  | jumped _ _ _ _ innerIh laterIh =>
    simp only [List.forall_mem_append]
    refine ⟨⟨fun entry within => ?_, ?_⟩, laterIh⟩
    · exact List.Subset.trans (List.subset_append_left _ _) (innerIh entry within)
    · simp [FlatEntry.ofPolicy]

/-- An entry that asks for a rule that does not match is not among those that hold. -/
theorem holding_eq_nil {rule : Rule} {entries : List FlatEntry}
    (unmatched : rule.isMatch view table.tracker = false)
    (guarded : ∀ entry ∈ entries, rule ∈ entry.guard) : table.holding view entries = [] := by
  refine List.filter_eq_nil_iff.2 fun entry within holds => ?_
  have matched := List.all_eq_true.1 holds rule (guarded entry within)
  simp [unmatched] at matched

/-- Entries of two lists hold in their order. -/
theorem holding_append (front back : List FlatEntry) :
    table.holding view (front ++ back) = table.holding view front ++ table.holding view back :=
  List.filter_append front back

/-- A rule that does not match contributes no entry that holds. -/
theorem Expands.later_of_unmatched {guard : List Rule} {chain : Chain} {position : Nat}
    {rule : Rule} {rest : List Rule} {entries : List FlatEntry}
    (expands : table.Expands guard chain position (rule :: rest) entries)
    (unmatched : rule.isMatch view table.tracker = false) :
    ∃ later, table.Expands guard chain (position + 1) rest later ∧
      table.holding view entries = table.holding view later := by
  cases expands with
  | decided _ _ later | logged _ later =>
    refine ⟨_, later, ?_⟩
    rw [← List.singleton_append, holding_append, holding_eq_nil unmatched (by simp),
      List.nil_append]
  | unset _ later => exact ⟨_, later, rfl⟩
  | jumped _ _ asked later =>
    refine ⟨_, later, ?_⟩
    have inner := asked.guard_subset
    rw [holding_append, holding_eq_nil unmatched, List.nil_append]
    simp only [List.forall_mem_append]
    exact ⟨fun entry within => inner entry within (by simp), by simp [FlatEntry.ofPolicy]⟩

/-- An entry behind a guard that holds and a rule that matches holds. -/
theorem guardHolds_concat {guard : List Rule} {rule : Rule}
    (holds : table.guardHolds view guard = true)
    (matched : rule.isMatch view table.tracker = true) :
    table.guardHolds view (guard ++ [rule]) = true := by
  rw [guardHolds] at holds
  simp [guardHolds, holds, matched]

/-- An entry whose guard holds is among those that hold. -/
theorem holding_cons {guard : List Rule} (conclusion : Conclusion) (rest : List FlatEntry)
    (holds : table.guardHolds view guard = true) :
    table.holding view (⟨guard, conclusion⟩ :: rest) =
      ⟨guard, conclusion⟩ :: table.holding view rest :=
  List.filter_cons_of_pos holds

/-- A policy entry whose guard holds is among those that hold. -/
theorem holding_ofPolicy {guard : List Rule} (policy : Option Verdict)
    (holds : table.guardHolds view guard = true) :
    table.holding view (FlatEntry.ofPolicy guard policy) = FlatEntry.ofPolicy guard policy := by
  refine List.filter_eq_self.2 fun entry within => ?_
  obtain ⟨verdict, -, rfl⟩ := List.mem_map.1 within
  exact holds

/-- The plain walk decides by the first final entry that holds, or else by the policy, and notes
the entries that hold before it. -/
theorem PlainWalk.firstVerdict {guard : List Rule} {chain : Chain} {position depth : Nat}
    {rules : List Rule} {entries : List FlatEntry} {outcome : Except TableError (Option Verdict)}
    {logs : List LogRecord} {decided : Option Verdict}
    (plain : table.PlainWalk view depth chain position rules outcome logs)
    (expands : table.Expands guard chain position rules entries)
    (holds : table.guardHolds view guard = true) (succeeded : outcome = .ok decided) :
    decided = (FlatEntry.firstVerdict (table.holding view entries)).or chain.policy ∧
      logs = FlatEntry.recordsBefore (table.holding view entries) := by
  induction plain generalizing guard entries decided with
  | ended =>
    cases expands
    cases succeeded
    exact ⟨rfl, rfl⟩
  | skipped unmatched _ ih =>
    obtain ⟨later, goesOn, same⟩ := expands.later_of_unmatched unmatched
    rw [same]
    exact ih goesOn holds succeeded
  | ignored _ acts _ ih => exact ih (expands.of_unset acts) holds succeeded
  | logged matched acts _ ih =>
    obtain ⟨later, goesOn, rfl⟩ := expands.of_log acts
    obtain ⟨verdict, logs⟩ := ih goesOn holds succeeded
    rw [holding_cons _ _ (guardHolds_concat holds matched)]
    exact ⟨verdict, by simp [logs]⟩
  | accepted matched acts =>
    cases succeeded
    obtain ⟨later, -, rfl⟩ := expands.of_final acts rfl
    rw [holding_cons _ _ (guardHolds_concat holds matched)]
    exact ⟨rfl, rfl⟩
  | dropped matched acts =>
    cases succeeded
    rcases acts with acts | acts
    all_goals
      obtain ⟨later, -, rfl⟩ := expands.of_final acts rfl
      rw [holding_cons _ _ (guardHolds_concat holds matched)]
      exact ⟨rfl, rfl⟩
  | unknown => cases succeeded
  | adopted matched acts found _ decides ih =>
    obtain ⟨inner, later, asked, -, rfl⟩ := expands.of_jump acts found
    have deeper := guardHolds_concat holds matched
    obtain ⟨verdict, logs⟩ := ih asked deeper succeeded
    obtain ⟨adopted, rfl⟩ : ∃ adopted, decided = some adopted := by
      cases decided with
      | none => exact absurd succeeded decides
      | some adopted => exact ⟨adopted, rfl⟩
    rw [holding_append, holding_append, holding_ofPolicy _ deeper]
    -- The inner list or the policy behind it decides, so the rules after the jump do not count.
    constructor
    · rw [FlatEntry.firstVerdict_append, FlatEntry.firstVerdict_append,
        FlatEntry.firstVerdict_ofPolicy, ← verdict]
      rfl
    · rw [FlatEntry.recordsBefore_append, FlatEntry.firstVerdict_append,
        FlatEntry.firstVerdict_ofPolicy, ← verdict]
      simp [FlatEntry.recordsBefore_append, logs]
  | returned matched acts found _ _ innerIh laterIh =>
    obtain ⟨inner, later, asked, goesOn, rfl⟩ := expands.of_jump acts found
    have deeper := guardHolds_concat holds matched
    obtain ⟨noVerdict, innerLogs⟩ := innerIh asked deeper rfl
    obtain ⟨verdict, logs⟩ := laterIh goesOn holds succeeded
    rw [holding_append, holding_append, holding_ofPolicy _ deeper]
    -- Neither the inner list nor the policy behind it decides, so only its records remain.
    rw [eq_comm, Option.or_eq_none_iff] at noVerdict
    simp [FlatEntry.recordsBefore_append, noVerdict, verdict, logs, innerLogs]

end Table

end PacketFilter
