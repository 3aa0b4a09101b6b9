import PacketFilter.Proofs.History
import PacketFilter.Proofs.Walk.MatchedPath

/-!
# Rules that cannot decide

A rule that does not match, a log rule and a rule without an action leave the decision to the rules
after them. Leaving out any number of such rules from any number of chains changes neither the
verdict nor the error of an evaluation, and of the log records it takes away those of the rules
that are left out (`evaluate_thin`). The walk through the thinner table asks the same chains
(`Course.thin`): where the walk passes a rule that is left out, the other one does nothing.
-/
namespace PacketFilter

/-- The rules at positions that are kept, of a list whose first rule has the given position. -/
def keptRules (keeps : Nat → Bool) (position : Nat) (rules : List Rule) : List Rule :=
  ((rules.zipIdx position).filter fun entry => keeps entry.2).map Prod.fst

/-- The number of positions that are kept, up to one and with it: the position that its rule has
among the kept ones. -/
def newPosition (keeps : Nat → Bool) (position : Nat) : Nat :=
  (List.range' 1 position).countP keeps

/-- A rule that is kept is the first one, and the others follow. -/
theorem keptRules_cons_of_kept {keeps : Nat → Bool} {position : Nat} (rule : Rule)
    (rest : List Rule) (kept : keeps position = true) :
    keptRules keeps position (rule :: rest) = rule :: keptRules keeps (position + 1) rest := by
  simp [keptRules, List.zipIdx_cons, kept]

/-- A rule that is not kept is left out. -/
theorem keptRules_cons_of_dropped {keeps : Nat → Bool} {position : Nat} (rule : Rule)
    (rest : List Rule) (dropped : keeps position = false) :
    keptRules keeps position (rule :: rest) = keptRules keeps (position + 1) rest := by
  simp [keptRules, List.zipIdx_cons, dropped]

/-- A position that is kept comes after the positions kept before it. -/
theorem newPosition_of_kept {keeps : Nat → Bool} {index : Nat} (kept : keeps (index + 1) = true) :
    newPosition keeps (index + 1) = newPosition keeps index + 1 := by
  simp [newPosition, List.range'_1_concat, Nat.add_comm 1 index, kept]

/-- A position that is not kept counts for nothing. -/
theorem newPosition_of_dropped {keeps : Nat → Bool} {index : Nat}
    (dropped : keeps (index + 1) = false) :
    newPosition keeps (index + 1) = newPosition keeps index := by
  simp [newPosition, List.range'_1_concat, Nat.add_comm 1 index, dropped]

/-- A rule that is kept stands at its new position. -/
theorem mem_zipIdx_keptRules {keeps : Nat → Bool} {rule : Rule} {position index : Nat}
    {rules : List Rule} (within : (rule, position) ∈ rules.zipIdx (index + 1))
    (kept : keeps position = true) :
    (rule, newPosition keeps position) ∈
      (keptRules keeps (index + 1) rules).zipIdx (newPosition keeps index + 1) := by
  induction rules generalizing index with
  | nil => exact absurd within List.not_mem_nil
  | cons first rest ih =>
    rw [List.zipIdx_cons, List.mem_cons] at within
    cases keptFirst : keeps (index + 1) with
    | true =>
      rw [keptRules_cons_of_kept first rest keptFirst, List.zipIdx_cons, List.mem_cons,
        ← newPosition_of_kept keptFirst]
      rcases within with same | later
      · cases same
        exact .inl rfl
      · exact .inr (ih later)
    | false =>
      rw [keptRules_cons_of_dropped first rest keptFirst, ← newPosition_of_dropped keptFirst]
      rcases within with same | later
      · cases same
        rw [kept] at keptFirst
        cases keptFirst
      · exact ih later

/-- The chain with the rules at positions that are kept. -/
def Chain.thin (chain : Chain) (keeps : Nat → Bool) : Chain :=
  { chain with rules := keptRules keeps 1 chain.rules }

/-- The chains with the rules at positions that are kept under their names. -/
def ChainSet.thin (chains : ChainSet) (keeps : String → Nat → Bool) : ChainSet :=
  ⟨chains.toList.map fun chain => chain.thin (keeps chain.name), by
    rw [List.pairwise_map]
    exact chains.ordered⟩

/-- What is found under a name is what was found there, with the rules that are kept. -/
theorem ChainSet.find?_thin (chains : ChainSet) (keeps : String → Nat → Bool) (name : String) :
    (chains.thin keeps).find? name =
      (chains.find? name).map fun chain => chain.thin (keeps chain.name) := by
  simp only [find?, thin, List.find?_map]
  rfl

/-- The log record with the position that its rule has among those that are kept. -/
def LogRecord.thin (record : LogRecord) (keeps : String → Nat → Bool) : LogRecord :=
  { record with position := newPosition (keeps record.chain) record.position }

/-- The log records of rules that are kept, with their new positions. -/
def thinLogs (keeps : String → Nat → Bool) (logs : List LogRecord) : List LogRecord :=
  (logs.filter fun record => keeps record.chain record.position).map fun record =>
    record.thin keeps

/-- Log records of two lists are kept in their order. -/
theorem thinLogs_append (keeps : String → Nat → Bool) (front back : List LogRecord) :
    thinLogs keeps (front ++ back) = thinLogs keeps front ++ thinLogs keeps back := by
  rw [thinLogs, List.filter_append, List.map_append, thinLogs, thinLogs]

/-- Log records of a rule that is kept get its new position. -/
theorem thinLogs_of_kept {keeps : String → Nat → Bool} {name : String} {position : Nat}
    {records : List LogRecord}
    (here : ∀ record ∈ records, record.chain = name ∧ record.position = position)
    (kept : keeps name position = true) :
    thinLogs keeps records = records.map fun record =>
      { record with position := newPosition (keeps name) position } := by
  have all : records.filter (fun record => keeps record.chain record.position) = records := by
    refine List.filter_eq_self.2 fun record within => ?_
    rw [(here record within).1, (here record within).2, kept]
  rw [thinLogs, all]
  refine List.map_congr_left fun record within => ?_
  rw [LogRecord.thin, (here record within).1, (here record within).2]

/-- Log records of a rule that is left out are left out. -/
theorem thinLogs_of_dropped {keeps : String → Nat → Bool} {name : String} {position : Nat}
    {records : List LogRecord}
    (here : ∀ record ∈ records, record.chain = name ∧ record.position = position)
    (dropped : keeps name position = false) : thinLogs keeps records = [] := by
  rw [thinLogs, List.map_eq_nil_iff, List.filter_eq_nil_iff]
  intro record within
  simp [(here record within).1, (here record within).2, dropped]

/-- A rule leaves the decision on a packet to the rules after it: it does not match, or it logs, or
it has no action. -/
def Rule.Idle (rule : Rule) (view : PacketView) (tracker : Tracker) : Prop :=
  rule.isMatch view tracker = false ∨ (∃ label, rule.action = some (.log label)) ∨
    rule.action = none

namespace Table

/-- The table with the rules at positions that are kept under the names of their chains. -/
def thin (table : Table) (keeps : String → Nat → Bool) : Table :=
  { table with chains := table.chains.thin keeps }

/-- A rule of the table is at a position that is not kept. -/
def Drops (table : Table) (keeps : String → Nat → Bool) (rule : Rule) : Prop :=
  ∃ chain ∈ table.chains.toList, ∃ position, (rule, position) ∈ chain.rules.zipIdx 1 ∧
    keeps chain.name position = false

variable {table : Table} {keeps : String → Nat → Bool} {view : PacketView}

/-- A rule that asks a chain asks it in the thinner table with the rules that are kept. -/
theorem effect_thin_of_ask {chain next : Chain} {position : Nat} {rule : Rule} {target : String}
    (effect : table.effect view chain position rule = .ask target next)
    (keeps : String → Nat → Bool) (place : Nat) :
    (table.thin keeps).effect view (chain.thin (keeps chain.name)) place rule =
      .ask target (next.thin (keeps next.name)) := by
  obtain ⟨matched, action, found⟩ := effect_eq_ask_iff.1 effect
  exact effect_eq_ask_iff.2 ⟨matched, action, by
    rw [thin, ChainSet.find?_thin, found, Option.map_some]⟩

/-- A rule that stops the walk stops it in the thinner table as well, with the same outcome. -/
theorem effect_thin_of_stop {chain : Chain} {position : Nat} {rule : Rule}
    {outcome : Except TableError (Option Verdict)}
    (effect : table.effect view chain position rule = .stop outcome)
    (keeps : String → Nat → Bool) (place : Nat) :
    (table.thin keeps).effect view (chain.thin (keeps chain.name)) place rule =
      .stop outcome := by
  cases outcome with
  | ok decided =>
    have decides := effect_eq_stop_ok_iff.1 effect
    exact effect_eq_stop_ok_iff.2 decides
  | error error =>
    obtain ⟨target, matched, action, absent, same⟩ := effect_eq_stop_error_iff.1 effect
    exact effect_eq_stop_error_iff.2 ⟨target, matched, action, by
      rw [thin, ChainSet.find?_thin, absent, Option.map_none], same⟩

/-- A rule that the walk passes is passed in the thinner table as well, and what it logs has its
place there. -/
theorem effect_thin_of_goOn {chain : Chain} {position : Nat} {rule : Rule} {notices : List Notice}
    (effect : table.effect view chain position rule = .goOn notices)
    (keeps : String → Nat → Bool) (place : Nat) :
    ∃ moved, (table.thin keeps).effect view (chain.thin (keeps chain.name)) place rule =
        .goOn moved ∧
      moved.filterMap Notice.record? = (notices.filterMap Notice.record?).map fun record =>
        { record with position := place } := by
  rcases effect_eq_goOn_iff.1 effect with
    ⟨unmatched, rfl⟩ | ⟨matched, ⟨label, acts, rfl⟩ | ⟨acts, rfl⟩⟩
  · exact ⟨_, effect_eq_goOn_iff.2 (.inl ⟨unmatched, rfl⟩), rfl⟩
  · exact ⟨_, effect_eq_goOn_iff.2 (.inr ⟨matched, .inl ⟨label, acts, rfl⟩⟩), rfl⟩
  · exact ⟨_, effect_eq_goOn_iff.2 (.inr ⟨matched, .inr ⟨acts, rfl⟩⟩), rfl⟩

/-- What a rule logs is its own record. -/
theorem records_of_goOn {chain : Chain} {position : Nat} {rule : Rule}
    {notices : List Notice} (effect : table.effect view chain position rule = .goOn notices) :
    ∀ record ∈ notices.filterMap Notice.record?,
      record.chain = chain.name ∧ record.position = position ∧
        rule.isMatch view table.tracker = true ∧ rule.action = some (.log record.label) := by
  rcases effect_eq_goOn_iff.1 effect with
    ⟨-, rfl⟩ | ⟨matched, ⟨label, acts, rfl⟩ | ⟨-, rfl⟩⟩
  · simp
  · simp [Notice.record?, matched, acts]
  · simp [Notice.record?]

/-- The walk passes every idle rule. -/
theorem exists_goOn_of_idle {rule : Rule} (idle : rule.Idle view table.tracker) (chain : Chain)
    (position : Nat) : ∃ notices, table.effect view chain position rule = .goOn notices := by
  cases matched : rule.isMatch view table.tracker with
  | false => exact ⟨_, effect_eq_goOn_iff.2 (.inl ⟨matched, rfl⟩)⟩
  | true =>
    rcases idle with unmatched | ⟨label, acts⟩ | acts
    · rw [matched] at unmatched
      cases unmatched
    · exact ⟨_, effect_eq_goOn_iff.2 (.inr ⟨matched, .inl ⟨label, acts, rfl⟩⟩)⟩
    · exact ⟨_, effect_eq_goOn_iff.2 (.inr ⟨matched, .inr ⟨acts, rfl⟩⟩)⟩

/-- A rule that the walk does not pass is kept, if only idle rules are left out. -/
theorem kept_of_effect {chain : Chain} {position : Nat} {rule : Rule} {effect : Effect}
    (idle : ∀ rule, table.Drops keeps rule → rule.Idle view table.tracker)
    (member : chain ∈ table.chains.toList) (within : (rule, position) ∈ chain.rules.zipIdx 1)
    (same : table.effect view chain position rule = effect)
    (passesNot : ∀ notices, effect ≠ .goOn notices) : keeps chain.name position = true := by
  cases kept : keeps chain.name position with
  | true => rfl
  | false =>
    obtain ⟨notices, passes⟩ :=
      exists_goOn_of_idle (idle rule ⟨chain, member, position, within, kept⟩) chain position
    exact absurd (same.symm.trans passes) (passesNot notices)

/-- The log records of a walk are those of log rules that match, at their positions. -/
theorem Course.of_mem_logs {path : List String} {chain : Chain} {position : Nat}
    {rules : List Rule} {walked : Walked}
    (course : table.Course view path chain position rules walked)
    (member : chain ∈ table.chains.toList)
    (within : rules.zipIdx position ⊆ chain.rules.zipIdx 1) :
    ∀ record ∈ walked.logs, ∃ source ∈ table.chains.toList, source.name = record.chain ∧
      ∃ rule, (rule, record.position) ∈ source.rules.zipIdx 1 ∧
        rule.isMatch view table.tracker = true ∧ rule.action = some (.log record.label) := by
  induction course with
  | ended | stopped | cyclic | tooDeep => exact fun _ logged => absurd logged List.not_mem_nil
  | @passed path chain position rule rest notices walked effect _ ih =>
    rw [List.zipIdx_cons, List.cons_subset] at within
    intro record logged
    rw [Walked.logs_after, List.mem_append] at logged
    rcases logged with here | later
    · obtain ⟨named, placed, matched, acts⟩ := records_of_goOn effect record here
      exact ⟨chain, member, named.symm, rule, placed ▸ within.1, matched, acts⟩
    · exact ih member within.2 record later
  | adopted effect _ _ _ _ ih =>
    obtain ⟨-, -, found⟩ := effect_eq_ask_iff.1 effect
    exact ih (ChainSet.mem_of_find? found) (List.Subset.refl _)
  | @returned _ _ _ _ _ _ _ inner _ effect _ _ _ _ _ innerIh laterIh =>
    obtain ⟨-, -, found⟩ := effect_eq_ask_iff.1 effect
    rw [List.zipIdx_cons, List.cons_subset] at within
    intro record logged
    rw [Walked.logs_after_returned, List.mem_append] at logged
    rcases logged with asked | later
    · exact innerIh (ChainSet.mem_of_find? found) (List.Subset.refl _) record asked
    · exact laterIh member within.2 record later

/-- The log records of an evaluation are those of log rules that match, at their positions. -/
theorem evaluate_logs {start : String} {evaluation : Evaluation}
    (succeeded : (table.evaluate start view).2 = .ok evaluation) :
    ∀ record ∈ evaluation.logs, ∃ source ∈ table.chains.toList, source.name = record.chain ∧
      ∃ rule, (rule, record.position) ∈ source.rules.zipIdx 1 ∧
        rule.isMatch view table.tracker = true ∧ rule.action = some (.log record.label) := by
  obtain ⟨decided, walked, rfl⟩ := (table.evaluate_eq_ok_iff view start evaluation).1 succeeded
  cases found : table.chains.find? start with
  | none => simp [traverse, found] at walked
  | some chain =>
    rw [table.traverse_of_find? view found]
    exact (table.walk_course view [start] chain).of_mem_logs (ChainSet.mem_of_find? found)
      (List.Subset.refl _)

/-- The walk through the rules that are kept comes to what the walk through all of them comes to,
if only idle rules are left out, and logs what the rules that are kept log. -/
theorem Course.thin (idle : ∀ rule, table.Drops keeps rule → rule.Idle view table.tracker)
    {path : List String} {chain : Chain} {position : Nat} {rules : List Rule}
    {walked : Walked} (course : table.Course view path chain position rules walked)
    (member : chain ∈ table.chains.toList)
    (within : rules.zipIdx position ⊆ chain.rules.zipIdx 1) (index : Nat)
    (place : position = index + 1) :
    ∃ thinned, (table.thin keeps).Course view path (chain.thin (keeps chain.name))
        (newPosition (keeps chain.name) index + 1)
        (keptRules (keeps chain.name) position rules) thinned ∧
      thinned.outcome = walked.outcome ∧ thinned.logs = thinLogs keeps walked.logs := by
  induction course generalizing index with
  | ended => exact ⟨_, .ended, rfl, rfl⟩
  | @passed path chain position rule rest notices walked effect _ ih =>
    rw [List.zipIdx_cons, List.cons_subset] at within
    obtain ⟨thinned, later, outcome, logs⟩ := ih member within.2 (index + 1) (congrArg (· + 1) place)
    have here : ∀ record ∈ notices.filterMap Notice.record?,
        record.chain = chain.name ∧ record.position = position := fun record logged =>
      ⟨(records_of_goOn effect record logged).1, (records_of_goOn effect record logged).2.1⟩
    rw [Walked.logs_after, thinLogs_append]
    subst place
    cases kept : keeps chain.name (index + 1) with
    | true =>
      obtain ⟨moved, passes, records⟩ :=
        effect_thin_of_goOn effect keeps (newPosition (keeps chain.name) index + 1)
      rw [newPosition_of_kept kept] at later
      rw [keptRules_cons_of_kept rule rest kept]
      refine ⟨_, .passed passes later, outcome, ?_⟩
      rw [Walked.logs_after, logs, records, thinLogs_of_kept here kept, newPosition_of_kept kept]
    | false =>
      -- The thinner table has no rule here, so its walk is the one through the rules after it.
      rw [newPosition_of_dropped kept] at later
      rw [keptRules_cons_of_dropped rule rest kept, thinLogs_of_dropped here kept,
        List.nil_append]
      exact ⟨thinned, later, outcome, logs⟩
  | stopped effect =>
    rw [List.zipIdx_cons, List.cons_subset] at within
    have kept := kept_of_effect idle member within.1 effect nofun
    rw [keptRules_cons_of_kept _ _ kept]
    exact ⟨_, .stopped (effect_thin_of_stop effect keeps _), rfl, rfl⟩
  | cyclic effect visited =>
    rw [List.zipIdx_cons, List.cons_subset] at within
    have kept := kept_of_effect idle member within.1 effect nofun
    rw [keptRules_cons_of_kept _ _ kept]
    exact ⟨_, .cyclic (effect_thin_of_ask effect keeps _) visited, rfl, rfl⟩
  | tooDeep effect fresh deep =>
    rw [List.zipIdx_cons, List.cons_subset] at within
    have kept := kept_of_effect idle member within.1 effect nofun
    rw [keptRules_cons_of_kept _ _ kept]
    exact ⟨_, .tooDeep (effect_thin_of_ask effect keeps _) fresh deep, rfl, rfl⟩
  | adopted effect fresh shallow _ decides ih =>
    rw [List.zipIdx_cons, List.cons_subset] at within
    have kept := kept_of_effect idle member within.1 effect nofun
    obtain ⟨-, -, found⟩ := effect_eq_ask_iff.1 effect
    obtain ⟨thinned, asked, outcome, logs⟩ :=
      ih (ChainSet.mem_of_find? found) (List.Subset.refl _) 0 rfl
    rw [keptRules_cons_of_kept _ _ kept]
    exact ⟨_, .adopted (effect_thin_of_ask effect keeps _) fresh shallow asked (outcome ▸ decides),
      outcome, logs⟩
  | returned effect fresh shallow _ undecided _ innerIh laterIh =>
    rw [List.zipIdx_cons, List.cons_subset] at within
    have kept := kept_of_effect idle member within.1 effect nofun
    obtain ⟨-, -, found⟩ := effect_eq_ask_iff.1 effect
    obtain ⟨inner, asked, innerOutcome, innerLogs⟩ :=
      innerIh (ChainSet.mem_of_find? found) (List.Subset.refl _) 0 rfl
    obtain ⟨thinned, later, outcome, logs⟩ :=
      laterIh member within.2 (index + 1) (congrArg (· + 1) place)
    subst place
    rw [newPosition_of_kept kept] at later
    rw [keptRules_cons_of_kept _ _ kept]
    refine ⟨_, .returned (effect_thin_of_ask effect keeps _) fresh shallow asked
      (innerOutcome.trans undecided) later, outcome, ?_⟩
    rw [Walked.logs_after_returned, Walked.logs_after_returned, thinLogs_append, innerLogs, logs]

/-- Walks from a start on through a table and through the thinner one come to the same, if only idle
rules are left out, and log what the rules that are kept log. -/
theorem traverse_thin (idle : ∀ rule, table.Drops keeps rule → rule.Idle view table.tracker)
    (start : String) :
    ((table.thin keeps).traverse start view).outcome = (table.traverse start view).outcome ∧
      ((table.thin keeps).traverse start view).logs =
        thinLogs keeps (table.traverse start view).logs := by
  have chains : (table.thin keeps).chains.find? start =
      (table.chains.find? start).map fun chain => chain.thin (keeps chain.name) :=
    table.chains.find?_thin keeps start
  cases found : table.chains.find? start with
  | none =>
    rw [found, Option.map_none] at chains
    simp only [traverse, found, chains]
    exact ⟨trivial, rfl⟩
  | some chain =>
    rw [found, Option.map_some] at chains
    obtain ⟨thinned, course, outcome, logs⟩ := (table.walk_course view [start] chain).thin idle
      (ChainSet.mem_of_find? found) (List.Subset.refl _) 0 rfl
    rw [table.traverse_of_find? view found, (table.thin keeps).traverse_of_find? view chains,
      course.walk_eq]
    exact ⟨outcome, logs⟩

/-- Leaving out rules that cannot decide on a packet changes neither the verdict on it nor the error
that is reported instead, nor what is established by that. Of the log records those of the rules
that are kept are left, at their new positions; these are all of them if no log rule that matches is
left out. A rule that is kept stands at its new position in its chain. -/
theorem evaluate_thin (table : Table) (keeps : String → Nat → Bool) (view : PacketView)
    (idle : ∀ rule, table.Drops keeps rule → rule.Idle view table.tracker) (start : String) :
    ((table.thin keeps).evaluate start view).2.map Evaluation.verdict =
        (table.evaluate start view).2.map Evaluation.verdict ∧
      ((table.thin keeps).evaluate start view).1.tracker =
        (table.evaluate start view).1.tracker ∧
      (∀ evaluation, (table.evaluate start view).2 = .ok evaluation →
        ((table.thin keeps).evaluate start view).2 =
          .ok ⟨evaluation.verdict, thinLogs keeps evaluation.logs⟩) ∧
      ((∀ rule, table.Drops keeps rule → rule.isMatch view table.tracker = true →
          ∀ label, rule.action ≠ some (.log label)) →
        ∀ evaluation, (table.evaluate start view).2 = .ok evaluation →
          ((table.thin keeps).evaluate start view).2 =
            .ok ⟨evaluation.verdict, evaluation.logs.map fun record => record.thin keeps⟩) ∧
      ∀ chain ∈ table.chains.toList, ∀ rule position, (rule, position) ∈ chain.rules.zipIdx 1 →
        keeps chain.name position = true →
          (rule, newPosition (keeps chain.name) position) ∈
            (chain.thin (keeps chain.name)).rules.zipIdx 1 := by
  obtain ⟨outcome, logs⟩ := traverse_thin idle start
  have kept : ∀ evaluation, (table.evaluate start view).2 = .ok evaluation →
      ((table.thin keeps).evaluate start view).2 =
        .ok ⟨evaluation.verdict, thinLogs keeps evaluation.logs⟩ := by
    intro evaluation succeeded
    obtain ⟨decided, walked, rfl⟩ := (table.evaluate_eq_ok_iff view start evaluation).1 succeeded
    exact ((table.thin keeps).evaluate_eq_ok_iff view start _).2
      ⟨decided, outcome.trans walked, by rw [logs]; rfl⟩
  have verdict : ((table.thin keeps).evaluate start view).2.map Evaluation.verdict =
      (table.evaluate start view).2.map Evaluation.verdict := by
    cases result : (table.evaluate start view).2 with
    | ok evaluation =>
      rw [kept evaluation result]
      rfl
    | error error =>
      have failed := (table.evaluate_eq_error_iff view start error).1 result
      rw [((table.thin keeps).evaluate_eq_error_iff view start error).2 (outcome.trans failed)]
  refine ⟨verdict, tracker_evaluate_congr rfl verdict, kept, ?_, ?_⟩
  · intro keepsLogs evaluation succeeded
    rw [kept evaluation succeeded, thinLogs, List.filter_eq_self.2]
    intro record logged
    obtain ⟨source, member, named, rule, within, matched, acts⟩ :=
      evaluate_logs succeeded record logged
    cases placed : keeps record.chain record.position with
    | true => rfl
    | false =>
      rw [← named] at placed
      exact absurd acts (keepsLogs rule ⟨source, member, _, within, placed⟩ matched _)
  · intro chain _ rule position within
    exact mem_zipIdx_keptRules within

/-- A chain that drops datagrams, logs the rest and asks another one, which has a rule without an
action, logs and accepts. -/
def notingTable : Table where
  chains := (ChainSet.empty.insert ⟨"INPUT", none,
      [{ Rule.wildcard with protocol := .udp, action := some .drop }, noting "in",
        always "WEB"]⟩).insert
    ⟨"WEB", none, [Rule.wildcard, noting "web", { Rule.wildcard with action := some .accept }]⟩
  tracker := .empty none
  options := .standard

/-- Its first rules cannot decide on a packet without layers, and they log nothing. -/
theorem notingTable_drops {rule : Rule}
    (drops : notingTable.Drops (fun _ position => position != 1) rule) :
    rule.isMatch ⟨[], none, none⟩ notingTable.tracker = false ∧ rule.action = some .drop ∨
      rule.action = none := by
  obtain ⟨chain, member, position, within, dropped⟩ := drops
  obtain rfl : position = 1 := by simpa using dropped
  have chains : notingTable.chains.toList = [⟨"INPUT", none,
      [{ Rule.wildcard with protocol := .udp, action := some .drop }, noting "in", always "WEB"]⟩,
      ⟨"WEB", none, [Rule.wildcard, noting "web",
        { Rule.wildcard with action := some .accept }]⟩] := by decide +kernel
  rw [chains] at member
  simp only [List.mem_cons, List.not_mem_nil, or_false] at member
  rcases member with rfl | rfl
  · obtain rfl : rule = { Rule.wildcard with protocol := .udp, action := some .drop } := by
      simpa [List.zipIdx_cons] using within
    exact .inl ⟨by decide +kernel, rfl⟩
  · obtain rfl : rule = Rule.wildcard := by simpa [List.zipIdx_cons] using within
    exact .inr rfl

/-- Without its first rules such a packet is accepted as before, and the log rules stand at the
positions before their old ones. -/
theorem evaluate_notingTable :
    (notingTable.evaluate "INPUT" ⟨[], none, none⟩).2 =
        .ok ⟨.accept, [⟨"INPUT", 2, "in"⟩, ⟨"WEB", 2, "web"⟩]⟩ ∧
      ((notingTable.thin fun _ position => position != 1).evaluate "INPUT"
        ⟨[], none, none⟩).2 = .ok ⟨.accept, [⟨"INPUT", 1, "in"⟩, ⟨"WEB", 1, "web"⟩]⟩ := by
  have accepted : (notingTable.evaluate "INPUT" ⟨[], none, none⟩).2 =
      .ok ⟨.accept, [⟨"INPUT", 2, "in"⟩, ⟨"WEB", 2, "web"⟩]⟩ := by decide +kernel
  have idle : ∀ rule, notingTable.Drops (fun _ position => position != 1) rule →
      rule.Idle ⟨[], none, none⟩ notingTable.tracker := fun rule drops =>
    (notingTable_drops drops).elim (fun unmatched => .inl unmatched.1) fun unset =>
      .inr (.inr unset)
  have keepsLogs : ∀ rule, notingTable.Drops (fun _ position => position != 1) rule →
      rule.isMatch ⟨[], none, none⟩ notingTable.tracker = true →
        ∀ label, rule.action ≠ some (.log label) := by
    intro rule drops _ label
    rcases notingTable_drops drops with ⟨-, action⟩ | action <;> simp [action]
  obtain ⟨-, -, -, logs, -⟩ := evaluate_thin notingTable (fun _ position => position != 1)
    ⟨[], none, none⟩ idle "INPUT"
  exact ⟨accepted, logs keepsLogs _ accepted⟩

end Table

end PacketFilter
