import PacketFilter.Proofs.LoadedTables
import PacketFilter.Proofs.Samples
import PacketFilter.Proofs.Simulation

/-!
# Metrics that watch a table

A table is used while metrics watch it: the report of each load is observed, verdicts and errors are
recorded, and the gauges are set to what the table holds at the time. The counters tally what was
recorded so far (`Counted`), so they never go down. A gauge is only ever set for a chain that is
there, and no chain is ever lost, so setting the gauges once more leaves none of another chain
(`chainRules_observeTable`). Whatever was called before, the metrics then mirror the table and the
history (`mirrors_run`).
-/
namespace PacketFilter

/-! ## Histories of a table and its metrics -/

/-- A table with the metrics that watch it. -/
structure Monitored where
  /-- The table. -/
  table : Table
  /-- The metrics. -/
  metrics : Metrics

/-- One call in the history of a table and its metrics. -/
inductive MonitoredCall where
  /-- The table is used, and the report of a load is observed. -/
  | use (operation : Operation)
  /-- The rule file at a path is loaded, and the report is observed. -/
  | loadFile (disk : Disk) (path : String)
  /-- A verdict is recorded for a chain. -/
  | recordVerdict (chain : String) (verdict : Verdict)
  /-- An error is recorded. -/
  | recordError (error : TableError)
  /-- The gauges are set. -/
  | observeTable

/-- The report of a load that came to its end. -/
def Answer.report? : Answer → Option LoadReport
  | loaded (.ok report) => some report
  | _ => none

namespace MonitoredCall

/-- The table after a call; calls for the metrics leave it alone. -/
def tableAfter (table : Table) : MonitoredCall → Table
  | use operation => (table.perform operation).1
  | loadFile disk path => (table.loadFile disk path).1
  | recordVerdict _ _ | recordError _ | observeTable => table

/-- The report that a call gives, if it is a load that comes to its end. -/
def report? (table : Table) : MonitoredCall → Option LoadReport
  | use operation => (table.perform operation).2.report?
  | loadFile disk path => (table.loadFile disk path).2.toOption
  | recordVerdict _ _ | recordError _ | observeTable => none

/-- The chain and the verdict that a call records. -/
def verdict? : MonitoredCall → Option (String × Verdict)
  | recordVerdict chain verdict => some (chain, verdict)
  | use _ | loadFile _ _ | recordError _ | observeTable => none

/-- The error that a call records. -/
def error? : MonitoredCall → Option TableError
  | recordError error => some error
  | use _ | loadFile _ _ | recordVerdict _ _ | observeTable => none

end MonitoredCall

/-- The metrics once a report is observed, if there is one. -/
def Metrics.observeReport (metrics : Metrics) : Option LoadReport → Metrics
  | none => metrics
  | some report => metrics.observeLoad report

namespace Monitored

/-- A table and metrics that nothing was counted in. -/
def fresh (table : Table) : Monitored := ⟨table, .empty⟩

/-- Make a call. -/
def perform (monitored : Monitored) (call : MonitoredCall) : Monitored where
  table := call.tableAfter monitored.table
  metrics :=
    match call with
    | .use _ | .loadFile _ _ => monitored.metrics.observeReport (call.report? monitored.table)
    | .recordVerdict chain verdict => monitored.metrics.recordVerdict chain verdict
    | .recordError error => monitored.metrics.recordError error
    | .observeTable => monitored.metrics.observeTable monitored.table

/-- Make calls in order. -/
def run (monitored : Monitored) (calls : List MonitoredCall) : Monitored :=
  calls.foldl perform monitored

/-- The reports that calls give in order. -/
def reports (monitored : Monitored) : List MonitoredCall → List LoadReport
  | [] => []
  | call :: rest =>
    (call.report? monitored.table).toList ++ (monitored.perform call).reports rest

variable (monitored : Monitored)

/-- Calls and others after them are made in order. -/
theorem run_append (earlier later : List MonitoredCall) :
    monitored.run (earlier ++ later) = (monitored.run earlier).run later :=
  List.foldl_append

/-- The reports of calls come before those of the calls after them. -/
theorem reports_append (earlier later : List MonitoredCall) :
    monitored.reports (earlier ++ later) =
      monitored.reports earlier ++ (monitored.run earlier).reports later := by
  induction earlier generalizing monitored with
  | nil => rfl
  | cons call rest ih =>
    rw [List.cons_append, reports, ih, reports, List.append_assoc]
    rfl

end Monitored

/-- What the first item gives comes before what the others give. -/
theorem filterMap_cons_eq_append {α β : Type} (given : α → Option β) (first : α) (rest : List α) :
    (first :: rest).filterMap given = (given first).toList ++ rest.filterMap given := by
  cases same : given first with
  | none => rw [List.filterMap_cons_none same, Option.toList_none, List.nil_append]
  | some value => rw [List.filterMap_cons_some same, Option.toList_some, List.singleton_append]

/-! ## Counters -/

/-- The counters of metrics hold what was recorded and observed: for each chain and verdict, each
kind of error and each reason to skip a line that occurred, the number of times that it did. -/
structure Metrics.Counted (metrics : Metrics) (verdicts : List (String × Verdict))
    (errors : List TableError) (reports : List LoadReport) : Prop where
  /-- Verdicts are counted by chain and verdict. -/
  verdicts : metrics.verdicts.Tallies (fun recorded => [recorded.1, recorded.2.name]) Eq verdicts
  /-- Errors are counted by what went wrong. -/
  errors : metrics.evaluationErrors.Tallies (fun error => [error.kind]) TableError.SameKind errors
  /-- Skipped lines are counted by what was wrong with them. -/
  skipped : metrics.skippedLines.Tallies (fun reason => [reason.kind]) SkipReason.SameKind
    ((reports.flatMap LoadReport.skipped).map SkippedLine.reason)

/-- No counter of metrics is less than before. -/
structure Metrics.CountersGrow (before after : Metrics) : Prop where
  /-- Verdicts were counted at most as often. -/
  verdicts : ∀ labels, before.verdicts.count labels ≤ after.verdicts.count labels
  /-- Errors were counted at most as often. -/
  errors : ∀ labels, before.evaluationErrors.count labels ≤ after.evaluationErrors.count labels
  /-- Skipped lines were counted at most as often. -/
  skipped : ∀ labels, before.skippedLines.count labels ≤ after.skippedLines.count labels

/-- Chains and verdicts have different labels unless they are the same. -/
theorem verdictLabels_eq_iff (left right : String × Verdict) :
    [left.1, left.2.name] = [right.1, right.2.name] ↔ left = right := by
  obtain ⟨chain, verdict⟩ := left
  obtain ⟨other, otherVerdict⟩ := right
  simp [Verdict.name_injective.eq_iff]

/-- Errors have different labels unless the same went wrong. -/
theorem errorLabels_eq_iff (left right : TableError) :
    [left.kind] = [right.kind] ↔ left.SameKind right := by
  rw [List.singleton_inj, TableError.kind_eq_kind_iff]

/-- Reasons to skip a line have different labels unless the same was wrong. -/
theorem reasonLabels_eq_iff (left right : SkipReason) :
    [left.kind] = [right.kind] ↔ left.SameKind right := by
  rw [List.singleton_inj, SkipReason.kind_eq_kind_iff]

namespace Metrics

variable {metrics : Metrics} {verdicts : List (String × Verdict)} {errors : List TableError}
  {reports : List LoadReport}

/-- Metrics that nothing was counted in hold nothing. -/
theorem counted_fresh (table : Table) : (Monitored.fresh table).metrics.Counted [] [] [] where
  verdicts := Samples.tallies_nil _ _
  errors := Samples.tallies_nil _ _
  skipped := Samples.tallies_nil _ _

/-- Observing a report counts the lines that it says were skipped. -/
theorem Counted.observeLoad (counted : metrics.Counted verdicts errors reports)
    (report : LoadReport) :
    (metrics.observeLoad report).Counted verdicts errors (reports ++ [report]) where
  verdicts := counted.verdicts
  errors := counted.errors
  skipped := by
    have tallied := counted.skipped.foldl_bump reasonLabels_eq_iff
      (report.skipped.map SkippedLine.reason)
    rw [List.foldl_map, ← List.map_append] at tallied
    rw [List.flatMap_append, List.flatMap_singleton]
    exact tallied

/-- Observing the report of a call counts the lines that were skipped, if it has one. -/
theorem Counted.observeReport (counted : metrics.Counted verdicts errors reports)
    (report : Option LoadReport) :
    (metrics.observeReport report).Counted verdicts errors (reports ++ report.toList) := by
  cases report with
  | none =>
    rw [Option.toList_none, List.append_nil]
    exact counted
  | some report => exact counted.observeLoad report

/-- A call counts what it records and what it has observed, and nothing else. -/
theorem Counted.perform {monitored : Monitored}
    (counted : monitored.metrics.Counted verdicts errors reports) (call : MonitoredCall) :
    (monitored.perform call).metrics.Counted (verdicts ++ call.verdict?.toList)
      (errors ++ call.error?.toList) (reports ++ (call.report? monitored.table).toList) := by
  cases call with
  | use operation =>
    simp only [MonitoredCall.verdict?, MonitoredCall.error?, Option.toList_none, List.append_nil]
    exact counted.observeReport _
  | loadFile disk path =>
    simp only [MonitoredCall.verdict?, MonitoredCall.error?, Option.toList_none, List.append_nil]
    exact counted.observeReport _
  | recordVerdict chain verdict =>
    simp only [MonitoredCall.error?, MonitoredCall.report?, Option.toList_none, List.append_nil]
    have tallied := counted.verdicts.bump verdictLabels_eq_iff (chain, verdict)
    exact ⟨tallied, counted.errors, counted.skipped⟩
  | recordError error =>
    simp only [MonitoredCall.verdict?, MonitoredCall.report?, Option.toList_none, List.append_nil]
    have tallied := counted.errors.bump errorLabels_eq_iff error
    exact ⟨counted.verdicts, tallied, counted.skipped⟩
  | observeTable =>
    simp only [MonitoredCall.verdict?, MonitoredCall.error?, MonitoredCall.report?,
      Option.toList_none, List.append_nil]
    exact ⟨counted.verdicts, counted.errors, counted.skipped⟩

/-- Calls in a row count what they record and what they have observed. -/
theorem Counted.run {monitored : Monitored}
    (counted : monitored.metrics.Counted verdicts errors reports) (calls : List MonitoredCall) :
    (monitored.run calls).metrics.Counted (verdicts ++ calls.filterMap MonitoredCall.verdict?)
      (errors ++ calls.filterMap MonitoredCall.error?) (reports ++ monitored.reports calls) := by
  induction calls generalizing monitored verdicts errors reports with
  | nil =>
    simp only [List.filterMap_nil, Monitored.reports, List.append_nil]
    exact counted
  | cons call rest ih =>
    have later := ih (counted.perform call)
    rw [List.append_assoc, List.append_assoc, List.append_assoc] at later
    rw [filterMap_cons_eq_append, filterMap_cons_eq_append]
    exact later

/-- Counters that go on from others hold no less. -/
theorem Counted.countersGrow {later : Metrics} {moreVerdicts : List (String × Verdict)}
    {moreErrors : List TableError} {moreReports : List LoadReport}
    (counted : metrics.Counted verdicts errors reports)
    (countedLater : later.Counted (verdicts ++ moreVerdicts) (errors ++ moreErrors)
      (reports ++ moreReports)) : metrics.CountersGrow later where
  verdicts := counted.verdicts.count_le verdictLabels_eq_iff countedLater.verdicts
  errors := counted.errors.count_le errorLabels_eq_iff countedLater.errors
  skipped := by
    have tallied := countedLater.skipped
    rw [List.flatMap_append, List.map_append] at tallied
    exact counted.skipped.count_le reasonLabels_eq_iff tallied

end Metrics

/-! ## Gauges -/

namespace Table

variable {table : Table}

/-- No use of a table removes a chain. -/
theorem keptIn_perform (table : Table) (operation : Operation) :
    table.KeptIn (table.perform operation).1 := by
  have decided (decides : operation.packet? ≠ none) : table.KeptIn (table.perform operation).1 := by
    rw [table.perform_of_packet? decides]
    exact .refl table
  cases operation with
  | addChain chain =>
    cases added : table.addChain chain with
    | error error =>
      simp only [perform, added]
      exact .refl table
    | ok changed =>
      simp only [perform, added]
      unfold addChain at added
      split at added
      · cases added
      · cases added
        intro name found
        rw [ChainSet.find?_insert]
        split
        · rfl
        · exact found
  | apply command =>
    obtain ⟨after, answer, outcome⟩ := table.exists_commandOutcome command
    rw [outcome.perform_eq]
    exact outcome.keptIn
  | loadText text =>
    have kept := table.keptIn_afterLines (Text.lines text)
    rwa [← loadLines_fst _ 1] at kept
  | loadSource source =>
    have kept := table.keptIn_afterLines source.lines.1
    rw [← loadLines_fst _ 1] at kept
    simp only [perform, loadSource]
    split <;> exact kept
  | evaluate start view => exact decided (Option.some_ne_none view)
  | process start view => exact decided (Option.some_ne_none view)

/-- Loading a rule file removes no chain, also if it cannot be read to its end. -/
theorem keptIn_loadFile (table : Table) (disk : Disk) (path : String) :
    table.KeptIn (table.loadFile disk path).1 := by
  unfold loadFile loadOpened
  split
  · exact .refl table
  · next source opened =>
    have kept := table.keptIn_perform (.loadSource source)
    simp only [perform] at kept
    split
    · next failed => rwa [failed] at kept
    · next ended => rwa [ended] at kept

/-- No call removes a chain. -/
theorem keptIn_tableAfter (table : Table) (call : MonitoredCall) :
    table.KeptIn (call.tableAfter table) := by
  cases call with
  | use operation => exact table.keptIn_perform operation
  | loadFile disk path => exact table.keptIn_loadFile disk path
  | recordVerdict | recordError | observeTable => exact .refl table

end Table

namespace Metrics

variable {metrics : Metrics} {table after : Table}

/-- Gauges of rules are set for chains that are there, if not up to date. -/
structure Watches (metrics : Metrics) (table : Table) : Prop where
  /-- No chain has two of them. -/
  ordered : metrics.chainRules.Ordered
  /-- Each of them is for a chain. -/
  known : ∀ entry ∈ metrics.chainRules,
    ∃ name, entry.1 = [name] ∧ (table.chains.find? name).isSome = true

/-- Gauges stay those of chains that are there while chains are kept. -/
theorem Watches.of_keptIn (watches : metrics.Watches table) (kept : table.KeptIn after) :
    metrics.Watches after where
  ordered := watches.ordered
  known entry within := by
    obtain ⟨name, labels, found⟩ := watches.known entry within
    exact ⟨name, labels, kept name found⟩

/-- Setting the gauges leaves one for each chain, with the number of its rules, and no other. -/
theorem Watches.chainRules_observeTable (watches : metrics.Watches table) :
    (metrics.observeTable table).chainRules =
      table.chains.toList.map fun chain => ([chain.name], chain.size) := by
  have ascending : table.chains.toList.Pairwise fun left right => [left.name] < [right.name] :=
    table.chains.ordered.imp fun less => List.cons_lt_cons_iff.2 (.inl less)
  have distinct : table.chains.toList.Pairwise fun left right => [left.name] ≠ [right.name] :=
    ascending.imp Std.ne_of_lt
  have orderedMap : Samples.Ordered
      (table.chains.toList.map fun chain => ([chain.name], chain.size)) :=
    List.pairwise_map.2 ascending
  refine Samples.ext_get? (Samples.ordered_foldl_put _ _ watches.ordered _) orderedMap
    fun labels => ?_
  by_cases isChain : ∃ chain ∈ table.chains.toList, [chain.name] = labels
  · obtain ⟨chain, within, rfl⟩ := isChain
    have set : Samples.get? (metrics.observeTable table).chainRules [chain.name] =
        some chain.size := Samples.get?_foldl_put _ _ watches.ordered distinct within
    have listed : Samples.get? (table.chains.toList.map fun chain => ([chain.name], chain.size))
        [chain.name] = some chain.size :=
      (Samples.mem_iff_get? orderedMap).1 (List.mem_map.2 ⟨chain, within, rfl⟩)
    exact set.trans listed.symm
  · have other : ∀ chain ∈ table.chains.toList, [chain.name] ≠ labels :=
      fun chain within same => isChain ⟨chain, within, same⟩
    have kept : Samples.get? (metrics.observeTable table).chainRules labels =
        metrics.chainRules.get? labels := Samples.get?_foldl_put_of_forall_ne _ _ other
    -- A gauge that was not set now was set for a chain, which is still there.
    have unset : metrics.chainRules.get? labels = none := by
      refine Option.eq_none_iff_forall_ne_some.2 fun value found => ?_
      obtain ⟨name, rfl, isThere⟩ :=
        watches.known _ ((Samples.mem_iff_get? watches.ordered).2 found)
      obtain ⟨chain, foundChain⟩ := Option.isSome_iff_exists.1 isThere
      obtain ⟨within, rfl⟩ := ChainSet.find?_eq_some_iff.1 foundChain
      exact other chain within rfl
    have unlisted : Samples.get?
        (table.chains.toList.map fun chain => ([chain.name], chain.size)) labels = none := by
      refine Option.eq_none_iff_forall_ne_some.2 fun value found => ?_
      obtain ⟨chain, within, same⟩ := List.mem_map.1 ((Samples.mem_iff_get? orderedMap).2 found)
      exact other chain within (congrArg Prod.fst same)
    rw [unlisted, ← unset]
    exact kept

/-- Gauges that are set are those of chains that are there. -/
theorem Watches.observeTable (watches : metrics.Watches table) :
    (metrics.observeTable table).Watches table where
  ordered := Samples.ordered_foldl_put _ _ watches.ordered _
  known entry within := by
    rw [watches.chainRules_observeTable] at within
    obtain ⟨chain, listed, rfl⟩ := List.mem_map.1 within
    have found : table.chains.find? chain.name = some chain :=
      ChainSet.find?_eq_some_iff.2 ⟨listed, rfl⟩
    exact ⟨chain.name, rfl, by rw [found, Option.isSome_some]⟩

/-- A call leaves gauges of chains that are there. -/
theorem Watches.perform {monitored : Monitored}
    (watches : monitored.metrics.Watches monitored.table) (call : MonitoredCall) :
    (monitored.perform call).metrics.Watches (monitored.perform call).table := by
  have kept := watches.of_keptIn (monitored.table.keptIn_tableAfter call)
  have observed (report : Option LoadReport) :
      (monitored.metrics.observeReport report).chainRules = monitored.metrics.chainRules := by
    cases report <;> rfl
  cases call with
  | use operation => exact ⟨observed _ ▸ kept.ordered, observed _ ▸ kept.known⟩
  | loadFile disk path => exact ⟨observed _ ▸ kept.ordered, observed _ ▸ kept.known⟩
  | recordVerdict | recordError => exact ⟨kept.ordered, kept.known⟩
  | observeTable => exact watches.observeTable

/-- Calls in a row leave gauges of chains that are there. -/
theorem Watches.run {monitored : Monitored}
    (watches : monitored.metrics.Watches monitored.table) (calls : List MonitoredCall) :
    (monitored.run calls).metrics.Watches (monitored.run calls).table := by
  induction calls generalizing monitored with
  | nil => exact watches
  | cons call rest ih => exact ih (watches.perform call)

/-- Without gauges there is none of another chain. -/
theorem watches_fresh (table : Table) :
    (Monitored.fresh table).metrics.Watches (Monitored.fresh table).table :=
  ⟨List.Pairwise.nil, fun _ within => absurd within List.not_mem_nil⟩

/-- Metrics hold what a table holds and what was recorded and observed, and nothing else. -/
structure Mirrors (metrics : Metrics) (table : Table) (verdicts : List (String × Verdict))
    (errors : List TableError) (reports : List LoadReport) : Prop
    extends metrics.Counted verdicts errors reports where
  /-- There is one gauge for each chain, with the number of its rules. -/
  chainRules : metrics.chainRules =
    table.chains.toList.map fun chain => ([chain.name], chain.rules.length)
  /-- The number of established flows is that of the flows that the tracker holds. -/
  establishedConnections : metrics.establishedConnections = table.tracker.tokens.length

end Metrics

namespace Monitored

/-- Metrics that watch a table from the start mirror it whenever the gauges have just been set,
whatever was called before: there is one gauge for each chain and none of another name, and one
sample for each chain and verdict, each kind of error and each reason to skip a line that occurred,
with the number of times that it did. Between any two calls no counter goes down. -/
theorem mirrors_run (table : Table) (calls : List MonitoredCall) :
    ((fresh table).run (calls ++ [.observeTable])).metrics.Mirrors
        ((fresh table).run (calls ++ [.observeTable])).table
        (calls.filterMap MonitoredCall.verdict?) (calls.filterMap MonitoredCall.error?)
        ((fresh table).reports calls) ∧
      ∀ earlier later : List MonitoredCall,
        ((fresh table).run earlier).metrics.CountersGrow
          ((fresh table).run (earlier ++ later)).metrics := by
  have counted (made : List MonitoredCall) := (Metrics.counted_fresh table).run made
  constructor
  · have watches : ((fresh table).run calls).metrics.Watches ((fresh table).run calls).table :=
      (Metrics.watches_fresh table).run calls
    obtain ⟨verdicts, errors, skipped⟩ := counted calls
    rw [run_append]
    exact ⟨⟨verdicts, errors, skipped⟩, watches.chainRules_observeTable, rfl⟩
  · intro earlier later
    have longer := counted (earlier ++ later)
    rw [List.filterMap_append, List.filterMap_append, reports_append] at longer
    exact (counted earlier).countersGrow longer

example : ((fresh (.empty .standard)).run
    [.use (.loadText "-N WEB\n-A WEB -j ACCEPT\n-A API -j DROP"),
      .use (.evaluate "WEB" ⟨[.tcp], some ⟨"10.0.0.1", "10.0.0.2"⟩, some ⟨"4000", "80"⟩⟩),
      .observeTable, .recordVerdict "WEB" .accept, .use (.apply (.flush none)),
      .observeTable]).metrics =
    ⟨[(["WEB", "ACCEPT"], 1)], [], [(["reference"], 1)], [(["WEB"], 0)], 1⟩ := by
  decide +kernel

end Monitored

end PacketFilter
