import PacketFilter.Proofs.Samples
import PacketFilter.Proofs.Step
import PacketFilter.Proofs.Text.Lines

/-!
# What a simulation decides and counts

A simulation evaluates packets one after the other and counts what becomes of them. Its decisions
are those of processing the packets one after the other, and it leaves the same table. Its counters
hold the numbers of packets by verdict and by error (`Program.simulate_account`).
-/
namespace PacketFilter

open Text

/-- The words of verdicts are different. -/
theorem Verdict.name_injective : Function.Injective Verdict.name := by
  intro left right same
  have read := congrArg Verdict.ofName? same
  rw [Verdict.ofName?_name, Verdict.ofName?_name] at read
  exact Option.some.inj read

/-- The error of an evaluation, if it failed. -/
def evaluationError? : Except TableError Evaluation → Option TableError
  | .ok _ => none
  | .error error => some error

namespace Table

/-- What evaluating packets in order by one chain comes to. -/
def evaluateAll (table : Table) (chain : String) :
    List PacketView → List (Except TableError Evaluation)
  | [] => []
  | view :: rest =>
    (table.evaluate chain view).2 :: (table.evaluate chain view).1.evaluateAll chain rest

/-- There are as many outcomes as packets. -/
theorem length_evaluateAll (table : Table) (chain : String) (views : List PacketView) :
    (table.evaluateAll chain views).length = views.length := by
  induction views generalizing table with
  | nil => rfl
  | cons view rest ih => rw [evaluateAll, List.length_cons, ih, List.length_cons]

/-- Process packets in order by one chain. -/
def processAll (table : Table) (chain : String) : List PacketView → Table × List Verdict
  | [] => (table, [])
  | view :: rest =>
    let (next, verdict) := table.process chain view
    let (final, verdicts) := next.processAll chain rest
    (final, verdict :: verdicts)

/-- Processing a packet leaves what evaluating it leaves, with the verdict that the outcome
means. -/
theorem process_eq (table : Table) (chain : String) (view : PacketView) :
    table.process chain view =
      ((table.evaluate chain view).1, verdictOfResult (table.evaluate chain view).2) := by
  unfold process
  split
  · next evaluated => rw [evaluated]; rfl
  · next failed => rw [failed]; rfl

/-- The verdicts of processing packets are those that their evaluations mean. -/
theorem processAll_snd (table : Table) (chain : String) (views : List PacketView) :
    (table.processAll chain views).2 = (table.evaluateAll chain views).map verdictOfResult := by
  induction views generalizing table with
  | nil => rfl
  | cons view rest ih => simp only [processAll, process_eq, ih, evaluateAll, List.map_cons]

end Table

namespace Simulation

variable (table : Table) (metrics : Metrics) (chain : String) (views : List PacketView)

/-- A simulation decides as processing the packets does. -/
theorem verdicts_run :
    (run table metrics chain views).verdicts = (table.processAll chain views).2 := by
  induction views generalizing table metrics with
  | nil => rfl
  | cons view rest ih => simp only [run, ih, Table.processAll, Table.process_eq]

/-- A simulation leaves what processing the packets leaves. -/
theorem table_run : (run table metrics chain views).table = (table.processAll chain views).1 := by
  induction views generalizing table metrics with
  | nil => rfl
  | cons view rest ih => simp only [run, ih, Table.processAll, Table.process_eq]

/-- A simulation counts the outcomes of evaluating the packets. -/
theorem metrics_run :
    (run table metrics chain views).metrics =
      (table.evaluateAll chain views).foldl (·.recordResult chain ·) metrics := by
  induction views generalizing table metrics with
  | nil => rfl
  | cons view rest ih => simp only [run, ih, Table.evaluateAll, List.foldl_cons]

end Simulation

namespace Metrics

variable (metrics : Metrics) (chain : String) (results : List (Except TableError Evaluation))

/-- Each outcome counts for its verdict once. -/
theorem verdicts_foldl_recordResult :
    (results.foldl (·.recordResult chain ·) metrics).verdicts =
      results.foldl (fun counted result => counted.bump [chain, (verdictOfResult result).name])
        metrics.verdicts := by
  induction results generalizing metrics with
  | nil => rfl
  | cons result rest ih =>
    rw [List.foldl_cons, ih, List.foldl_cons]
    cases result <;> rfl

/-- Each error counts for its kind once. -/
theorem evaluationErrors_foldl_recordResult :
    (results.foldl (·.recordResult chain ·) metrics).evaluationErrors =
      (results.filterMap evaluationError?).foldl (fun counted error => counted.bump [error.kind])
        metrics.evaluationErrors := by
  induction results generalizing metrics with
  | nil => rfl
  | cons result rest ih =>
    rw [List.foldl_cons, ih]
    cases result <;> rfl

end Metrics

namespace Simulation

/-- The decisions are cut into one line for each verdict. -/
theorem lines_decisions (simulation : Simulation) :
    lines simulation.decisions = simulation.verdicts.map Verdict.name := by
  have shape : simulation.decisions =
      String.join ((simulation.verdicts.map Verdict.name).map (· ++ "\n")) := by
    rw [decisions, List.map_map]
    rfl
  have plain : ∀ verdict : Verdict,
      '\n' ∉ verdict.name.toList ∧ verdict.name.toList.getLast? ≠ some '\r' := by
    intro verdict
    cases verdict <;> decide
  rw [shape, lines_join]
  · exact List.forall_mem_map.2 fun verdict _ => (plain verdict).1
  · exact List.forall_mem_map.2 fun verdict _ => (plain verdict).2

end Simulation

/-- What a simulation says about packets that were evaluated in order by one chain. -/
structure SimulationAccount (table : Table) (chain : String) (views : List PacketView)
    (simulation : Simulation) : Prop where
  /-- There is one line for each packet. -/
  length : (lines simulation.decisions).length = views.length
  /-- Each line is the verdict of processing its packet after those before it. -/
  decided : lines simulation.decisions = (table.processAll chain views).2.map Verdict.name
  /-- The table is the one that processing the packets leaves. -/
  reached : simulation.table = (table.processAll chain views).1
  /-- Each verdict is counted under the chain as often as there are lines with it. -/
  verdicts : ∀ verdict : Verdict, simulation.metrics.verdicts.count [chain, verdict.name] =
    (lines simulation.decisions).count verdict.name
  /-- The verdicts make up the number of packets. -/
  total : simulation.metrics.verdicts.count [chain, Verdict.accept.name] +
    simulation.metrics.verdicts.count [chain, Verdict.drop.name] = views.length
  /-- Errors of each kind are counted as often as evaluations fail with one. -/
  errors : ∀ kind, simulation.metrics.evaluationErrors.count [kind] =
    (((table.evaluateAll chain views).filterMap evaluationError?).map TableError.kind).count kind
  /-- The number under the kind of an error is that of the evaluations in which the same went
  wrong. -/
  kinds : ∀ error : TableError, simulation.metrics.evaluationErrors.count [error.kind] =
    ((table.evaluateAll chain views).filterMap evaluationError?).countP (error.SameKind ·)
  /-- A packet whose evaluation fails is dropped. -/
  dropped : ∀ (index : Nat) (error : TableError),
    (table.evaluateAll chain views)[index]? = some (.error error) →
      (lines simulation.decisions)[index]? = some Verdict.drop.name

namespace Simulation

variable (table : Table) (report : LoadReport) (chain : String) (views : List PacketView)

/-- The decisions are the words of what the evaluations of the packets mean. -/
theorem lines_decisions_run (metrics : Metrics) :
    lines (run table metrics chain views).decisions =
      (table.evaluateAll chain views).map fun result => (verdictOfResult result).name := by
  rw [lines_decisions, verdicts_run, Table.processAll_snd, List.map_map]
  rfl

/-- A verdict is counted as often as an evaluation means it. -/
theorem count_verdicts_run (verdict : Verdict) :
    (run table (Metrics.empty.observeLoad report) chain views).metrics.verdicts.count
        [chain, verdict.name] =
      (table.evaluateAll chain views).countP fun result => verdictOfResult result = verdict := by
  have fresh : (Metrics.empty.observeLoad report).verdicts = [] := rfl
  rw [metrics_run, Metrics.verdicts_foldl_recordResult, fresh,
    Samples.count_foldl_bump _ _ List.Pairwise.nil]
  have unused : Samples.count [] [chain, verdict.name] = 0 := rfl
  rw [unused, Nat.zero_add]
  refine List.countP_congr fun result _ => ?_
  simp [Verdict.name_injective.eq_iff]

/-- An error is counted as often as an evaluation fails with one of its kind. -/
theorem count_errors_run (kind : String) :
    (run table (Metrics.empty.observeLoad report) chain views).metrics.evaluationErrors.count
        [kind] =
      (((table.evaluateAll chain views).filterMap evaluationError?).map TableError.kind).count
        kind := by
  have fresh : (Metrics.empty.observeLoad report).evaluationErrors = [] := rfl
  rw [metrics_run, Metrics.evaluationErrors_foldl_recordResult, fresh,
    Samples.count_foldl_bump _ _ List.Pairwise.nil]
  have unused : Samples.count [] [kind] = 0 := rfl
  rw [unused, Nat.zero_add, List.count_eq_countP, List.countP_map]
  refine List.countP_congr fun error _ => ?_
  simp

end Simulation

/-- A simulation gives its account. -/
theorem Simulation.account_run (table : Table) (report : LoadReport) (chain : String)
    (views : List PacketView) :
    SimulationAccount table chain views
      (run table (Metrics.empty.observeLoad report) chain views) where
  length := by rw [lines_decisions_run, List.length_map, Table.length_evaluateAll]
  decided := by rw [lines_decisions, verdicts_run]
  reached := table_run _ _ _ _
  verdicts verdict := by
    rw [count_verdicts_run, lines_decisions_run, List.count_eq_countP, List.countP_map]
    refine List.countP_congr fun result _ => ?_
    simp [Verdict.name_injective.eq_iff]
  total := by
    have other : ∀ result ∈ table.evaluateAll chain views,
        decide (verdictOfResult result = .drop) = true ↔
          decide (¬decide (verdictOfResult result = .accept) = true) = true := by
      intro result _
      cases verdictOfResult result <;> decide
    rw [count_verdicts_run, count_verdicts_run, List.countP_congr other,
      ← List.length_eq_countP_add_countP, Table.length_evaluateAll]
  errors kind := count_errors_run table report chain views kind
  kinds error := by
    rw [count_errors_run, List.count_eq_countP, List.countP_map]
    refine List.countP_congr fun other _ => ?_
    rw [Function.comp_apply, beq_iff_eq, decide_eq_true_iff, ← TableError.kind_eq_kind_iff]
    exact eq_comm
  dropped index error failed := by
    rw [lines_decisions_run, List.getElem?_map, failed]
    rfl

namespace Program

open Step

/-- Comparing decisions only prints. -/
theorem onlyPrints_compare (decisions path : String) : (compare decisions path).OnlyPrints := by
  refine onlyPrints_bind (onlyPrints_consult _) fun expected => ?_
  split
  · exact onlyPrints_print _
  · exact onlyPrints_bind (onlyPrints_print _) fun _ => onlyPrints_throw _

/-- A rule file that loads gives its table and its report. -/
theorem gives_loadTableWarning {config : Config} {rules : String} {before : Progress}
    {table : Table} {report : LoadReport}
    (loads : (Table.empty config.tableOptions).loadFile before.disk rules = (table, .ok report)) :
    (loadTableWarning config rules).Gives before (table, report)
      { before with
        warnings := before.warnings ++
          String.join (report.skipped.map (SkippedLine.warning rules)) } := by
  have loaded : (loadTable config rules).Gives before (table, report) before := by
    refine gives_bind.2 ⟨(table, report), before, ?_, rfl⟩
    rw [Gives, outcome_consult, loads]
  exact gives_bind.2 ⟨_, _, loaded, gives_bind.2 ⟨(), _, rfl, rfl⟩⟩

/-- What a simulation prints about its metrics if they are asked for. -/
def metricsText (simulation : Simulation) (asked : Bool) : String :=
  if asked then (simulation.metrics.observeTable simulation.table).render else ""

/-- A run that can load its files and write its decisions has written the decisions of the
simulation, and has printed its metrics if they are asked for. -/
theorem simulate_writes {config : Config} {rules packets chain output : String}
    {expected : Option String} {metrics : Bool} {before : Progress} {table : Table}
    {report : LoadReport} {list : List Packet} {disk : Disk} {simulation : Simulation}
    (loads : (Table.empty config.tableOptions).loadFile before.disk rules = (table, .ok report))
    (listed : Packet.loadList before.disk packets = .ok list)
    (simulated : Simulation.run table (Metrics.empty.observeLoad report) chain
      (list.map Packet.view) = simulation)
    (written : before.disk.writeText output simulation.decisions = .ok disk) :
    ∃ warnings,
      PrintsTo
        ⟨disk, before.output ++ ("✅ Wrote " ++ toString list.length ++ " packet decisions to " ++
          output ++ "\n") ++ metricsText simulation metrics, warnings⟩
        ((simulate config rules packets chain output expected metrics).outcome before).2 := by
  rw [simulate, outcome_bind, gives_loadTableWarning loads]
  dsimp only
  rw [outcome_bind, outcome_consult]
  dsimp only
  rw [listed]
  dsimp only
  rw [simulated, outcome_bind, gives_change.2 ⟨disk, written, rfl⟩]
  dsimp only
  rw [outcome_bind, gives_print.2 rfl]
  dsimp only
  refine ⟨before.warnings ++ String.join (report.skipped.map (SkippedLine.warning rules)), ?_⟩
  -- Whatever a comparison comes to, what was written and printed before it stays.
  cases metrics with
  | false =>
    rw [if_neg Bool.false_ne_true, metricsText, if_neg Bool.false_ne_true, String.append_empty]
    cases expected with
    | none => exact onlyPrints_pure () _
    | some path => exact onlyPrints_compare simulation.decisions path _
  | true =>
    rw [if_pos rfl, outcome_bind, gives_print.2 rfl, metricsText, if_pos rfl]
    cases expected with
    | none => exact onlyPrints_pure () _
    | some path => exact onlyPrints_compare simulation.decisions path _

/-- Deciding on packets gives one line for each, in order, with the verdict of processing it, and
leaves the same flows. The verdicts and the errors that are counted are those of the packets. A run
of the program that can load its files and write its decisions has written these decisions, and has
printed these numbers if they are asked for. -/
theorem simulate_account (table : Table) (report : LoadReport) (chain : String)
    (views : List PacketView) {simulation : Simulation}
    (simulated : Simulation.run table (Metrics.empty.observeLoad report) chain views =
      simulation) :
    SimulationAccount table chain views simulation ∧
      ∀ (config : Config) (rules packets output : String) (expected : Option String)
        (metrics : Bool) (before : Progress) (list : List Packet) (disk : Disk),
        (Table.empty config.tableOptions).loadFile before.disk rules = (table, .ok report) →
        Packet.loadList before.disk packets = .ok list → list.map Packet.view = views →
        before.disk.writeText output simulation.decisions = .ok disk →
        ∃ warnings,
          PrintsTo
            ⟨disk, before.output ++ ("✅ Wrote " ++ toString list.length ++
              " packet decisions to " ++ output ++ "\n") ++ metricsText simulation metrics,
              warnings⟩
            ((simulate config rules packets chain output expected metrics).outcome before).2 := by
  refine ⟨simulated ▸ Simulation.account_run table report chain views, ?_⟩
  rintro config rules packets output expected metrics before list disk loads listed rfl written
  exact simulate_writes loads listed simulated written

/-- A disk with a chain that asks itself about ICMP packets and accepts others, and one packet of
each kind. -/
def loopingDisk : Disk :=
  .ofFiles [("f.rules", "-N INPUT\n-A INPUT -p icmp -j INPUT\n"),
    ("p.yaml", "- icmp: v4\n- icmp: null\n")]

/-- The table of the rules on that disk. -/
def selfAskingTable : Table :=
  ((Table.empty Config.standard.tableOptions).loadFile loopingDisk "f.rules").1

/-- The packet that leads around in a cycle is dropped, and the other one is accepted. -/
theorem simulate_loopingDisk :
    ((simulate .standard "f.rules" "p.yaml" "INPUT" "out" none false).outcome
      ⟨loopingDisk, "", ""⟩).2.disk = loopingDisk.put ["out"] "DROP\nACCEPT\n".toUTF8.toList := by
  obtain ⟨-, runs⟩ := simulate_account selfAskingTable ⟨2, 0, []⟩ "INPUT"
    [⟨[.icmpV4], none, none⟩, ⟨[], none, none⟩] rfl
  obtain ⟨_, kept, -⟩ := runs .standard "f.rules" "p.yaml" "out" none false ⟨loopingDisk, "", ""⟩
    [⟨none, none, some .v4⟩, ⟨none, none, none⟩]
    (loopingDisk.put ["out"] "DROP\nACCEPT\n".toUTF8.toList)
    (Prod.ext rfl (by decide +kernel)) (by decide +kernel) rfl (by decide +kernel)
  exact kept

end Program

end PacketFilter
