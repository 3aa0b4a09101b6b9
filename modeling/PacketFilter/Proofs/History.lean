import PacketFilter.Table.Load
import PacketFilter.Table.Walk

/-!
# Histories of a table

A table is used by operations, one after the other: chains are added, commands and rule lines are
carried out, and packets are decided. Everything but a decision edits chains and nothing else, so
the established flows of a table are those of the packets that were accepted so far.
-/
namespace PacketFilter

/-- One use of a table. -/
inductive Operation where
  /-- A chain is added. -/
  | addChain (chain : Chain)
  /-- A command is carried out. -/
  | apply (command : Command)
  /-- The rule lines of a text are carried out. -/
  | loadText (text : String)
  /-- The rule lines of a source are carried out. -/
  | loadSource (source : ByteSource)
  /-- A packet is decided by the chain of a name. -/
  | evaluate (start : String) (view : PacketView)
  /-- A packet is decided by the chain of a name and dropped if that fails. -/
  | process (start : String) (view : PacketView)

/-- What an operation gives back. -/
inductive Answer where
  /-- Whether the chain was added. -/
  | added (outcome : Except TableError Unit)
  /-- Whether the command had an effect. -/
  | applied (outcome : Except TableError Bool)
  /-- What became of the lines. -/
  | loaded (outcome : Except LoadFailure LoadReport)
  /-- The verdict with the log records. -/
  | evaluated (outcome : Except TableError Evaluation)
  /-- The verdict. -/
  | processed (verdict : Verdict)

/-- The packet that an operation decides on. -/
def Operation.packet? : Operation → Option PacketView
  | evaluate _ view | process _ view => some view
  | addChain _ | apply _ | loadText _ | loadSource _ => none

/-- Whether an answer says that a packet is accepted. -/
def Answer.isAccept : Answer → Bool
  | evaluated (.ok ⟨.accept, _⟩) | processed .accept => true
  | _ => false

/-- The flow of the packet that an operation accepted, if it has one. -/
def acceptedFlow : Operation → Answer → Option FlowKey
  | .evaluate _ view, .evaluated (.ok ⟨.accept, _⟩) => FlowKey.ofView? view
  | .process _ view, .processed .accept => FlowKey.ofView? view
  | _, _ => none

namespace Table

/-- Carry out an operation. -/
def perform (table : Table) : Operation → Table × Answer
  | .addChain chain =>
    match table.addChain chain with
    | .error error => (table, .added (.error error))
    | .ok changed => (changed, .added (.ok ()))
  | .apply command =>
    match table.apply command with
    | .error error => (table, .applied (.error error))
    | .ok none => (table, .applied (.ok false))
    | .ok (some changed) => (changed, .applied (.ok true))
  | .loadText text =>
    let (next, report) := table.loadText text
    (next, .loaded (.ok report))
  | .loadSource source =>
    let (next, outcome) := table.loadSource source
    (next, .loaded outcome)
  | .evaluate start view =>
    let (next, outcome) := table.evaluate start view
    (next, .evaluated outcome)
  | .process start view =>
    let (next, verdict) := table.process start view
    (next, .processed verdict)

/-- The table once operations are carried out in order. -/
def run (table : Table) : List Operation → Table
  | [] => table
  | operation :: rest => (table.perform operation).1.run rest

/-- What operations give back that are carried out in order. -/
def answers (table : Table) : List Operation → List Answer
  | [] => []
  | operation :: rest =>
    (table.perform operation).2 :: (table.perform operation).1.answers rest

/-- The flows of the packets that operations accept in order. -/
def acceptedFlows (table : Table) : List Operation → List FlowKey
  | [] => []
  | operation :: rest =>
    (acceptedFlow operation (table.perform operation).2).toList ++
      (table.perform operation).1.acceptedFlows rest

/-- Two tables differ in their chains at most. -/
structure SameBesideChains (before after : Table) : Prop where
  /-- The same flows are established. -/
  tracker : after.tracker = before.tracker
  /-- The settings are the same. -/
  options : after.options = before.options

/-- A table has its own flows and settings. -/
theorem SameBesideChains.refl (table : Table) : SameBesideChains table table := ⟨rfl, rfl⟩

/-- Two edits in a row touch chains only, if each does. -/
theorem SameBesideChains.trans {before between after : Table}
    (left : SameBesideChains before between) (right : SameBesideChains between after) :
    SameBesideChains before after :=
  ⟨right.tracker.trans left.tracker, right.options.trans left.options⟩

variable {table changed : Table}

/-- Adding a chain touches chains only. -/
theorem sameBesideChains_of_addChain {chain : Chain} (added : table.addChain chain = .ok changed) :
    SameBesideChains table changed := by
  unfold addChain at added
  split at added
  · cases added
  · cases added
    exact ⟨rfl, rfl⟩

/-- An edit of a chain touches chains only. -/
theorem sameBesideChains_of_edit {name : String} {change : Chain → Option Chain}
    (edited : table.edit name change = .ok (some changed)) : SameBesideChains table changed := by
  unfold edit at edited
  split at edited
  · cases edited
  · next chain found =>
    obtain ⟨_, -, rfl⟩ := Option.map_eq_some_iff.1 (Except.ok.inj edited)
    exact ⟨rfl, rfl⟩

/-- A command touches chains only. -/
theorem sameBesideChains_of_apply {command : Command}
    (applied : table.apply command = .ok (some changed)) : SameBesideChains table changed := by
  cases command with
  | newChain name =>
    rw [apply] at applied
    cases added : table.addChain (.empty name none) with
    | error error =>
      rw [added] at applied
      cases applied
    | ok extended =>
      rw [added] at applied
      cases applied
      exact sameBesideChains_of_addChain added
  | flush target =>
    cases target with
    | none =>
      cases applied
      exact ⟨rfl, rfl⟩
    | some name => exact sameBesideChains_of_edit applied
  | setPolicy | append | insert | deleteAt | deleteMatching | replace =>
    exact sameBesideChains_of_edit applied

/-- Carrying out a line touches chains only. -/
theorem sameBesideChains_loadLine (table : Table) (text : String) :
    SameBesideChains table (table.loadLine text).1 := by
  unfold loadLine
  split
  · exact .refl table
  · exact .refl table
  · split
    · exact .refl table
    · exact .refl table
    · next applied => exact sameBesideChains_of_apply applied

/-- Carrying out lines touches chains only. -/
theorem sameBesideChains_loadLines (table : Table) (number : Nat) (lines : List String) :
    SameBesideChains table (table.loadLines number lines).1 := by
  induction lines generalizing table number with
  | nil => exact .refl table
  | cons text rest ih =>
    simp only [loadLines]
    exact (sameBesideChains_loadLine table text).trans (ih (table.loadLine text).1 (number + 1))

/-- Loading from a source touches chains only, also if the source fails. -/
theorem sameBesideChains_loadSource (table : Table) (source : ByteSource) :
    SameBesideChains table (table.loadSource source).1 := by
  have lines := sameBesideChains_loadLines table 1 source.lines.1
  unfold loadSource
  dsimp only
  split <;> exact lines

/-- A verdict establishes the flow that it records. -/
theorem tracker_settle (table : Table) (verdict : Verdict) (view : PacketView) :
    (table.settle verdict view).tracker =
      table.tracker.recordAll (flowToRecord verdict view).toList := by
  unfold settle
  cases flowToRecord verdict view <;> rfl

/-- An evaluation that fails leaves the table as it was. -/
theorem evaluate_of_error {start : String} {view : PacketView} {error : TableError}
    (failed : (table.evaluate start view).2 = .error error) :
    table.evaluate start view = (table, .error error) := by
  unfold evaluate at failed ⊢
  dsimp only at failed ⊢
  split at failed
  · cases failed
    rfl
  · cases failed

/-- An evaluation that succeeds settles its verdict. -/
theorem evaluate_of_ok {start : String} {view : PacketView} {evaluation : Evaluation}
    (succeeded : (table.evaluate start view).2 = .ok evaluation) :
    table.evaluate start view = (table.settle evaluation.verdict view, .ok evaluation) := by
  unfold evaluate at succeeded ⊢
  dsimp only at succeeded ⊢
  split at succeeded
  · cases succeeded
  · cases succeeded
    rfl

/-- Two evaluations that come to the same verdict or the same error establish the same flows, if the
same flows were established before. -/
theorem tracker_evaluate_congr {other : Table} {start : String} {view : PacketView}
    (tracker : other.tracker = table.tracker)
    (verdict : (other.evaluate start view).2.map Evaluation.verdict =
      (table.evaluate start view).2.map Evaluation.verdict) :
    (other.evaluate start view).1.tracker = (table.evaluate start view).1.tracker := by
  cases outcome : (table.evaluate start view).2 with
  | error error =>
    cases otherOutcome : (other.evaluate start view).2 with
    | error _ => rw [evaluate_of_error outcome, evaluate_of_error otherOutcome, tracker]
    | ok evaluation =>
      rw [outcome, otherOutcome] at verdict
      cases verdict
  | ok evaluation =>
    cases otherOutcome : (other.evaluate start view).2 with
    | error _ =>
      rw [outcome, otherOutcome] at verdict
      cases verdict
    | ok otherEvaluation =>
      rw [outcome, otherOutcome] at verdict
      have same : otherEvaluation.verdict = evaluation.verdict := Except.ok.inj verdict
      rw [evaluate_of_ok outcome, evaluate_of_ok otherOutcome, tracker_settle, tracker_settle,
        same, tracker]

/-- A packet whose evaluation fails is dropped, and the table stays as it was. -/
theorem process_of_error {start : String} {view : PacketView} {error : TableError}
    (failed : (table.evaluate start view).2 = .error error) :
    table.process start view = (table, .drop) := by
  rw [process, evaluate_of_error failed]

/-- A packet whose evaluation succeeds is settled by the verdict of the evaluation. -/
theorem process_of_ok {start : String} {view : PacketView} {evaluation : Evaluation}
    (succeeded : (table.evaluate start view).2 = .ok evaluation) :
    table.process start view = (table.settle evaluation.verdict view, evaluation.verdict) := by
  rw [process, evaluate_of_ok succeeded]

/-- A packet is accepted exactly when its evaluation succeeds and accepts it. -/
theorem process_eq_accept_iff (start : String) (view : PacketView) :
    (table.process start view).2 = .accept ↔
      ∃ logs, (table.evaluate start view).2 = .ok ⟨.accept, logs⟩ := by
  cases outcome : (table.evaluate start view).2 with
  | error error => simp [process_of_error outcome]
  | ok evaluation =>
    obtain ⟨verdict, logs⟩ := evaluation
    simp [process_of_ok outcome]

end Table

/-- An evaluation that succeeds accepts the flow that its verdict records. -/
theorem acceptedFlow_evaluated (start : String) (view : PacketView) (evaluation : Evaluation) :
    acceptedFlow (.evaluate start view) (.evaluated (.ok evaluation)) =
      Table.flowToRecord evaluation.verdict view := by
  obtain ⟨verdict, logs⟩ := evaluation
  cases verdict <;> rfl

/-- A verdict accepts the flow that it records. -/
theorem acceptedFlow_processed (start : String) (view : PacketView) (verdict : Verdict) :
    acceptedFlow (.process start view) (.processed verdict) =
      Table.flowToRecord verdict view := by
  cases verdict <;> rfl

namespace Table

/-- Operations and others after them are carried out in order. -/
theorem run_append (table : Table) (before after : List Operation) :
    table.run (before ++ after) = (table.run before).run after := by
  induction before generalizing table with
  | nil => rfl
  | cons operation rest ih => exact ih (table.perform operation).1

/-- An operation that accepts a packet accepts the flow of that packet. -/
theorem acceptedFlow_of_isAccept {table : Table} {operation : Operation} {view : PacketView}
    (packet : operation.packet? = some view)
    (accepts : (table.perform operation).2.isAccept = true) :
    acceptedFlow operation (table.perform operation).2 = FlowKey.ofView? view := by
  cases operation with
  | addChain | apply | loadText | loadSource => cases packet
  | evaluate start shown =>
    cases packet
    cases outcome : (table.evaluate start view).2 with
    | error error => simp [perform, outcome, Answer.isAccept] at accepts
    | ok evaluation =>
      obtain ⟨verdict, logs⟩ := evaluation
      cases verdict with
      | drop => simp [perform, outcome, Answer.isAccept] at accepts
      | accept => simp [perform, outcome, acceptedFlow]
  | process start shown =>
    cases packet
    cases verdict : (table.process start view).2 with
    | drop => simp [perform, verdict, Answer.isAccept] at accepts
    | accept => simp [perform, verdict, acceptedFlow]

/-- Deciding on a packet touches the established flows only. -/
theorem perform_of_packet? (table : Table) {operation : Operation}
    (decides : operation.packet? ≠ none) :
    (table.perform operation).1 =
      { table with tracker := (table.perform operation).1.tracker } := by
  have settled : ∀ verdict view, table.settle verdict view =
      { table with tracker := (table.settle verdict view).tracker } := by
    intro verdict view
    unfold settle
    split <;> rfl
  cases operation with
  | addChain | apply | loadText | loadSource => exact absurd rfl decides
  | evaluate start view =>
    cases outcome : (table.evaluate start view).2 with
    | error error => simp only [perform, evaluate_of_error outcome]
    | ok evaluation =>
      simp only [perform, evaluate_of_ok outcome]
      exact settled evaluation.verdict view
  | process start view =>
    cases outcome : (table.evaluate start view).2 with
    | error error => simp only [perform, process_of_error outcome]
    | ok evaluation =>
      simp only [perform, process_of_ok outcome]
      exact settled evaluation.verdict view

/-- An operation establishes the flow that it accepts, if any, and nothing else. -/
theorem tracker_perform (table : Table) (operation : Operation) :
    (table.perform operation).1.tracker =
      table.tracker.recordAll (acceptedFlow operation (table.perform operation).2).toList := by
  cases operation with
  | addChain chain =>
    cases added : table.addChain chain with
    | error error =>
      simp only [perform, added]
      rfl
    | ok changed =>
      simp only [perform, added]
      exact (sameBesideChains_of_addChain added).tracker
  | apply command =>
    match applied : table.apply command with
    | .error error | .ok none =>
      simp only [perform, applied]
      rfl
    | .ok (some changed) =>
      simp only [perform, applied]
      exact (sameBesideChains_of_apply applied).tracker
  | loadText text => exact (sameBesideChains_loadLines table 1 (Text.lines text)).tracker
  | loadSource source => exact (sameBesideChains_loadSource table source).tracker
  | evaluate start view =>
    cases outcome : (table.evaluate start view).2 with
    | error error =>
      simp only [perform, evaluate_of_error outcome]
      rfl
    | ok evaluation =>
      simp only [perform, evaluate_of_ok outcome, tracker_settle, acceptedFlow_evaluated]
  | process start view =>
    cases outcome : (table.evaluate start view).2 with
    | error error =>
      simp only [perform, process_of_error outcome]
      rfl
    | ok evaluation =>
      simp only [perform, process_of_ok outcome, tracker_settle, acceptedFlow_processed]

/-- Operations in a row establish the flows that they accept, in order. -/
theorem tracker_run_eq_recordAll (table : Table) (operations : List Operation) :
    (table.run operations).tracker =
      table.tracker.recordAll (table.acceptedFlows operations) := by
  induction operations generalizing table with
  | nil => rfl
  | cons operation rest ih =>
    rw [run, ih, tracker_perform, acceptedFlows, Tracker.recordAll, Tracker.recordAll,
      Tracker.recordAll, List.foldl_append]

/-- The established flows of a table with any history are those that an empty tracker holds once
the flows of the accepted packets are recorded in order. Each operation adds the flow that it
accepts at most. A decision that fails changes nothing and drops the packet, and a packet is
accepted only where its evaluation succeeds and accepts it. -/
theorem established_of_history (options : TableOptions) (operations : List Operation) :
    ((empty options).run operations).tracker =
        (Tracker.empty options.trackerCapacity).recordAll
          ((empty options).acceptedFlows operations) ∧
      (∀ (table : Table) (operation : Operation), (table.perform operation).1.tracker =
        table.tracker.recordAll (acceptedFlow operation (table.perform operation).2).toList) ∧
      (∀ (table : Table) (start : String) (view : PacketView) (error : TableError),
        (table.evaluate start view).2 = .error error →
          table.evaluate start view = (table, .error error) ∧
            table.process start view = (table, .drop)) ∧
      ∀ (table : Table) (start : String) (view : PacketView),
        (table.process start view).2 = .accept ↔
          ∃ logs, (table.evaluate start view).2 = .ok ⟨.accept, logs⟩ :=
  ⟨tracker_run_eq_recordAll (empty options) operations, tracker_perform,
    fun _ _ _ _ failed => ⟨evaluate_of_error failed, process_of_error failed⟩,
    fun _ start view => process_eq_accept_iff start view⟩

/-- Of three packets, one that a policy accepts, one without a network layer, and one that is
dropped because its chain is not there, the first alone is an established flow. -/
theorem established_of_first_accepted :
    ((empty .standard).run [.addChain ⟨"INPUT", some .accept, []⟩,
        .evaluate "INPUT" ⟨[.tcp], some ⟨"10.0.0.1", "10.0.0.2"⟩, some ⟨"40000", "80"⟩⟩,
        .evaluate "INPUT" ⟨[.tcp], none, some ⟨"40001", "80"⟩⟩,
        .process "WEB" ⟨[.tcp], some ⟨"10.0.0.3", "10.0.0.2"⟩, some ⟨"40002", "80"⟩⟩]).tracker =
      ⟨none, ["10.0.0.1 40000 10.0.0.2 80"]⟩ :=
  (established_of_history _ _).1.trans (by decide +kernel)

end Table

end PacketFilter
