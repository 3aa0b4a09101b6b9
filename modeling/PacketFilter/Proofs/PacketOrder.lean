import PacketFilter.Proofs.LeastRecent
import PacketFilter.Proofs.Walk.Agreement

/-!
# The order of packets

Where no rule asks for an established flow, deciding on a packet does not depend on the flows that
are established, so each packet gets the same answer wherever it stands in a list of packets. What
is recorded does not depend on the order either, as long as nothing has to make room
(`answers_of_permuted`): recording without a capacity is the union of lists.
-/
namespace PacketFilter

namespace Tracker

variable {tracker : Tracker}

/-- Without a capacity recording a flow inserts its token. -/
theorem tokens_record_of_unbounded (unbounded : tracker.capacity = none) (key : FlowKey) :
    (tracker.record key).tokens.Perm (tracker.tokens.insert key.token) := by
  simp only [record, unbounded]
  split
  · next known => rw [List.insert_of_mem (List.contains_iff_mem.1 known)]
  · next unknown =>
    rw [List.insert_of_not_mem fun held => unknown (List.contains_iff_mem.2 held)]
    exact List.perm_append_singleton key.token tracker.tokens

/-- Without a capacity recording flows forms the union with their tokens. -/
theorem tokens_recordAll_of_unbounded (unbounded : tracker.capacity = none)
    (keys : List FlowKey) :
    (tracker.recordAll keys).tokens.Perm ((keys.map FlowKey.token).reverse ∪ tracker.tokens) := by
  induction keys using List.reverseRecOn with
  | nil => exact .refl tracker.tokens
  | append_singleton keys key ih =>
    have limit : (tracker.recordAll keys).capacity = none := by
      rw [capacity_recordAll, unbounded]
    rw [recordAll_concat, List.map_append, List.map_singleton, List.reverse_append,
      List.reverse_singleton, List.singleton_append, List.cons_union]
    exact (tokens_record_of_unbounded limit key).trans (ih.insert key.token)

/-- Without a capacity the order of recording does not matter to what is held. -/
theorem recordAll_perm (unbounded : tracker.capacity = none) {keys others : List FlowKey}
    (permuted : keys.Perm others) :
    (tracker.recordAll keys).tokens.Perm (tracker.recordAll others).tokens := by
  have tokens : (keys.map FlowKey.token).reverse.Perm (others.map FlowKey.token).reverse :=
    (List.reverse_perm _).trans ((permuted.map _).trans (List.reverse_perm _).symm)
  have union := tokens.union_right tracker.tokens
  exact (tokens_recordAll_of_unbounded unbounded keys).trans
    (union.trans (tokens_recordAll_of_unbounded unbounded others).symm)

end Tracker

/-- A rule that asks for no established flow matches whatever flows are established. -/
theorem Rule.isMatch_of_not_requireEstablished {rule : Rule}
    (asks : rule.requireEstablished = false) (view : PacketView) (tracker other : Tracker) :
    rule.isMatch view tracker = rule.isMatch view other := by
  simp [isMatch, matchesState, asks]

namespace Table

/-- No rule asks for an established flow. -/
def Stateless (table : Table) : Prop :=
  ∀ chain ∈ table.chains.toList, ∀ rule ∈ chain.rules, rule.requireEstablished = false

variable {table : Table}

/-- The rules of such a table have the same effects whatever flows are established. -/
theorem Stateless.agreesOn (stateless : table.Stateless) (tracker : Tracker) (view : PacketView) :
    table.AgreesOn { table with tracker } view fun chain => chain ∈ table.chains.toList := by
  constructor
  · intro chain member rule within position
    have asks := stateless chain member rule within
    exact effect_congr (rule.isMatch_of_not_requireEstablished asks view _ _) fun _ _ _ => rfl
  · intro chain member rule within position target next effect
    obtain ⟨-, -, found⟩ := effect_eq_ask_iff.1 effect
    exact ChainSet.mem_of_find? found

/-- Such a table evaluates a packet alike whatever flows are established. -/
theorem Stateless.evaluate_eq (stateless : table.Stateless) (tracker : Tracker) (start : String)
    (view : PacketView) :
    (Table.evaluate { table with tracker } start view).2 = (table.evaluate start view).2 := by
  have walks : Table.traverse { table with tracker } start view = table.traverse start view :=
    traverse_eq_of_agreesOn (stateless.agreesOn tracker view) rfl
      (fun _ found => ChainSet.mem_of_find? found) (.inl rfl)
  exact evaluate_snd_of_traverse walks rfl

/-- Such a table gives the same answer to a decision whatever flows are established. -/
theorem Stateless.perform_eq (stateless : table.Stateless) (tracker : Tracker)
    {operation : Operation} (decides : operation.packet? ≠ none) :
    (Table.perform { table with tracker } operation).2 = (table.perform operation).2 := by
  cases operation with
  | addChain | apply | loadText | loadSource => exact absurd rfl decides
  | evaluate start view =>
    exact congrArg Answer.evaluated (stateless.evaluate_eq tracker start view)
  | process start view =>
    have same := stateless.evaluate_eq tracker start view
    cases outcome : (table.evaluate start view).2 with
    | error error =>
      simp only [perform, process_of_error outcome, process_of_error (same.trans outcome)]
    | ok evaluation =>
      simp only [perform, process_of_ok outcome, process_of_ok (same.trans outcome)]

/-- Decisions that such a table is asked for one after the other get the answers, and accept the
flows, that each of them would by itself. -/
theorem Stateless.answers_eq (stateless : table.Stateless) {operations : List Operation}
    (decide : ∀ operation ∈ operations, operation.packet? ≠ none) (tracker : Tracker) :
    Table.answers { table with tracker } operations =
        operations.map (fun operation => (table.perform operation).2) ∧
      Table.acceptedFlows { table with tracker } operations =
        operations.flatMap fun operation =>
          (acceptedFlow operation (table.perform operation).2).toList := by
  induction operations generalizing tracker with
  | nil => exact ⟨rfl, rfl⟩
  | cons operation rest ih =>
    obtain ⟨first, others⟩ := List.forall_mem_cons.1 decide
    have next := Table.perform_of_packet? { table with tracker } first
    obtain ⟨later, flows⟩ := ih others (Table.perform { table with tracker } operation).1.tracker
    rw [answers, acceptedFlows, stateless.perform_eq tracker first, next, later, flows]
    exact ⟨rfl, rfl⟩

/-- Where no rule asks for an established flow, the order of decisions does not matter. Each of them
gets the same answer, be it a verdict with log records or an error, in either order, whatever flows
are established; and without a capacity the same flows are established in the end. -/
theorem answers_of_permuted (table : Table) (stateless : table.Stateless)
    {operations others : List Operation}
    (decide : ∀ operation ∈ operations, operation.packet? ≠ none)
    (permuted : operations.Perm others) :
    (∀ tracker, Table.answers { table with tracker } operations =
        operations.map fun operation => (table.perform operation).2) ∧
      (∀ tracker, Table.answers { table with tracker } others =
        others.map fun operation => (table.perform operation).2) ∧
      (table.tracker.capacity = none →
        (table.run operations).tracker.tokens.Perm (table.run others).tracker.tokens) := by
  have decideToo : ∀ operation ∈ others, operation.packet? ≠ none := fun operation within =>
    decide operation (permuted.mem_iff.2 within)
  refine ⟨fun tracker => (stateless.answers_eq decide tracker).1,
    fun tracker => (stateless.answers_eq decideToo tracker).1, fun unbounded => ?_⟩
  have flows : (table.acceptedFlows operations).Perm (table.acceptedFlows others) := by
    rw [(stateless.answers_eq decide table.tracker).2,
      (stateless.answers_eq decideToo table.tracker).2]
    exact permuted.flatMap_right _
  rw [tracker_run_eq_recordAll, tracker_run_eq_recordAll]
  exact table.tracker.recordAll_perm unbounded flows

/-- A chain that logs every packet and asks another one, which accepts segments and leaves the rest
to the policy of dropping. -/
def segmentTable : Table where
  chains := (ChainSet.empty.insert ⟨"INPUT", some .drop,
      [{ Rule.wildcard with action := some (.log "in") }, always "WEB"]⟩).insert
    ⟨"WEB", none, [{ Rule.wildcard with protocol := .tcp, action := some .accept }]⟩
  tracker := .empty none
  options := .standard

/-- A packet on some layer from a port, to be decided by the first chain. -/
def fromClient (layer : Layer) (port : String) : Operation :=
  .evaluate "INPUT" ⟨[layer], some ⟨"10.0.0.1", "10.0.0.2"⟩, some ⟨port, "80"⟩⟩

/-- Two segments and a datagram between them get the same answers in either order, and the flows of
the two segments are established in the end, though not in the same order. -/
theorem answers_segmentTable :
    (∀ tracker, Table.answers { segmentTable with tracker }
        [fromClient .tcp "40002", fromClient .udp "40003", fromClient .tcp "40001"] =
      [fromClient .tcp "40002", fromClient .udp "40003", fromClient .tcp "40001"].map
        fun operation => (segmentTable.perform operation).2) ∧
      (segmentTable.run [fromClient .tcp "40001", fromClient .udp "40003",
          fromClient .tcp "40002"]).tracker.tokens =
        ["10.0.0.1 40001 10.0.0.2 80", "10.0.0.1 40002 10.0.0.2 80"] ∧
      List.Perm ["10.0.0.1 40001 10.0.0.2 80", "10.0.0.1 40002 10.0.0.2 80"]
        (segmentTable.run [fromClient .tcp "40002", fromClient .udp "40003",
          fromClient .tcp "40001"]).tracker.tokens := by
  have stateless : segmentTable.Stateless := by
    unfold Stateless
    decide +kernel
  have permuted : [fromClient .tcp "40001", fromClient .udp "40003",
      fromClient .tcp "40002"].Perm
        [fromClient .tcp "40002", fromClient .udp "40003", fromClient .tcp "40001"] :=
    (List.reverse_perm _).symm
  have held : (segmentTable.run [fromClient .tcp "40001", fromClient .udp "40003",
      fromClient .tcp "40002"]).tracker.tokens =
        ["10.0.0.1 40001 10.0.0.2 80", "10.0.0.1 40002 10.0.0.2 80"] := by decide +kernel
  obtain ⟨-, answers, flows⟩ := answers_of_permuted segmentTable stateless
    (by simp [fromClient, Operation.packet?]) permuted
  exact ⟨answers, held, held ▸ flows rfl⟩

end Table

end PacketFilter
