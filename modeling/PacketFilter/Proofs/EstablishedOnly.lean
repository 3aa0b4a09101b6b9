import PacketFilter.Proofs.History
import PacketFilter.Proofs.Walk.Course

/-!
# Tables that accept established flows only

If every way to accept a packet asks for an established flow, nothing is ever accepted where no
flow is established, since a flow gets established by an accepted packet only
(`run_of_acceptsOnlyEstablished`). What carries this is that no walk comes to an acceptance
(`Course.outcome_ne_accept`), whichever chains it asks.
-/
namespace PacketFilter

/-- No rule for established flows matches where none is established. -/
theorem Rule.isMatch_of_no_tokens {rule : Rule} {tracker : Tracker} (view : PacketView)
    (asks : rule.requireEstablished = true) (fresh : tracker.tokens = []) :
    rule.isMatch view tracker = false := by
  have unknown : tracker.isEstablished = fun _ => false := by
    funext key
    simp [Tracker.isEstablished, Tracker.contains, fresh]
  have unmatched : rule.matchesState view tracker = false := by
    simp [matchesState, asks, unknown]
  simp [isMatch, unmatched]

namespace Table

/-- Packets are accepted by rules for established flows and by nothing else. -/
structure AcceptsOnlyEstablished (table : Table) : Prop where
  /-- Packets are dropped where nothing decides. -/
  implicit : table.options.implicitPolicy = .drop
  /-- Policies drop packets. -/
  policies : ∀ chain ∈ table.chains.toList, ∀ policy ∈ chain.policy, policy = .drop
  /-- Rules that accept packets are for established flows. -/
  rules : ∀ chain ∈ table.chains.toList, ∀ rule ∈ chain.rules,
    rule.action = some .accept → rule.requireEstablished = true

variable {table : Table} {view : PacketView}

/-- No walk comes to an acceptance where no flow is established. -/
theorem Course.outcome_ne_accept (only : table.AcceptsOnlyEstablished)
    (fresh : table.tracker.tokens = []) {path : List String} {chain : Chain} {position : Nat}
    {rules : List Rule} {walked : Walked}
    (course : table.Course view path chain position rules walked)
    (member : chain ∈ table.chains.toList) (within : rules ⊆ chain.rules) :
    walked.outcome ≠ .ok (some .accept) := by
  induction course with
  | @ended path chain position =>
    intro accepts
    have policy : chain.policy = some .accept := Except.ok.inj accepts
    cases only.policies chain member .accept policy
  | passed _ _ ih => exact ih member (List.cons_subset.1 within).2
  | @stopped path chain position rule rest outcome effect =>
    rintro rfl
    obtain ⟨matched, action, verdict, hasAction, decides, same⟩ := effect_eq_stop_ok_iff.1 effect
    obtain rfl := Option.some.inj same
    obtain rfl : action = .accept := by
      cases action <;> simp [Action.verdict?] at decides ⊢
    have asks := only.rules chain member rule (List.cons_subset.1 within).1 hasAction
    rw [Rule.isMatch_of_no_tokens view asks fresh] at matched
    cases matched
  | cyclic | tooDeep => simp
  | adopted effect _ _ _ _ ih =>
    obtain ⟨-, -, found⟩ := effect_eq_ask_iff.1 effect
    exact ih (ChainSet.mem_of_find? found) (List.Subset.refl _)
  | returned _ _ _ _ _ _ _ ih => exact ih member (List.cons_subset.1 within).2

/-- No evaluation accepts a packet where no flow is established. -/
theorem verdict_eq_drop (only : table.AcceptsOnlyEstablished) (fresh : table.tracker.tokens = [])
    {start : String} {evaluation : Evaluation}
    (succeeded : (table.evaluate start view).2 = .ok evaluation) : evaluation.verdict = .drop := by
  obtain ⟨decided, walked, rfl⟩ := (table.evaluate_eq_ok_iff view start evaluation).1 succeeded
  match decided with
  | none => exact only.implicit
  | some .drop => rfl
  | some .accept =>
    exfalso
    cases found : table.chains.find? start with
    | none => simp [traverse, found] at walked
    | some chain =>
      rw [table.traverse_of_find? view found] at walked
      exact (table.walk_course view [start] chain).outcome_ne_accept only fresh
        (ChainSet.mem_of_find? found) (List.Subset.refl _) walked

/-- Deciding on a packet changes nothing and does not accept it where no flow is established. -/
theorem perform_of_acceptsOnlyEstablished (only : table.AcceptsOnlyEstablished)
    (fresh : table.tracker.tokens = []) {operation : Operation}
    (decides : operation.packet? ≠ none) :
    (table.perform operation).1 = table ∧ (table.perform operation).2.isAccept = false := by
  cases operation with
  | addChain | apply | loadText | loadSource => exact absurd rfl decides
  | evaluate start view =>
    cases outcome : (table.evaluate start view).2 with
    | error error => simp [perform, evaluate_of_error outcome, Answer.isAccept]
    | ok evaluation =>
      obtain ⟨verdict, logs⟩ := evaluation
      obtain rfl : verdict = .drop := verdict_eq_drop only fresh outcome
      simp only [perform, evaluate_of_ok outcome]
      exact ⟨rfl, rfl⟩
  | process start view =>
    cases outcome : (table.evaluate start view).2 with
    | error error => simp [perform, process_of_error outcome, Answer.isAccept]
    | ok evaluation =>
      obtain ⟨verdict, logs⟩ := evaluation
      obtain rfl : verdict = .drop := verdict_eq_drop only fresh outcome
      simp only [perform, process_of_ok outcome]
      exact ⟨rfl, rfl⟩

/-- However many packets are decided on, none is accepted and nothing changes. -/
theorem run_eq_self_of_acceptsOnlyEstablished (only : table.AcceptsOnlyEstablished)
    (fresh : table.tracker.tokens = []) {operations : List Operation}
    (decide : ∀ operation ∈ operations, operation.packet? ≠ none) :
    table.run operations = table ∧
      ∀ answer ∈ table.answers operations, answer.isAccept = false := by
  induction operations with
  | nil => exact ⟨rfl, fun _ within => absurd within List.not_mem_nil⟩
  | cons operation rest ih =>
    obtain ⟨same, refused⟩ :=
      perform_of_acceptsOnlyEstablished only fresh (decide operation List.mem_cons_self)
    obtain ⟨unchanged, others⟩ := ih fun other within =>
      decide other (List.mem_cons_of_mem _ within)
    rw [run, answers, same]
    exact ⟨unchanged, List.forall_mem_cons.2 ⟨refused, others⟩⟩

/-- If packets are accepted by rules for established flows only, and no flow is established, no
decision on a packet accepts it, and no flow is established after any of them. -/
theorem run_of_acceptsOnlyEstablished (only : table.AcceptsOnlyEstablished)
    (fresh : table.tracker.tokens = []) {operations : List Operation}
    (decide : ∀ operation ∈ operations, operation.packet? ≠ none) :
    (∀ answer ∈ table.answers operations, answer.isAccept = false) ∧
      ∀ before, before <+: operations → (table.run before).tracker.tokens = [] := by
  refine ⟨(run_eq_self_of_acceptsOnlyEstablished only fresh decide).2, fun before isPrefix => ?_⟩
  have same := (run_eq_self_of_acceptsOnlyEstablished only fresh fun operation within =>
    decide operation (isPrefix.subset within)).1
  rw [same, fresh]

/-- A chain that accepts packets of established flows and asks another, which sends datagrams back
to it. -/
def guardedTable : Table where
  chains := (ChainSet.empty.insert ⟨"INPUT", none,
      [{ Rule.wildcard with action := some .accept, requireEstablished := true },
        { Rule.wildcard with action := some (.jump "WEB") }]⟩).insert
    ⟨"WEB", some .drop, [{ Rule.wildcard with protocol := .udp, action := some (.jump "INPUT") }]⟩
  tracker := .empty (some 1)
  options := ⟨8, .drop, some 1⟩

/-- A packet that is dropped by a policy, one that leads around in a cycle, and one for a chain that
is not there are not accepted, and no flow is established by them. -/
theorem run_guardedTable :
    (∀ answer ∈ guardedTable.answers
        [.evaluate "INPUT" ⟨[.tcp], some ⟨"10.0.0.1", "10.0.0.2"⟩, some ⟨"40000", "80"⟩⟩,
          .process "INPUT" ⟨[.udp], some ⟨"10.0.0.2", "10.0.0.1"⟩, some ⟨"80", "40000"⟩⟩,
          .process "API" ⟨[.icmpV4], some ⟨"10.0.0.2", "10.0.0.1"⟩, none⟩],
        answer.isAccept = false) ∧
      ∀ before, before <+:
        [.evaluate "INPUT" ⟨[.tcp], some ⟨"10.0.0.1", "10.0.0.2"⟩, some ⟨"40000", "80"⟩⟩,
          .process "INPUT" ⟨[.udp], some ⟨"10.0.0.2", "10.0.0.1"⟩, some ⟨"80", "40000"⟩⟩,
          .process "API" ⟨[.icmpV4], some ⟨"10.0.0.2", "10.0.0.1"⟩, none⟩] →
        (guardedTable.run before).tracker.tokens = [] :=
  run_of_acceptsOnlyEstablished ⟨rfl, by decide +kernel, by decide +kernel⟩ rfl (by decide +kernel)

end Table

end PacketFilter
