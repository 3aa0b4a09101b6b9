import PacketFilter.Proofs.History
import PacketFilter.Proofs.Recency
import PacketFilter.Proofs.Walk.Course

/-!
# Replies to accepted packets

A chain that starts with the rule for established flows accepts a packet and the replies to it as
long as its flow is held. A flow is held from the moment when one of its packets is accepted until
as many other flows as the tracker has room for were recorded, whatever else happens to the table
in between (`evaluate_established_reply`).
-/
namespace PacketFilter

/-- The rule that accepts packets of established flows. -/
def Rule.acceptEstablished : Rule :=
  { Rule.wildcard with action := some .accept, requireEstablished := true }

example : Rule.acceptEstablished.text = "-m conntrack --ctstate ESTABLISHED -j ACCEPT" := by
  decide

/-- The rule for established flows asks for nothing else. -/
theorem Rule.isMatch_acceptEstablished (view : PacketView) (tracker : Tracker) :
    Rule.acceptEstablished.isMatch view tracker =
      (FlowKey.ofView? view).any tracker.isEstablished := by
  simp [Rule.acceptEstablished, Rule.wildcard, isMatch, matchesProtocol, matchesAddresses,
    matchesPorts, matchesState, matchesLoopback, admitsEnds]

/-- A chain decides by its first rule if that matches and accepts. -/
theorem Table.evaluate_of_first_rule {table : Table} {start : String} {view : PacketView}
    {chain : Chain} {rule : Rule} {rest : List Rule}
    (found : table.chains.find? start = some chain) (first : chain.rules = rule :: rest)
    (matched : rule.isMatch view table.tracker = true) (action : rule.action = some .accept) :
    (table.evaluate start view).2 = .ok ⟨.accept, []⟩ := by
  have walked : table.traverse start view = .done (.ok (some .accept)) := by
    rw [table.traverse_of_find? view found, walk, first, scan, if_pos matched]
    simp only [action]
  rw [evaluate_eq_ok_iff]
  exact ⟨some .accept, by rw [walked, Walked.outcome_done], by rw [walked]; rfl⟩

/-- A packet travels between the same ends as another, in the same or in the opposite direction. -/
def PacketView.SharesFlow (view other : PacketView) : Prop :=
  other.network = view.network ∧ other.transport = view.transport ∨
    other.network = view.network.map Endpoints.reversed ∧
      other.transport = view.transport.map Endpoints.reversed

/-- The opposite direction of a packet has the reversed flow. -/
theorem FlowKey.ofView?_reversed {view other : PacketView}
    (network : other.network = view.network.map Endpoints.reversed)
    (transport : other.transport = view.transport.map Endpoints.reversed) :
    FlowKey.ofView? other = (FlowKey.ofView? view).map FlowKey.reversed := by
  rw [FlowKey.ofView?, network, transport, FlowKey.ofView?]
  cases view.network with
  | none => rfl
  | some addresses => cases view.transport <;> rfl

/-- A packet that shares its flow with one whose flow is held belongs to an established flow. -/
theorem PacketView.SharesFlow.isEstablished {view other : PacketView} {key : FlowKey}
    (shares : view.SharesFlow other) (flow : FlowKey.ofView? view = some key) {tracker : Tracker}
    (held : tracker.contains key.token = true) :
    (FlowKey.ofView? other).any tracker.isEstablished = true := by
  rcases shares with ⟨network, transport⟩ | ⟨network, transport⟩
  · have same : FlowKey.ofView? other = some key := by
      rw [← flow, FlowKey.ofView?, network, transport, FlowKey.ofView?]
    simp [same, Tracker.isEstablished, held]
  · have reversed : FlowKey.ofView? other = some key.reversed := by
      rw [FlowKey.ofView?_reversed network transport, flow, Option.map_some]
    simp [reversed, Tracker.isEstablished, held]

namespace Table

/-- The capacity of a tracker is that of the settings, and at least one. -/
theorem capacity_run (options : TableOptions) (operations : List Operation) :
    ((empty options).run operations).tracker.capacity =
      options.trackerCapacity.map (max · 1) := by
  rw [tracker_run_eq_recordAll, Tracker.capacity_recordAll]
  rfl

/-- A flow is held from the operation on that accepts a packet of it, as long as fewer other flows
than the capacity, if there is one, are accepted after it. -/
theorem contains_run_of_isAccept (table : Table) {decision : Operation} {after : List Operation}
    {view : PacketView} {key : FlowKey} (packet : decision.packet? = some view)
    (accepts : (table.perform decision).2.isAccept = true)
    (flow : FlowKey.ofView? view = some key)
    (recent : ∀ capacity, table.tracker.capacity = some capacity →
      ((((table.perform decision).1.acceptedFlows after).map FlowKey.token).toFinset.erase
        key.token).card < capacity) :
    (table.run (decision :: after)).tracker.contains key.token = true := by
  have recorded : (table.perform decision).1.tracker = table.tracker.record key := by
    rw [tracker_perform, acceptedFlow_of_isAccept packet accepts, flow]
    rfl
  rw [run, tracker_run_eq_recordAll, recorded]
  exact table.tracker.contains_recordAll key _ recent

/-- Once a packet with addresses and ports is accepted, a chain that starts with the rule for
established flows accepts that packet and every reply to it, without noting anything, as long as
fewer other flows than the capacity, if there is one, are accepted after it. -/
theorem evaluate_established_reply {options : TableOptions} {before after : List Operation}
    {decision : Operation} {view other : PacketView} {key : FlowKey} {start : String}
    {chain : Chain} {rest : List Rule} (packet : decision.packet? = some view)
    (accepts : (((empty options).run before).perform decision).2.isAccept = true)
    (flow : FlowKey.ofView? view = some key)
    (recent : ∀ capacity, options.trackerCapacity = some capacity →
      ((((((empty options).run before).perform decision).1.acceptedFlows after).map
        FlowKey.token).toFinset.erase key.token).card < max capacity 1)
    (shares : view.SharesFlow other)
    (found : ((empty options).run (before ++ decision :: after)).chains.find? start = some chain)
    (first : chain.rules = .acceptEstablished :: rest) :
    (((empty options).run (before ++ decision :: after)).evaluate start other).2 =
      .ok ⟨.accept, []⟩ := by
  have held : ((empty options).run (before ++ decision :: after)).tracker.contains key.token =
      true := by
    rw [run_append]
    refine contains_run_of_isAccept _ packet accepts flow fun capacity bounded => ?_
    rw [capacity_run] at bounded
    obtain ⟨limit, isLimit, rfl⟩ := Option.map_eq_some_iff.1 bounded
    exact recent limit isLimit
  refine evaluate_of_first_rule found first ?_ rfl
  rw [Rule.isMatch_acceptEstablished]
  exact shares.isEstablished flow held

/-- A web request from a port. -/
def webRequest (port : String) : PacketView :=
  ⟨[.tcp], some ⟨"10.0.0.1", "10.0.0.2"⟩, some ⟨port, "80"⟩⟩

/-- The rule that accepts web requests. -/
def webRule : Rule :=
  { Rule.wildcard with protocol := .tcp, destinationPort := some "80", action := some .accept }

/-- A table for two flows that accepted a web request, then another one, and has no rule for web
requests any more. -/
def webTable : Table :=
  (empty ⟨32, .drop, some 2⟩).run
    ([.addChain ⟨"INPUT", some .drop, [.acceptEstablished, webRule]⟩] ++
      .process "INPUT" (webRequest "40000") ::
        [.evaluate "INPUT" (webRequest "40001"), .apply (.deleteAt "INPUT" 2)])

/-- The reply to the first web request is still accepted. -/
theorem evaluate_reply_to_webRequest :
    (webTable.evaluate "INPUT"
      ⟨[.tcp], some ⟨"10.0.0.2", "10.0.0.1"⟩, some ⟨"80", "40000"⟩⟩).2 = .ok ⟨.accept, []⟩ := by
  have found : webTable.chains.find? "INPUT" =
      some ⟨"INPUT", some .drop, [.acceptEstablished]⟩ := by decide +kernel
  refine evaluate_established_reply rfl (by decide +kernel) rfl ?_ (.inr ⟨rfl, rfl⟩) found rfl
  intro capacity bounded
  obtain rfl := Option.some.inj bounded
  decide +kernel

end Table

end PacketFilter
