import Mathlib.Data.Finset.Card
import Mathlib.Data.Finset.Dedup
import PacketFilter.Tracker

/-!
# How long a flow stays established

A tracker with a capacity holds the flows that were recorded last. A flow that was recorded stays
held as long as fewer other flows than the capacity were recorded after it, however often each of
them was (`contains_recordAll`). `Recent` is the invariant: what stands behind the token of the flow
are distinct tokens that were recorded later, so there is room for all of them and for the flow.
-/
namespace PacketFilter.Tracker

/-- A token stands in a list, and what stands behind it are distinct tokens of a set. -/
def Recent (token : String) (others : Finset String) (tokens : List String) : Prop :=
  ∃ older newer, tokens = older ++ token :: newer ∧ newer.Nodup ∧ newer.toFinset ⊆ others

variable {token : String} {others : Finset String}

/-- A token at the end has nothing behind it. -/
theorem recent_concat (older : List String) : Recent token others (older ++ [token]) :=
  ⟨older, [], rfl, .nil, Finset.empty_subset others⟩

/-- Moving another token to the end keeps a token recent. -/
theorem Recent.refresh {tokens : List String} (recent : Recent token others tokens)
    {other : String} (differs : other ≠ token) (within : other ∈ others) :
    Recent token others (tokens.filter (· != other) ++ [other]) := by
  obtain ⟨older, newer, rfl, distinct, among⟩ := recent
  refine ⟨older.filter (· != other), newer.filter (· != other) ++ [other], ?_, ?_, ?_⟩
  · simp [Ne.symm differs]
  · refine (distinct.filter _).append (List.nodup_singleton other) fun left inside last => ?_
    obtain rfl := List.mem_singleton.1 last
    simpa using (List.mem_filter.1 inside).2
  · intro member inside
    rw [List.mem_toFinset, List.mem_append, List.mem_singleton] at inside
    rcases inside with earlier | rfl
    · exact among (List.mem_toFinset.2 (List.mem_filter.1 earlier).1)
    · exact within

/-- Making room from the front keeps a token recent, if the capacity is greater than the number of
tokens that may stand behind it. -/
theorem Recent.drop {tokens : List String} (recent : Recent token others tokens) {capacity : Nat}
    (room : others.card < capacity) :
    Recent token others (tokens.drop (tokens.length - capacity)) := by
  obtain ⟨older, newer, rfl, distinct, among⟩ := recent
  have few : newer.length ≤ others.card := by
    rw [← List.toFinset_card_of_nodup distinct]
    exact Finset.card_le_card among
  have inFront : (older ++ token :: newer).length - capacity ≤ older.length := by
    rw [List.length_append, List.length_cons]
    omega
  exact ⟨_, newer, List.drop_append_of_le_length inFront, distinct, among⟩

variable {tracker : Tracker} {capacity : Nat}

/-- A flow is recent once it is recorded. -/
theorem recent_record (key : FlowKey) (bounded : tracker.capacity = some capacity)
    (room : others.card < capacity) : Recent key.token others (tracker.record key).tokens := by
  simp only [record, bounded]
  exact (recent_concat _).drop room

/-- Recording one of the other flows, or the flow again, keeps it recent. -/
theorem Recent.record (recent : Recent token others tracker.tokens) {key : FlowKey}
    (bounded : tracker.capacity = some capacity) (room : others.card < capacity)
    (among : key.token ≠ token → key.token ∈ others) :
    Recent token others (tracker.record key).tokens := by
  by_cases same : key.token = token
  · rw [← same]
    exact recent_record key bounded room
  · simp only [Tracker.record, bounded]
    exact (recent.refresh same (among same)).drop room

/-- Recording keeps the capacity, however many flows are recorded. -/
theorem capacity_recordAll (tracker : Tracker) (keys : List FlowKey) :
    (tracker.recordAll keys).capacity = tracker.capacity := by
  induction keys generalizing tracker with
  | nil => rfl
  | cons key rest ih => exact (ih (tracker.record key)).trans (tracker.capacity_record key)

/-- Recording other flows keeps a flow recent as long as they are fewer than the capacity. -/
theorem Recent.recordAll (recent : Recent token others tracker.tokens) {keys : List FlowKey}
    (bounded : tracker.capacity = some capacity) (room : others.card < capacity)
    (among : ∀ key ∈ keys, key.token ≠ token → key.token ∈ others) :
    Recent token others (tracker.recordAll keys).tokens := by
  induction keys generalizing tracker with
  | nil => exact recent
  | cons key rest ih =>
    have next := recent.record bounded room (among key List.mem_cons_self)
    refine ih next ?_ fun other within => among other (List.mem_cons_of_mem key within)
    rw [capacity_record, bounded]

/-- Without a capacity recording a flow adds it to those that are held. -/
theorem mem_record_of_unbounded (unbounded : tracker.capacity = none) (key : FlowKey) :
    token ∈ (tracker.record key).tokens ↔ token ∈ tracker.tokens ∨ token = key.token := by
  simp only [record, unbounded]
  split
  · next known =>
    have held : key.token ∈ tracker.tokens := List.contains_iff_mem.1 known
    exact ⟨.inl, fun among => among.elim id fun same => same ▸ held⟩
  · rw [List.mem_append, List.mem_singleton]

/-- Without a capacity nothing that is held is lost. -/
theorem mem_recordAll_of_unbounded (unbounded : tracker.capacity = none)
    (held : token ∈ tracker.tokens) (keys : List FlowKey) :
    token ∈ (tracker.recordAll keys).tokens := by
  induction keys generalizing tracker with
  | nil => exact held
  | cons key rest ih =>
    have next := (mem_record_of_unbounded unbounded key).2 (.inl held)
    exact ih ((tracker.capacity_record key).trans unbounded) next

/-- A flow that was recorded is held as long as fewer other flows than the capacity, if there is
one, were recorded after it. -/
theorem contains_recordAll (tracker : Tracker) (key : FlowKey) (keys : List FlowKey)
    (room : ∀ capacity, tracker.capacity = some capacity →
      ((keys.map FlowKey.token).toFinset.erase key.token).card < capacity) :
    ((tracker.record key).recordAll keys).contains key.token = true := by
  rw [contains, List.contains_iff_mem]
  cases limit : tracker.capacity with
  | none =>
    exact mem_recordAll_of_unbounded (by rw [capacity_record, limit])
      ((mem_record_of_unbounded limit key).2 (.inr rfl)) keys
  | some capacity =>
    have few := room capacity limit
    have among : ∀ other ∈ keys, other.token ≠ key.token →
        other.token ∈ (keys.map FlowKey.token).toFinset.erase key.token :=
      fun other within differs => Finset.mem_erase.2
        ⟨differs, List.mem_toFinset.2 (List.mem_map_of_mem within)⟩
    obtain ⟨older, newer, order, -⟩ := (recent_record key limit few).recordAll
      (by rw [capacity_record, limit]) few among
    rw [order]
    exact List.mem_append_right _ List.mem_cons_self

end PacketFilter.Tracker
