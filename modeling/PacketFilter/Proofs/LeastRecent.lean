import Mathlib.Data.List.Dedup
import Mathlib.Data.List.DropRight
import PacketFilter.Proofs.Recency

/-!
# The flows recorded last

`mostRecent` says which tokens a tracker with a capacity has to hold after a history of recordings:
of the distinct tokens, in the order in which each was recorded last, those at the end. A tracker
holds exactly these. So does a `QueuedSet`, which keeps the tokens twice, in a set to look them up
and in a queue to make room from, and changes the two one after the other: `InStep` is the invariant
that they never drift apart.
-/
namespace PacketFilter

/-- The tokens of a history that were recorded last, at most so many, in the order of their last
recordings. Of equal tokens `dedup` keeps the last one. -/
def mostRecent (capacity : Nat) (history : List String) : List String :=
  history.dedup.rtake capacity

example : mostRecent 2 ["1", "2", "1", "3"] = ["1", "3"] := by decide

/-- Tokens in recording order once one more is recorded, before any makes room. -/
def refresh (tokens : List String) (token : String) : List String :=
  tokens.filter (· != token) ++ [token]

/-- The tokens that were recorded last are distinct. -/
theorem nodup_mostRecent (capacity : Nat) (history : List String) :
    (mostRecent capacity history).Nodup :=
  history.nodup_dedup.sublist (List.drop_sublist _ _)

/-- A token comes to the end once, whether it was there or not. -/
theorem nodup_refresh {tokens : List String} (distinct : tokens.Nodup) (token : String) :
    (refresh tokens token).Nodup := by
  refine (distinct.filter _).append (List.nodup_singleton token) fun other inside last => ?_
  obtain rfl := List.mem_singleton.1 last
  simpa using (List.mem_filter.1 inside).2

/-- Recording adds a token to those that are there. -/
theorem mem_refresh {tokens : List String} {token other : String} :
    other ∈ refresh tokens token ↔ other = token ∨ other ∈ tokens := by
  by_cases same : other = token <;> simp [refresh, same]

/-- Recording a token that is not there leaves the others as they are. -/
theorem refresh_of_notMem {tokens : List String} {token : String} (fresh : token ∉ tokens) :
    refresh tokens token = tokens ++ [token] := by
  have kept : tokens.filter (· != token) = tokens := by
    refine List.filter_eq_self.2 fun other inside => ?_
    simpa using ne_of_mem_of_not_mem inside fresh
  rw [refresh, kept]

/-- Recording a token makes distinct tokens no fewer, and no more if it is one of them. -/
theorem length_refresh {tokens : List String} (distinct : tokens.Nodup) (token : String) :
    (refresh tokens token).length = if token ∈ tokens then tokens.length else tokens.length + 1 := by
  rw [refresh, ← distinct.erase_eq_filter, List.length_append, List.length_singleton,
    List.length_erase]
  split
  · next inside =>
    have := List.length_pos_of_mem inside
    omega
  · rfl

/-- A token that is recorded moves to the end of the distinct tokens of a history. -/
theorem dedup_concat (history : List String) (token : String) :
    (history ++ [token]).dedup = refresh history.dedup token := by
  induction history with
  | nil => rfl
  | cons first rest ih =>
    rw [List.cons_append]
    by_cases again : first ∈ rest
    · rw [List.dedup_cons_of_mem (List.mem_append_left _ again), List.dedup_cons_of_mem again, ih]
    · rw [List.dedup_cons_of_notMem again]
      by_cases same : first = token
      · subst same
        rw [List.dedup_cons_of_mem (List.mem_append_right _ List.mem_cons_self), ih]
        simp [refresh]
      · have fresh : first ∉ rest ++ [token] := by simp [again, same]
        have stays : (first != token) = true := by simpa using same
        rw [List.dedup_cons_of_notMem fresh, ih, refresh, refresh, List.filter_cons, if_pos stays,
          List.cons_append]

/-- Of distinct items the last ones are those that are not among the others. -/
theorem mem_rtake_iff {items : List String} (distinct : items.Nodup) (count : Nat) (item : String) :
    item ∈ items.rtake count ↔ item ∈ items ∧ item ∉ items.rdrop count := by
  have cut : items.rdrop count ++ items.rtake count = items := List.take_append_drop _ _
  constructor
  · intro last
    rw [← cut] at distinct
    have apart := (List.nodup_append'.1 distinct).2.2
    exact ⟨List.mem_of_mem_drop last, fun first => apart first last⟩
  · rintro ⟨among, notFirst⟩
    rw [← cut] at among
    exact (List.mem_append.1 among).resolve_left notFirst

/-- The last items of a list are those of its back, if the back has enough of them. -/
theorem rtake_append_of_enough {front back : List String} {count : Nat}
    (enough : front = [] ∨ count ≤ back.length) :
    (front ++ back).rtake count = back.rtake count := by
  rcases enough with rfl | enough
  · rfl
  · have split : (front ++ back).length - count = front.length + (back.length - count) := by
      rw [List.length_append]
      omega
    rw [List.rtake, split, List.drop_length_add_append, List.rtake]

/-- The tokens that were recorded last after one more recording are among it and those before. -/
theorem mostRecent_concat (capacity : Nat) (history : List String) (token : String) :
    mostRecent capacity (history ++ [token]) =
      (refresh (mostRecent capacity history) token).rtake capacity := by
  have cut : history.dedup = history.dedup.rdrop capacity ++ mostRecent capacity history :=
    (List.take_append_drop _ _).symm
  have apart : refresh history.dedup token =
      (history.dedup.rdrop capacity).filter (· != token) ++
        refresh (mostRecent capacity history) token := by
    conv_lhs => rw [cut, refresh, List.filter_append, List.append_assoc]
    rfl
  -- What was too old before stays so, because the tokens behind it get no fewer.
  have enough : (history.dedup.rdrop capacity).filter (· != token) = [] ∨
      capacity ≤ (refresh (mostRecent capacity history) token).length := by
    by_cases few : history.dedup.length ≤ capacity
    · have none : history.dedup.rdrop capacity = [] := by
        rw [List.rdrop, Nat.sub_eq_zero_of_le few, List.take_zero]
      exact .inl (by rw [none, List.filter_nil])
    · have full : (mostRecent capacity history).length = capacity := by
        rw [mostRecent, List.rtake, List.length_drop]
        omega
      have more := length_refresh (nodup_mostRecent capacity history) token
      right
      split at more <;> omega
  rw [mostRecent, dedup_concat, apart, rtake_append_of_enough enough]

namespace Tracker

variable {tracker : Tracker} {capacity : Nat}

/-- Recording flows and then one more is recording all of them. -/
theorem recordAll_concat (tracker : Tracker) (keys : List FlowKey) (key : FlowKey) :
    tracker.recordAll (keys ++ [key]) = (tracker.recordAll keys).record key := by
  rw [recordAll, List.foldl_append]
  rfl

/-- With a capacity recording a flow puts it at the end and drops what is too much at the front. -/
theorem tokens_record_of_bounded (bounded : tracker.capacity = some capacity) (key : FlowKey) :
    (tracker.record key).tokens = (refresh tracker.tokens key.token).rtake capacity := by
  simp only [record, bounded]
  rfl

/-- A tracker with a capacity holds the flows that were recorded last. -/
theorem tokens_recordAll_of_bounded (bounded : tracker.capacity = some capacity)
    (fresh : tracker.tokens = []) (keys : List FlowKey) :
    (tracker.recordAll keys).tokens = mostRecent capacity (keys.map FlowKey.token) := by
  induction keys using List.reverseRecOn with
  | nil =>
    rw [recordAll, List.foldl_nil, fresh, List.map_nil, mostRecent, List.dedup_nil, List.rtake_nil]
  | append_singleton keys key ih =>
    have limit : (tracker.recordAll keys).capacity = some capacity := by
      rw [capacity_recordAll, bounded]
    rw [recordAll_concat, tokens_record_of_bounded limit, ih, List.map_append,
      List.map_singleton, mostRecent_concat]

/-- A tracker without a capacity holds all flows that were recorded. -/
theorem mem_tokens_recordAll_of_unbounded (unbounded : tracker.capacity = none)
    (fresh : tracker.tokens = []) (keys : List FlowKey) (token : String) :
    token ∈ (tracker.recordAll keys).tokens ↔ token ∈ keys.map FlowKey.token := by
  induction keys using List.reverseRecOn with
  | nil => simp [recordAll, fresh]
  | append_singleton keys key ih =>
    have limit : (tracker.recordAll keys).capacity = none := by
      rw [capacity_recordAll, unbounded]
    rw [recordAll_concat, mem_record_of_unbounded limit, ih, List.map_append, List.mem_append,
      List.map_singleton, List.mem_singleton]

end Tracker

/-- A set of tokens, and the queue of their recording order, which is kept where there is a
capacity. -/
structure QueuedSet where
  /-- The greatest number of tokens held. -/
  capacity : Option Nat
  /-- The tokens held. -/
  established : Finset String
  /-- The tokens in recording order, oldest first. -/
  order : List String

/-- What recording a token comes to: the set and the queue after it, whether the token is new, and
the tokens that made room, oldest first. -/
structure Recording where
  /-- The set and the queue. -/
  after : QueuedSet
  /-- Whether the token was added to the set. -/
  isNew : Bool
  /-- The tokens that are held no more. -/
  evicted : List String

namespace QueuedSet

/-- No tokens. A capacity of zero counts as one. -/
def empty (capacity : Option Nat) : QueuedSet := ⟨capacity.map (max · 1), ∅, []⟩

/-- Take tokens from the front of a queue and out of a set, until the set is no greater than the
capacity or the queue is empty. Gives what was taken, the set, and the queue. -/
def makeRoom (capacity : Nat) (established : Finset String) :
    List String → List String × Finset String × List String
  | [] => ([], established, [])
  | oldest :: order =>
    if capacity < established.card then
      let (evicted, left) := makeRoom capacity (established.erase oldest) order
      (oldest :: evicted, left)
    else ([], established, oldest :: order)

/-- Record a token: it is added to the set and, if there is a capacity, put at the end of the queue,
out of which it is taken first where it was known; then room is made for it. -/
def record (containers : QueuedSet) (token : String) : Recording :=
  let isNew := decide (token ∉ containers.established)
  let established := insert token containers.established
  match containers.capacity with
  | none => ⟨{ containers with established }, isNew, []⟩
  | some capacity =>
    let others := if isNew then containers.order else containers.order.filter (· != token)
    let (evicted, established, order) := makeRoom capacity established (others ++ [token])
    ⟨{ containers with established, order }, isNew, evicted⟩

/-- The containers once tokens are recorded in order. -/
def recordAll (containers : QueuedSet) (tokens : List String) : QueuedSet :=
  tokens.foldl (fun reached token => (reached.record token).after) containers

variable {containers : QueuedSet} {capacity : Nat} {token : String}

/-- Room is made by the oldest tokens, as many as there are too many. -/
theorem makeRoom_eq (capacity : Nat) {order : List String} (distinct : order.Nodup) :
    makeRoom capacity order.toFinset order =
      (order.rdrop capacity, (order.rtake capacity).toFinset, order.rtake capacity) := by
  induction order with
  | nil => simp [makeRoom]
  | cons oldest order ih =>
    obtain ⟨fresh, later⟩ := List.nodup_cons.1 distinct
    have size : (oldest :: order).toFinset.card = order.length + 1 := by
      rw [List.toFinset_card_of_nodup distinct, List.length_cons]
    rw [makeRoom, size, List.rdrop, List.rtake, List.length_cons]
    split
    · next tooMany =>
      have removed : (oldest :: order).toFinset.erase oldest = order.toFinset := by
        rw [List.toFinset_cons, Finset.erase_insert (by rwa [List.mem_toFinset])]
      have one : order.length + 1 - capacity = order.length - capacity + 1 := by omega
      rw [removed, ih later, one]
      rfl
    · next fits =>
      have none : order.length + 1 - capacity = 0 := by omega
      rw [none]
      rfl

/-- Set and queue hold the same tokens, each of them once, and no more than the capacity, which has
room for one at least. -/
structure InStep (containers : QueuedSet) (capacity : Nat) : Prop where
  /-- There is a capacity. -/
  bounded : containers.capacity = some capacity
  /-- It is not zero. -/
  positive : 1 ≤ capacity
  /-- The queue holds no token twice. -/
  distinct : containers.order.Nodup
  /-- Queue and set hold the same tokens. -/
  same : containers.order.toFinset = containers.established
  /-- They are no more than the capacity. -/
  small : containers.order.length ≤ capacity

/-- Where set and queue are in step, recording a token puts it at the end and makes room at the
front, in both. -/
theorem InStep.record_eq (inStep : containers.InStep capacity) (token : String) :
    containers.record token =
      ⟨⟨some capacity, ((refresh containers.order token).rtake capacity).toFinset,
          (refresh containers.order token).rtake capacity⟩,
        decide (token ∉ containers.established), (refresh containers.order token).rdrop capacity⟩ := by
  have queued : (if decide (token ∉ containers.established) = true then containers.order
      else containers.order.filter (· != token)) ++ [token] = refresh containers.order token := by
    split
    · next fresh =>
      have absent : token ∉ containers.order := by
        rw [← List.mem_toFinset, inStep.same]
        exact of_decide_eq_true fresh
      exact (refresh_of_notMem absent).symm
    · rfl
  have added : insert token containers.established = (refresh containers.order token).toFinset := by
    ext other
    rw [List.mem_toFinset, mem_refresh, Finset.mem_insert, ← inStep.same, List.mem_toFinset]
  have room := makeRoom_eq capacity (nodup_refresh inStep.distinct token)
  simp only [record, inStep.bounded, queued, added, room]

/-- Recording keeps set and queue in step. -/
theorem InStep.record (inStep : containers.InStep capacity) (token : String) :
    (containers.record token).after.InStep capacity := by
  rw [inStep.record_eq]
  refine ⟨rfl, inStep.positive, ?_, rfl, ?_⟩
  · exact (nodup_refresh inStep.distinct token).sublist (List.drop_sublist _ _)
  · rw [List.rtake, List.length_drop]
    omega

/-- What recording a token comes to: the token is held, and the oldest one makes room for it where
it is new and there is no room. -/
structure RecordingAccount (before : QueuedSet) (token : String) (recording : Recording) : Prop where
  /-- The token is new exactly if it was not held before. -/
  isNew_iff : recording.isNew = true ↔ token ∉ before.established
  /-- The token is held. -/
  held : token ∈ recording.after.established
  /-- The tokens held are those before and this one, without those that made room. -/
  established : recording.after.established =
    insert token before.established \ recording.evicted.toFinset
  /-- No more than one token makes room, and it is the oldest. -/
  oldest : recording.evicted = [] ∨ ∃ oldest, recording.evicted = [oldest] ∧
    before.order.head? = some oldest ∧ oldest ≠ token
  /-- One makes room exactly if the token is new and as many as the capacity are held. -/
  full : recording.evicted ≠ [] ↔
    token ∉ before.established ∧ before.capacity = some before.established.card

/-- Without a capacity a token is added and none makes room. -/
theorem recordingAccount_of_unbounded (unbounded : containers.capacity = none) (token : String) :
    containers.RecordingAccount token (containers.record token) := by
  simp only [record, unbounded]
  refine ⟨decide_eq_true_iff, Finset.mem_insert_self _ _, ?_, .inl rfl, ?_⟩
  · rw [List.toFinset_nil, Finset.sdiff_empty]
  · simp [unbounded]

/-- The oldest token makes room for one that is new where there is no room. -/
theorem rdrop_refresh_of_full {tokens : List String} (positive : 1 ≤ capacity)
    (fresh : token ∉ tokens) (full : tokens.length = capacity) :
    ∃ oldest, tokens.head? = some oldest ∧ (refresh tokens token).rdrop capacity = [oldest] := by
  cases tokens with
  | nil =>
    have none : 0 = capacity := full
    omega
  | cons oldest rest =>
    refine ⟨oldest, rfl, ?_⟩
    have one : (oldest :: rest ++ [token]).length - capacity = 1 := by
      rw [List.length_append, List.length_singleton, full]
      omega
    rw [refresh_of_notMem fresh, List.rdrop, one]
    rfl

/-- No token makes room for one that is known, or where there is room. -/
theorem rdrop_refresh_of_room {tokens : List String} (distinct : tokens.Nodup)
    (small : tokens.length ≤ capacity) (room : ¬ (token ∉ tokens ∧ tokens.length = capacity)) :
    (refresh tokens token).rdrop capacity = [] := by
  have none : (refresh tokens token).length - capacity = 0 := by
    rw [length_refresh distinct]
    split
    · omega
    · next fresh =>
      have less : tokens.length ≠ capacity := fun same => room ⟨fresh, same⟩
      omega
  rw [List.rdrop, none, List.take_zero]

/-- Where set and queue are in step, recording a token evicts the oldest one if it has to. -/
theorem InStep.recordingAccount (inStep : containers.InStep capacity) (token : String) :
    containers.RecordingAccount token (containers.record token) := by
  have size : containers.order.length = containers.established.card := by
    rw [← inStep.same, List.toFinset_card_of_nodup inStep.distinct]
  have mem_iff : token ∈ containers.order ↔ token ∈ containers.established := by
    rw [← inStep.same, List.mem_toFinset]
  have distinct := nodup_refresh inStep.distinct token
  rw [inStep.record_eq]
  constructor
  · exact decide_eq_true_iff
  · show token ∈ ((refresh containers.order token).rtake capacity).toFinset
    obtain ⟨less, rfl⟩ := Nat.exists_eq_succ_of_ne_zero (Nat.ne_of_gt inStep.positive)
    rw [List.mem_toFinset, refresh, List.rtake_concat_succ]
    exact List.mem_append_right _ List.mem_cons_self
  · ext other
    rw [Finset.mem_sdiff, List.mem_toFinset, List.mem_toFinset, mem_rtake_iff distinct,
      mem_refresh, Finset.mem_insert, ← inStep.same, List.mem_toFinset]
  · show (refresh containers.order token).rdrop capacity = [] ∨ ∃ oldest,
      (refresh containers.order token).rdrop capacity = [oldest] ∧
        containers.order.head? = some oldest ∧ oldest ≠ token
    by_cases full : token ∉ containers.order ∧ containers.order.length = capacity
    · obtain ⟨oldest, first, made⟩ := rdrop_refresh_of_full inStep.positive full.1 full.2
      have held : oldest ∈ containers.order := List.mem_of_head? first
      exact .inr ⟨oldest, made, first, ne_of_mem_of_not_mem held full.1⟩
    · exact .inl (rdrop_refresh_of_room inStep.distinct inStep.small full)
  · show (refresh containers.order token).rdrop capacity ≠ [] ↔ _
    rw [inStep.bounded, Option.some.injEq, ← size, ← mem_iff]
    by_cases full : token ∉ containers.order ∧ containers.order.length = capacity
    · obtain ⟨oldest, -, made⟩ := rdrop_refresh_of_full inStep.positive full.1 full.2
      simp [made, full]
    · have room := rdrop_refresh_of_room inStep.distinct inStep.small full
      rw [room, eq_comm (b := containers.order.length)]
      simpa using full

/-! ## After any recordings -/

/-- Recording tokens and then one more is recording all of them. -/
theorem recordAll_concat (containers : QueuedSet) (tokens : List String) (token : String) :
    containers.recordAll (tokens ++ [token]) = ((containers.recordAll tokens).record token).after := by
  rw [recordAll, List.foldl_append]
  rfl

/-- Set and queue are in step from the start, if there is a capacity. -/
theorem inStep_empty (size : Nat) : (empty (some size)).InStep (max size 1) :=
  ⟨rfl, Nat.le_max_right size 1, List.nodup_nil, rfl, Nat.zero_le _⟩

/-- Set and queue stay in step, whatever is recorded. -/
theorem InStep.recordAll (inStep : containers.InStep capacity) (tokens : List String) :
    (containers.recordAll tokens).InStep capacity := by
  induction tokens using List.reverseRecOn with
  | nil => exact inStep
  | append_singleton tokens token ih =>
    rw [recordAll_concat]
    exact ih.record token

/-- A queue holds the tokens that were recorded last, if it was empty. -/
theorem InStep.order_recordAll (inStep : containers.InStep capacity) (fresh : containers.order = [])
    (tokens : List String) :
    (containers.recordAll tokens).order = mostRecent capacity tokens := by
  induction tokens using List.reverseRecOn with
  | nil =>
    rw [QueuedSet.recordAll, List.foldl_nil, fresh, mostRecent, List.dedup_nil, List.rtake_nil]
  | append_singleton tokens token ih =>
    rw [recordAll_concat, (inStep.recordAll tokens).record_eq, mostRecent_concat, ih]

/-- Without a capacity all tokens that are recorded are held. -/
theorem recordAll_of_unbounded (tokens : List String) :
    (empty none).recordAll tokens = ⟨none, tokens.toFinset, []⟩ := by
  induction tokens using List.reverseRecOn with
  | nil => rfl
  | append_singleton tokens token ih =>
    rw [recordAll_concat, ih, record, List.toFinset_append, List.toFinset_cons, List.toFinset_nil,
      Finset.union_insert, Finset.union_empty]

end QueuedSet

/-- A tracker holds the tokens that a set and a queue hold, in the order of the queue if there is a
capacity, and says the same as they do of a flow that is recorded next. -/
structure Tracker.Agrees (tracker : Tracker) (containers : QueuedSet) : Prop where
  /-- The tokens are those of the set. -/
  established : ∀ token, tracker.contains token = true ↔ token ∈ containers.established
  /-- With a capacity they are in the order of the queue. -/
  order : tracker.capacity ≠ none → tracker.tokens = containers.order
  /-- The flow is new for both or for none of them. -/
  isNew : ∀ key : FlowKey, tracker.isNew key = (containers.record key.token).isNew
  /-- The same tokens make room for it. -/
  evicted : ∀ key : FlowKey, tracker.evicted key.token = (containers.record key.token).evicted

namespace Tracker

/-- A flow is new for both if they hold the same tokens. -/
theorem isNew_eq_of_established {tracker : Tracker} {containers : QueuedSet}
    (established : ∀ token, tracker.contains token = true ↔ token ∈ containers.established)
    (key : FlowKey) : tracker.isNew key = (containers.record key.token).isNew := by
  have isNew : (containers.record key.token).isNew =
      decide (key.token ∉ containers.established) := by
    unfold QueuedSet.record
    split <;> rfl
  rw [isNew, Tracker.isNew, Bool.eq_iff_iff, Bool.not_eq_true', decide_eq_true_iff,
    ← established, Bool.not_eq_true]

/-- A tracker agrees with a set and a queue for which the same was recorded. -/
theorem agrees_recordAll (limit : Option Nat) (keys : List FlowKey) :
    ((empty limit).recordAll keys).Agrees
      ((QueuedSet.empty limit).recordAll (keys.map FlowKey.token)) := by
  have capacity : ((empty limit).recordAll keys).capacity = limit.map (max · 1) :=
    capacity_recordAll _ _
  cases limit with
  | none =>
    have established : ∀ token, ((empty none).recordAll keys).contains token = true ↔
        token ∈ ((QueuedSet.empty none).recordAll (keys.map FlowKey.token)).established := by
      intro token
      rw [contains, List.contains_iff_mem, mem_tokens_recordAll_of_unbounded rfl rfl,
        QueuedSet.recordAll_of_unbounded, List.mem_toFinset]
    refine ⟨established, fun bounded => absurd capacity bounded,
      isNew_eq_of_established established, fun key => ?_⟩
    rw [evicted, capacity, QueuedSet.recordAll_of_unbounded]
    rfl
  | some size =>
    have inStep := (QueuedSet.inStep_empty size).recordAll (keys.map FlowKey.token)
    have order : ((empty (some size)).recordAll keys).tokens =
        ((QueuedSet.empty (some size)).recordAll (keys.map FlowKey.token)).order := by
      rw [tokens_recordAll_of_bounded rfl rfl,
        (QueuedSet.inStep_empty size).order_recordAll rfl]
    have established : ∀ token, ((empty (some size)).recordAll keys).contains token = true ↔
        token ∈ ((QueuedSet.empty (some size)).recordAll (keys.map FlowKey.token)).established := by
      intro token
      rw [contains, List.contains_iff_mem, order, ← inStep.same, List.mem_toFinset]
    refine ⟨established, fun _ => order, isNew_eq_of_established established, fun key => ?_⟩
    rw [inStep.record_eq, ← order]
    simp only [evicted, capacity]
    rfl

/-- After any recordings a tracker with a capacity holds the flows that were recorded last, in that
order, and one without a capacity all that were recorded. A set and a queue that are changed one
after the other hold the same: they never drift apart, and both tell the same of the next flow. It is
new exactly if it is not held, is held from then on, and at most the oldest flow makes room for
it, which it does only for a new one where there is no room. -/
theorem recordAll_leastRecent (limit : Option Nat) (keys : List FlowKey) :
    ((empty limit).recordAll keys).Agrees
        ((QueuedSet.empty limit).recordAll (keys.map FlowKey.token)) ∧
      (∀ size, limit = some size →
        ((QueuedSet.empty limit).recordAll (keys.map FlowKey.token)).InStep (max size 1) ∧
          ((QueuedSet.empty limit).recordAll (keys.map FlowKey.token)).order =
            mostRecent (max size 1) (keys.map FlowKey.token)) ∧
      (limit = none →
        ((QueuedSet.empty limit).recordAll (keys.map FlowKey.token)).established =
          (keys.map FlowKey.token).toFinset) ∧
      ∀ token, ((QueuedSet.empty limit).recordAll (keys.map FlowKey.token)).RecordingAccount token
        (((QueuedSet.empty limit).recordAll (keys.map FlowKey.token)).record token) := by
  refine ⟨agrees_recordAll limit keys, ?_, ?_, fun token => ?_⟩
  · rintro size rfl
    have inStep := QueuedSet.inStep_empty size
    exact ⟨inStep.recordAll _, inStep.order_recordAll rfl _⟩
  · rintro rfl
    rw [QueuedSet.recordAll_of_unbounded]
  · cases limit with
    | none =>
      rw [QueuedSet.recordAll_of_unbounded]
      exact QueuedSet.recordingAccount_of_unbounded rfl token
    | some size => exact ((QueuedSet.inStep_empty size).recordAll _).recordingAccount token

/-- A flow between two hosts, from a port. -/
def fromPort (port : String) : FlowKey := ⟨"10.0.0.1", port, "10.0.0.2", "443"⟩

/-- Of three flows, the first of which is recorded again before the last, the second one makes room
in a tracker for two. -/
theorem recordAll_fromPort :
    ((QueuedSet.empty (some 2)).recordAll
        ([fromPort "1", fromPort "2", fromPort "1", fromPort "3"].map FlowKey.token)).InStep 2 ∧
      ((QueuedSet.empty (some 2)).recordAll
          ([fromPort "1", fromPort "2", fromPort "1", fromPort "3"].map FlowKey.token)).order =
        [(fromPort "1").token, (fromPort "3").token] :=
  (recordAll_leastRecent (some 2)
    [fromPort "1", fromPort "2", fromPort "1", fromPort "3"]).2.1 2 rfl

end Tracker

end PacketFilter
