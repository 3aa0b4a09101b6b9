import Mathlib.Data.List.Chain
import PacketFilter.Proofs.Walk.Course

/-!
# Paths behind errors

While a packet is decided, the chains being asked form a matched path: distinct chains of the
table, each with a rule that matches the packet and jumps to the next. Every error of an evaluation
names the end of such a path. `Asking` is the invariant that the walk keeps at every chain it asks,
and `evaluate_errorWitness` what an error says because of it.
-/
namespace PacketFilter

/-- A chain of related items goes on with an item that its last one is related to. -/
theorem isChain_concat {α : Type} {related : α → α → Prop} {items : List α} {last next : α}
    (linked : items.IsChain related) (ending : items.getLast? = some last)
    (step : related last next) : (items ++ [next]).IsChain related := by
  refine linked.append (.singleton next) fun source isLast target isFirst => ?_
  obtain rfl : source = last := by simpa [ending, eq_comm] using isLast
  obtain rfl : target = next := by simpa [eq_comm] using isFirst
  exact step

namespace Table

/-- One chain has a rule that matches the packet and jumps to the other name. -/
def JumpsTo (table : Table) (view : PacketView) (source target : String) : Prop :=
  ∃ chain, table.chains.find? source = some chain ∧
    ∃ rule ∈ chain.rules,
      rule.isMatch view table.tracker = true ∧ rule.action = some (.jump target)

/-- Distinct chains of the table, from the start on, each of which jumps to the next. -/
structure MatchedPath (table : Table) (view : PacketView) (start : String)
    (path : List String) : Prop where
  /-- The first chain is the start. -/
  head : path.head? = some start
  /-- No chain is on the path twice. -/
  distinct : path.Nodup
  /-- All chains on the path are there. -/
  present : ∀ name ∈ path, (table.chains.find? name).isSome
  /-- Each chain has a matching rule that jumps to the next. -/
  linked : path.IsChain (table.JumpsTo view)

/-- What an error of an evaluation says about the table. -/
def ErrorWitness (table : Table) (view : PacketView) (start : String) : TableError → Prop
  | .unknownChain name => name = start ∧ table.chains.find? start = none
  | .chainExists _ => False
  | .unknownJumpTarget source target =>
    table.chains.find? target = none ∧
      ∃ path, table.MatchedPath view start path ∧ path.getLast? = some source ∧
        path.length ≤ table.options.maxJumpDepth + 1 ∧ table.JumpsTo view source target
  | .jumpCycle cycle =>
    ∃ path last target, cycle = path ++ [target] ∧ table.MatchedPath view start path ∧
      path.getLast? = some last ∧ path.length ≤ table.options.maxJumpDepth + 1 ∧
      table.JumpsTo view last target ∧ target ∈ path
  | .jumpDepthExceeded target limit =>
    limit = table.options.maxJumpDepth ∧ (table.chains.find? target).isSome ∧
      ∃ path last, table.MatchedPath view start path ∧ path.getLast? = some last ∧
        path.length = limit + 1 ∧ table.JumpsTo view last target ∧ target ∉ path

variable {table : Table} {view : PacketView} {start : String}

/-- A matched path goes on with any other chain that its last one jumps to. -/
theorem MatchedPath.concat {path : List String} {last target : String}
    (matched : table.MatchedPath view start path) (ending : path.getLast? = some last)
    (jumps : table.JumpsTo view last target) (there : (table.chains.find? target).isSome)
    (fresh : target ∉ path) : table.MatchedPath view start (path ++ [target]) := by
  obtain ⟨head, distinct, present, linked⟩ := matched
  refine ⟨by simp [head], ?_, ?_, isChain_concat linked ending jumps⟩
  · rw [List.nodup_append]
    refine ⟨distinct, by simp, fun name within other single => ?_⟩
    obtain rfl := List.mem_singleton.1 single
    exact fun same => fresh (same ▸ within)
  · intro name within
    rcases List.mem_append.1 within with before | single
    · exact present name before
    · obtain rfl := List.mem_singleton.1 single
      exact there

/-- A matched path is no longer than the table has chains. -/
theorem MatchedPath.length_le {path : List String}
    (matched : table.MatchedPath view start path) : path.length ≤ table.chains.size := by
  have named : path ⊆ table.chains.toList.map Chain.name := by
    intro name within
    obtain ⟨chain, found⟩ := Option.isSome_iff_exists.1 (matched.present name within)
    rw [← ChainSet.name_of_find? found]
    exact List.mem_map_of_mem (ChainSet.mem_of_find? found)
  simpa [ChainSet.size] using matched.distinct.length_le_of_subset named

/-- An evaluation that is too deep has asked more chains than the limit counts jumps, so a table
with fewer chains is never too deep. -/
theorem ErrorWitness.limit_lt_size {target : String} {limit : Nat}
    (witness : table.ErrorWitness view start (.jumpDepthExceeded target limit)) :
    table.options.maxJumpDepth + 1 < table.chains.size := by
  obtain ⟨rfl, there, path, last, matched, ending, length, jumps, fresh⟩ := witness
  have counted := (matched.concat ending jumps there fresh).length_le
  rw [List.length_append, length, List.length_singleton] at counted
  exact counted

/-- The chains on a path are being asked, this one last. -/
structure Asking (table : Table) (view : PacketView) (start : String) (path : List String)
    (chain : Chain) : Prop where
  /-- The path is a matched one. -/
  matched : table.MatchedPath view start path
  /-- Its last name is that of the chain. -/
  last : path.getLast? = some chain.name
  /-- The chain has that name in the table. -/
  found : table.chains.find? chain.name = some chain
  /-- No more jumps are open than allowed. -/
  room : path.length ≤ table.options.maxJumpDepth + 1

/-- The start alone is a matched path, if it is there. -/
theorem asking_start {chain : Chain} (found : table.chains.find? start = some chain) :
    table.Asking view start [start] chain := by
  have named := ChainSet.name_of_find? found
  refine ⟨⟨rfl, by simp, ?_, .singleton start⟩, by simp [named], by rw [named, found], by simp⟩
  intro name within
  obtain rfl := List.mem_singleton.1 within
  simp [found]

/-- A rule of a chain that is being asked leads from it to the chain it jumps to. -/
theorem Asking.jumpsTo {path : List String} {chain : Chain}
    (asking : table.Asking view start path chain) {rule : Rule} {target : String}
    (within : rule ∈ chain.rules) (matched : rule.isMatch view table.tracker = true)
    (action : rule.action = some (.jump target)) : table.JumpsTo view chain.name target :=
  ⟨chain, asking.found, rule, within, matched, action⟩

/-- Asking a chain that is not on the path yet, while fewer jumps than allowed are open, keeps
the invariant. -/
theorem Asking.enter {path : List String} {chain next : Chain} {target : String}
    (asking : table.Asking view start path chain)
    (jumps : table.JumpsTo view chain.name target)
    (found : table.chains.find? target = some next) (fresh : target ∉ path)
    (shallow : path.length ≤ table.options.maxJumpDepth) :
    table.Asking view start (path ++ [target]) next := by
  have named := ChainSet.name_of_find? found
  refine ⟨asking.matched.concat asking.last jumps (by simp [found]) fresh, by simp [named],
    by rw [named, found], by simpa using shallow⟩

/-- An error of a walk through the rules of a chain that is being asked has a witness. -/
theorem Course.errorWitness {path : List String} {chain : Chain} {position : Nat}
    {rules : List Rule} {walked : Walked} {error : TableError}
    (course : table.Course view path chain position rules walked)
    (asking : table.Asking view start path chain) (within : rules ⊆ chain.rules)
    (failed : walked.outcome = .error error) : table.ErrorWitness view start error := by
  induction course with
  | ended => simp at failed
  | passed _ _ ih => exact ih asking (List.cons_subset.1 within).2 failed
  | stopped effect =>
    simp only [Walked.outcome_done] at failed
    rw [failed, effect_eq_stop_error_iff] at effect
    obtain ⟨target, matched, action, absent, rfl⟩ := effect
    exact ⟨absent, _, asking.matched, asking.last, asking.room,
      asking.jumpsTo (List.cons_subset.1 within).1 matched action⟩
  | cyclic effect visited =>
    obtain ⟨matched, action, -⟩ := effect_eq_ask_iff.1 effect
    simp only [Walked.outcome_done, Except.error.injEq] at failed
    subst failed
    exact ⟨_, _, _, rfl, asking.matched, asking.last, asking.room,
      asking.jumpsTo (List.cons_subset.1 within).1 matched action, visited⟩
  | tooDeep effect fresh deep =>
    obtain ⟨matched, action, found⟩ := effect_eq_ask_iff.1 effect
    simp only [Walked.outcome_done, Except.error.injEq] at failed
    subst failed
    have room := asking.room
    exact ⟨rfl, by simp [found], _, _, asking.matched, asking.last, by omega,
      asking.jumpsTo (List.cons_subset.1 within).1 matched action, fresh⟩
  | adopted effect fresh shallow _ _ ih =>
    obtain ⟨matched, action, found⟩ := effect_eq_ask_iff.1 effect
    have jumps := asking.jumpsTo (List.cons_subset.1 within).1 matched action
    exact ih (asking.enter jumps found fresh shallow) (List.Subset.refl _) failed
  | returned _ _ _ _ _ _ _ ih => exact ih asking (List.cons_subset.1 within).2 failed

/-- An error of a walk from the start on has a witness. -/
theorem traverse_errorWitness {error : TableError}
    (failed : (table.traverse start view).outcome = .error error) :
    table.ErrorWitness view start error := by
  cases found : table.chains.find? start with
  | none =>
    simp only [traverse, found, Walked.outcome_done, Except.error.injEq] at failed
    subst failed
    exact ⟨rfl, found⟩
  | some chain =>
    rw [table.traverse_of_find? view found] at failed
    exact (table.walk_course view [start] chain).errorWitness (asking_start found)
      (List.Subset.refl _) failed

/-- Every error of an evaluation has a witness. The start is reported as unknown exactly when it
is not there, and no error says that a chain is there already. -/
theorem evaluate_errorWitness (table : Table) (view : PacketView) (start : String) :
    (∀ name, (table.evaluate start view).2 = .error (.unknownChain name) ↔
      name = start ∧ table.chains.find? start = none) ∧
    (∀ error, (table.evaluate start view).2 = .error error →
      table.ErrorWitness view start error) ∧
    ∀ name, (table.evaluate start view).2 ≠ .error (.chainExists name) := by
  simp only [evaluate_eq_error_iff, ne_eq]
  refine ⟨fun name => ⟨traverse_errorWitness, ?_⟩, fun error => traverse_errorWitness, fun name =>
    traverse_errorWitness⟩
  rintro ⟨rfl, absent⟩
  simp [traverse, absent]

/-- A rule that matches every packet and jumps. -/
def always (target : String) : Rule := { Rule.wildcard with action := some (.jump target) }

/-- A rule that matches every packet and notes it. -/
def noting (label : String) : Rule := { Rule.wildcard with action := some (.log label) }

/-- A chain that leads into two chains that jump to each other. -/
def loopingTable : Table where
  chains := ((ChainSet.empty.insert ⟨"INPUT", none, [always "WEB"]⟩).insert
    ⟨"WEB", none, [always "API"]⟩).insert ⟨"API", some .accept, [always "WEB"]⟩
  tracker := .empty none
  options := .standard

/-- The cycle that is reported consists of a matched path and a return to its second chain. -/
theorem loopingTable_cycle :
    (loopingTable.evaluate "INPUT" ⟨[], none, none⟩).2 =
        .error (.jumpCycle ["INPUT", "WEB", "API", "WEB"]) ∧
      loopingTable.ErrorWitness ⟨[], none, none⟩ "INPUT"
        (.jumpCycle ["INPUT", "WEB", "API", "WEB"]) := by
  have failed : (loopingTable.evaluate "INPUT" ⟨[], none, none⟩).2 =
      .error (.jumpCycle ["INPUT", "WEB", "API", "WEB"]) := by decide +kernel
  exact ⟨failed, (evaluate_errorWitness _ _ _).2.1 _ failed⟩

end Table

end PacketFilter
