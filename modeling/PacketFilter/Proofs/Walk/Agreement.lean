import PacketFilter.Proofs.History
import PacketFilter.Proofs.Walk.Calls

/-!
# Walks that two tables share

A walk in one table is a walk in another if, on the chains of a region that no jump leaves, the
rules have the same effects in both tables (`Course.transfer`). The limits on open jumps need not
be the same: a walk that is not too deep under one limit is the same under every higher one, so
raising the limit changes no other answer (`evaluate_of_raised_limit`).
-/
namespace PacketFilter.Table

/-- On the chains of a region the rules have the same effects in both tables, and what they ask is
in the region again. -/
structure AgreesOn (table other : Table) (view : PacketView) (region : Chain → Prop) : Prop where
  /-- The effects are the same. -/
  effects : ∀ chain, region chain → ∀ rule ∈ chain.rules, ∀ position,
    other.effect view chain position rule = table.effect view chain position rule
  /-- No jump leaves the region. -/
  closed : ∀ chain, region chain → ∀ rule ∈ chain.rules, ∀ position target next,
    table.effect view chain position rule = .ask target next → region next

/-- Both tables have the same limit on open jumps, or the other table has a higher one and the
outcome is not that the limit was exceeded. -/
def LimitAllows (table other : Table) (outcome : Except TableError (Option Verdict)) : Prop :=
  other.options.maxJumpDepth = table.options.maxJumpDepth ∨
    table.options.maxJumpDepth ≤ other.options.maxJumpDepth ∧
      ∀ target limit, outcome ≠ .error (.jumpDepthExceeded target limit)

variable {table other : Table} {view : PacketView}

/-- The effect that a rule of the region has in one table it has in the other. -/
theorem AgreesOn.effect_eq {region : Chain → Prop} (agrees : table.AgreesOn other view region)
    {chain : Chain} {position : Nat} {rule : Rule} {effect : Effect} (inside : region chain)
    (within : rule ∈ chain.rules) (same : table.effect view chain position rule = effect) :
    other.effect view chain position rule = effect :=
  (agrees.effects chain inside rule within position).trans same

/-- The other table allows at least as many open jumps. -/
theorem LimitAllows.le {outcome : Except TableError (Option Verdict)}
    (allows : table.LimitAllows other outcome) :
    table.options.maxJumpDepth ≤ other.options.maxJumpDepth :=
  allows.elim (fun same => same.ge) And.left

/-- An outcome that is no error is allowed wherever any outcome is. -/
theorem LimitAllows.of_ok {outcome : Except TableError (Option Verdict)}
    (allows : table.LimitAllows other outcome) (decided : Option Verdict) :
    table.LimitAllows other (.ok decided) :=
  allows.imp_right fun raised => ⟨raised.1, fun _ _ => nofun⟩

/-- A rule has the same effect in two tables if it matches in both or in none and the chain that it
jumps to, if it matches, is the same. -/
theorem effect_congr {chain : Chain} {position : Nat} {rule : Rule}
    (alike : rule.isMatch view other.tracker = rule.isMatch view table.tracker)
    (targets : ∀ target, rule.isMatch view table.tracker = true →
      rule.action = some (.jump target) →
        other.chains.find? target = table.chains.find? target) :
    other.effect view chain position rule = table.effect view chain position rule := by
  unfold effect
  rw [alike]
  split
  · next matched =>
    match action : rule.action with
    | none | some .accept | some .drop | some .reject | some (.log _) => rfl
    | some (.jump target) => simp only [targets target matched action]
  · rfl

/-- What a walk comes to in one table it comes to in another that agrees with it on a region with
the walked chain, if the limit on open jumps allows that. -/
theorem Course.transfer {region : Chain → Prop} (agrees : table.AgreesOn other view region)
    {path : List String} {chain : Chain} {position : Nat} {rules : List Rule} {walked : Walked}
    (course : table.Course view path chain position rules walked) (inside : region chain)
    (within : rules ⊆ chain.rules) (allows : table.LimitAllows other walked.outcome) :
    other.Course view path chain position rules walked := by
  induction course with
  | ended => exact .ended
  | passed effect _ ih =>
    obtain ⟨first, others⟩ := List.cons_subset.1 within
    exact .passed (agrees.effect_eq inside first effect) (ih inside others allows)
  | stopped effect =>
    obtain ⟨first, -⟩ := List.cons_subset.1 within
    exact .stopped (agrees.effect_eq inside first effect)
  | cyclic effect visited =>
    obtain ⟨first, -⟩ := List.cons_subset.1 within
    exact .cyclic (agrees.effect_eq inside first effect) visited
  | tooDeep effect fresh deep =>
    obtain ⟨first, -⟩ := List.cons_subset.1 within
    rcases allows with limit | ⟨-, settled⟩
    · -- The limits are the same: under a higher one the walk would go on here.
      rw [← limit] at deep ⊢
      exact .tooDeep (agrees.effect_eq inside first effect) fresh deep
    · exact absurd rfl (settled _ _)
  | adopted effect fresh shallow _ decides ih =>
    obtain ⟨first, -⟩ := List.cons_subset.1 within
    have asked := ih (agrees.closed _ inside _ first _ _ _ effect) (List.Subset.refl _) allows
    exact .adopted (agrees.effect_eq inside first effect) fresh (shallow.trans allows.le) asked
      decides
  | returned effect fresh shallow _ undecided _ innerIh laterIh =>
    obtain ⟨first, others⟩ := List.cons_subset.1 within
    have asked := innerIh (agrees.closed _ inside _ first _ _ _ effect) (List.Subset.refl _)
      (undecided ▸ allows.of_ok none)
    exact .returned (agrees.effect_eq inside first effect) fresh (shallow.trans allows.le) asked
      undecided (laterIh inside others allows)

/-- A walk from a start on is the same in two tables that have the same chain there and agree on a
region with that chain. -/
theorem traverse_eq_of_agreesOn {region : Chain → Prop} {start : String}
    (agrees : table.AgreesOn other view region)
    (entry : other.chains.find? start = table.chains.find? start)
    (inside : ∀ chain, table.chains.find? start = some chain → region chain)
    (allows : table.LimitAllows other (table.traverse start view).outcome) :
    other.traverse start view = table.traverse start view := by
  cases found : table.chains.find? start with
  | none => simp only [traverse, entry, found]
  | some chain =>
    rw [table.traverse_of_find? view found] at allows ⊢
    rw [other.traverse_of_find? view (entry.trans found)]
    have course := table.walk_course view [start] chain
    exact (course.transfer agrees (inside chain found) (List.Subset.refl _) allows).walk_eq

/-- Evaluations that walk alike and have the same verdict where nothing decides come to the same. -/
theorem evaluate_snd_of_traverse {start : String}
    (walks : other.traverse start view = table.traverse start view)
    (implicit : other.options.implicitPolicy = table.options.implicitPolicy) :
    (other.evaluate start view).2 = (table.evaluate start view).2 := by
  simp only [evaluate, walks, verdictOf, implicit]
  split <;> rfl

/-- Raising the limit on open jumps changes no answer but that the limit was exceeded: what an
evaluation comes to otherwise, be it a verdict with log records or another error, it comes to under
every higher limit as well, and the same flows are established then. -/
theorem evaluate_of_raised_limit (table other : Table) (chains : other.chains = table.chains)
    (tracker : other.tracker = table.tracker)
    (implicit : other.options.implicitPolicy = table.options.implicitPolicy)
    (raised : table.options.maxJumpDepth ≤ other.options.maxJumpDepth) (start : String)
    (view : PacketView)
    (settled : ∀ target limit,
      (table.evaluate start view).2 ≠ .error (.jumpDepthExceeded target limit)) :
    (other.evaluate start view).2 = (table.evaluate start view).2 ∧
      (other.evaluate start view).1.tracker = (table.evaluate start view).1.tracker := by
  have agrees : table.AgreesOn other view fun _ => True := by
    refine ⟨fun chain _ rule _ position => ?_, fun _ _ _ _ _ _ _ _ => trivial⟩
    exact effect_congr (by rw [tracker]) fun target _ _ => by rw [chains]
  have allows : table.LimitAllows other (table.traverse start view).outcome := by
    refine .inr ⟨raised, fun target limit failed => ?_⟩
    exact settled target limit ((table.evaluate_eq_error_iff view start _).2 failed)
  have walks := traverse_eq_of_agreesOn agrees (by rw [chains]) (fun _ _ => trivial) allows
  have same := evaluate_snd_of_traverse walks implicit
  exact ⟨same, tracker_evaluate_congr tracker (by rw [same])⟩

/-- A limit that has just room for three chains reports the same cycle among them as one that has
room for many. -/
theorem evaluate_narrowTable :
    (∀ target limit, (narrowTable.evaluate "INPUT" ⟨[], none, none⟩).2 ≠
        .error (.jumpDepthExceeded target limit)) ∧
      narrowTable.options.maxJumpDepth < loopingTable.options.maxJumpDepth ∧
      (loopingTable.evaluate "INPUT" ⟨[], none, none⟩).2 =
        .error (.jumpCycle ["INPUT", "WEB", "API", "WEB"]) ∧
      (loopingTable.evaluate "INPUT" ⟨[], none, none⟩).1.tracker = .empty none := by
  have cycle : (narrowTable.evaluate "INPUT" ⟨[], none, none⟩).2 =
      .error (.jumpCycle ["INPUT", "WEB", "API", "WEB"]) := by decide +kernel
  have settled : ∀ target limit, (narrowTable.evaluate "INPUT" ⟨[], none, none⟩).2 ≠
      .error (.jumpDepthExceeded target limit) := by simp [cycle]
  have raised : narrowTable.options.maxJumpDepth < loopingTable.options.maxJumpDepth := by
    decide +kernel
  obtain ⟨same, tracker⟩ := evaluate_of_raised_limit narrowTable loopingTable rfl rfl rfl
    raised.le "INPUT" ⟨[], none, none⟩ settled
  exact ⟨settled, raised, same.trans cycle, tracker.trans (by decide +kernel)⟩

end PacketFilter.Table
