import PacketFilter.Table.Walk

/-!
# The course of a walk

What one rule does to a walk depends on the rule, the packet and the established flows alone: the
walk goes on, stops, or asks another chain. `Course` says how these effects make up a walk that
keeps to a path, and `walk_course` that every walk has such a course. Facts about walks are proved
by induction on the course, so none of them opens the recursion of the walk again.
-/
namespace PacketFilter

namespace Walked

/-- Notices before a walk come first. -/
@[simp] theorem notices_after (walked : Walked) (notices : List Notice) :
    (walked.after notices).notices = notices ++ walked.notices := rfl

/-- A walk that ends at once comes to what it ends with. -/
@[simp] theorem outcome_done (outcome : Except TableError (Option Verdict)) :
    (done outcome).outcome = outcome := rfl

/-- The log records among the notices before a walk come first. -/
@[simp] theorem logs_after (walked : Walked) (notices : List Notice) :
    (walked.after notices).logs = notices.filterMap Notice.record? ++ walked.logs := by
  simp [logs]

/-- The log records of a chain that was asked and did not decide come first. -/
@[simp] theorem logs_after_returned (walked inner : Walked) (chain target : String) :
    (walked.after (inner.notices ++ [.returned chain target])).logs =
      inner.logs ++ walked.logs := by
  simp [logs, List.filterMap_cons, Notice.record?]

end Walked

/-- The verdict of an action that decides. -/
def Action.verdict? : Action → Option Verdict
  | accept => some .accept
  | drop | reject => some .drop
  | log _ | jump _ => none

/-- What one rule does to a walk. -/
inductive Effect where
  /-- The next rule is tried, after these notices. -/
  | goOn (notices : List Notice)
  /-- The walk comes to its end. -/
  | stop (outcome : Except TableError (Option Verdict))
  /-- A chain of the table is asked under its name. -/
  | ask (target : String) (next : Chain)

namespace Table

/-- The effect of the rule at a position of a chain. -/
def effect (table : Table) (view : PacketView) (chain : Chain) (position : Nat) (rule : Rule) :
    Effect :=
  if rule.isMatch view table.tracker then
    match rule.action with
    | some .accept => .stop (.ok (some .accept))
    | some .drop | some .reject => .stop (.ok (some .drop))
    | some (.log label) => .goOn [.logged ⟨chain.name, position, label⟩]
    | some (.jump target) =>
      match table.chains.find? target with
      | none => .stop (.error (.unknownJumpTarget chain.name target))
      | some next => .ask target next
    | none => .goOn [.noAction chain.name position]
  else .goOn []

/-- A walk goes on past a rule exactly when the rule does not match, is a log rule, or has no
action. -/
theorem effect_eq_goOn_iff {table : Table} {view : PacketView} {chain : Chain} {position : Nat}
    {rule : Rule} {notices : List Notice} :
    table.effect view chain position rule = .goOn notices ↔
      rule.isMatch view table.tracker = false ∧ notices = [] ∨
        rule.isMatch view table.tracker = true ∧
          ((∃ label, rule.action = some (.log label) ∧
            notices = [.logged ⟨chain.name, position, label⟩]) ∨
          rule.action = none ∧ notices = [.noAction chain.name position]) := by
  cases matched : rule.isMatch view table.tracker with
  | false => simp [effect, matched, eq_comm]
  | true =>
    match action : rule.action with
    | none | some .accept | some .drop | some .reject | some (.log label) =>
      simp [effect, matched, action, eq_comm]
    | some (.jump jumped) =>
      cases present : table.chains.find? jumped with
      | none | some callee => simp [effect, matched, action, present]

/-- A walk stops at a rule with an outcome that is no error exactly when the rule matches and its
action decides. -/
theorem effect_eq_stop_ok_iff {table : Table} {view : PacketView} {chain : Chain}
    {position : Nat} {rule : Rule} {decided : Option Verdict} :
    table.effect view chain position rule = .stop (.ok decided) ↔
      rule.isMatch view table.tracker = true ∧ ∃ action verdict, rule.action = some action ∧
        action.verdict? = some verdict ∧ decided = some verdict := by
  cases matched : rule.isMatch view table.tracker with
  | false => simp [effect, matched]
  | true =>
    match action : rule.action with
    | none | some .accept | some .drop | some .reject | some (.log label) =>
      simp [effect, matched, action, Action.verdict?, eq_comm]
    | some (.jump jumped) =>
      cases present : table.chains.find? jumped with
      | none | some callee => simp [effect, matched, action, present, Action.verdict?]

/-- A rule asks a chain exactly when it matches and jumps to the name of that chain. -/
theorem effect_eq_ask_iff {table : Table} {view : PacketView} {chain : Chain} {position : Nat}
    {rule : Rule} {target : String} {next : Chain} :
    table.effect view chain position rule = .ask target next ↔
      rule.isMatch view table.tracker = true ∧ rule.action = some (.jump target) ∧
        table.chains.find? target = some next := by
  cases matched : rule.isMatch view table.tracker with
  | false => simp [effect, matched]
  | true =>
    match action : rule.action with
    | none | some .accept | some .drop | some .reject | some (.log label) =>
      simp [effect, matched, action]
    | some (.jump jumped) =>
      cases present : table.chains.find? jumped with
      | none =>
        simp only [effect, matched, action, present, if_true, reduceCtorEq, false_iff, not_and]
        rintro - ⟨⟩
        simp [present]
      | some callee =>
        simp only [effect, matched, action, present, if_true, Effect.ask.injEq, true_and,
          Option.some.injEq, Action.jump.injEq, and_congr_right_iff]
        rintro rfl
        simp [present]

/-- A rule stops a walk with an error exactly when it matches and jumps to a name that no chain
has; the error names its chain and that name. -/
theorem effect_eq_stop_error_iff {table : Table} {view : PacketView} {chain : Chain}
    {position : Nat} {rule : Rule} {error : TableError} :
    table.effect view chain position rule = .stop (.error error) ↔
      ∃ target, rule.isMatch view table.tracker = true ∧ rule.action = some (.jump target) ∧
        table.chains.find? target = none ∧ error = .unknownJumpTarget chain.name target := by
  cases matched : rule.isMatch view table.tracker with
  | false => simp [effect, matched]
  | true =>
    match action : rule.action with
    | none | some .accept | some .drop | some .reject | some (.log label) =>
      simp [effect, matched, action]
    | some (.jump jumped) =>
      cases present : table.chains.find? jumped with
      | none => simp [effect, matched, action, present, eq_comm]
      | some callee => simp [effect, matched, action, present]

/-- The rules of a chain from a position on, tried while the chains of a path are being asked.
The last argument is what the walk through them comes to. -/
inductive Course (table : Table) (view : PacketView) :
    List String → Chain → Nat → List Rule → Walked → Prop where
  /-- No rule is left, so the policy counts. -/
  | ended {path : List String} {chain : Chain} {position : Nat} :
      Course table view path chain position [] (.done (.ok chain.policy))
  /-- The rule does not decide. -/
  | passed {path : List String} {chain : Chain} {position : Nat} {rule : Rule}
      {rest : List Rule} {notices : List Notice} {walked : Walked}
      (effect : table.effect view chain position rule = .goOn notices)
      (later : Course table view path chain (position + 1) rest walked) :
      Course table view path chain position (rule :: rest) (walked.after notices)
  /-- The rule decides, or jumps to a chain that is not there. -/
  | stopped {path : List String} {chain : Chain} {position : Nat} {rule : Rule}
      {rest : List Rule} {outcome : Except TableError (Option Verdict)}
      (effect : table.effect view chain position rule = .stop outcome) :
      Course table view path chain position (rule :: rest) (.done outcome)
  /-- The rule jumps to a chain that is being asked already. -/
  | cyclic {path : List String} {chain : Chain} {position : Nat} {rule : Rule}
      {rest : List Rule} {target : String} {next : Chain}
      (effect : table.effect view chain position rule = .ask target next)
      (visited : target ∈ path) :
      Course table view path chain position (rule :: rest)
        (.done (.error (.jumpCycle (path ++ [target]))))
  /-- The rule jumps while as many jumps as allowed are open. -/
  | tooDeep {path : List String} {chain : Chain} {position : Nat} {rule : Rule}
      {rest : List Rule} {target : String} {next : Chain}
      (effect : table.effect view chain position rule = .ask target next)
      (fresh : target ∉ path) (deep : table.options.maxJumpDepth < path.length) :
      Course table view path chain position (rule :: rest)
        (.done (.error (.jumpDepthExceeded target table.options.maxJumpDepth)))
  /-- The chain that is asked decides, or cannot be followed. -/
  | adopted {path : List String} {chain : Chain} {position : Nat} {rule : Rule}
      {rest : List Rule} {target : String} {next : Chain} {inner : Walked}
      (effect : table.effect view chain position rule = .ask target next)
      (fresh : target ∉ path) (shallow : path.length ≤ table.options.maxJumpDepth)
      (asked : Course table view (path ++ [target]) next 1 next.rules inner)
      (decides : inner.outcome ≠ .ok none) :
      Course table view path chain position (rule :: rest) inner
  /-- The chain that is asked does not decide. -/
  | returned {path : List String} {chain : Chain} {position : Nat} {rule : Rule}
      {rest : List Rule} {target : String} {next : Chain} {inner walked : Walked}
      (effect : table.effect view chain position rule = .ask target next)
      (fresh : target ∉ path) (shallow : path.length ≤ table.options.maxJumpDepth)
      (asked : Course table view (path ++ [target]) next 1 next.rules inner)
      (undecided : inner.outcome = .ok none)
      (later : Course table view path chain (position + 1) rest walked) :
      Course table view path chain position (rule :: rest)
        (walked.after (inner.notices ++ [.returned chain.name target]))

section Inversion

variable {table : Table} {view : PacketView} {path : List String} {chain next : Chain}
  {position : Nat} {rule : Rule} {rest : List Rule} {walked : Walked} {target : String}

/-- A course goes on past a rule that does not decide. -/
theorem Course.of_goOn {notices : List Notice}
    (course : table.Course view path chain position (rule :: rest) walked)
    (effect : table.effect view chain position rule = .goOn notices) :
    ∃ later, table.Course view path chain (position + 1) rest later ∧
      walked = later.after notices := by
  cases course with
  | passed same later =>
    cases effect.symm.trans same
    exact ⟨_, later, rfl⟩
  | stopped same | cyclic same | tooDeep same | adopted same | returned same =>
    cases effect.symm.trans same

/-- A course ends at a rule that stops the walk. -/
theorem Course.of_stop {outcome : Except TableError (Option Verdict)}
    (course : table.Course view path chain position (rule :: rest) walked)
    (effect : table.effect view chain position rule = .stop outcome) : walked = .done outcome := by
  cases course with
  | stopped same =>
    cases effect.symm.trans same
    rfl
  | passed same | cyclic same | tooDeep same | adopted same | returned same =>
    cases effect.symm.trans same

/-- A course ends at a rule that asks a chain which is being asked already. -/
theorem Course.of_visited (course : table.Course view path chain position (rule :: rest) walked)
    (effect : table.effect view chain position rule = .ask target next)
    (visited : target ∈ path) : walked = .done (.error (.jumpCycle (path ++ [target]))) := by
  cases course with
  | passed same | stopped same => cases effect.symm.trans same
  | cyclic same =>
    cases effect.symm.trans same
    rfl
  | tooDeep same fresh | adopted same fresh | returned same fresh =>
    cases effect.symm.trans same
    exact absurd visited fresh

/-- A course ends at a rule that asks a chain while as many jumps as allowed are open. -/
theorem Course.of_deep (course : table.Course view path chain position (rule :: rest) walked)
    (effect : table.effect view chain position rule = .ask target next) (fresh : target ∉ path)
    (deep : table.options.maxJumpDepth < path.length) :
    walked = .done (.error (.jumpDepthExceeded target table.options.maxJumpDepth)) := by
  cases course with
  | passed same | stopped same => cases effect.symm.trans same
  | cyclic same visited =>
    cases effect.symm.trans same
    exact absurd visited fresh
  | tooDeep same =>
    cases effect.symm.trans same
    rfl
  | adopted same _ shallow | returned same _ shallow => exact absurd shallow (Nat.not_le.2 deep)

/-- A course at a rule that asks a chain, if nothing forbids that, holds one of that chain, and goes
on exactly if that one comes to no verdict. -/
theorem Course.of_ask (course : table.Course view path chain position (rule :: rest) walked)
    (effect : table.effect view chain position rule = .ask target next) (fresh : target ∉ path)
    (shallow : path.length ≤ table.options.maxJumpDepth) :
    ∃ inner, table.Course view (path ++ [target]) next 1 next.rules inner ∧
      (inner.outcome ≠ .ok none ∧ walked = inner ∨
        inner.outcome = .ok none ∧
          ∃ later, table.Course view path chain (position + 1) rest later ∧
            walked = later.after (inner.notices ++ [.returned chain.name target])) := by
  cases course with
  | passed same | stopped same => cases effect.symm.trans same
  | cyclic same visited =>
    cases effect.symm.trans same
    exact absurd visited fresh
  | tooDeep same _ deep => exact absurd shallow (Nat.not_le.2 deep)
  | adopted same _ _ asked decides =>
    cases effect.symm.trans same
    exact ⟨_, asked, .inl ⟨decides, rfl⟩⟩
  | returned same _ _ asked undecided later =>
    cases effect.symm.trans same
    exact ⟨_, asked, .inr ⟨undecided, _, later, rfl⟩⟩

end Inversion

/-- A walk has one course only. -/
theorem Course.unique {table : Table} {view : PacketView} {path : List String} {chain : Chain}
    {position : Nat} {rules : List Rule} {walked other : Walked}
    (left : table.Course view path chain position rules walked)
    (right : table.Course view path chain position rules other) : walked = other := by
  induction left generalizing other with
  | ended =>
    cases right
    rfl
  | passed effect _ ih =>
    obtain ⟨later, course, rfl⟩ := right.of_goOn effect
    rw [ih course]
  | stopped effect => exact (right.of_stop effect).symm
  | cyclic effect visited => exact (right.of_visited effect visited).symm
  | tooDeep effect fresh deep => exact (right.of_deep effect fresh deep).symm
  | adopted effect fresh shallow _ decides ih =>
    obtain ⟨inner, asked, ⟨-, rfl⟩ | ⟨undecided, -⟩⟩ := right.of_ask effect fresh shallow
    · exact ih asked
    · rw [← ih asked] at undecided
      exact absurd undecided decides
  | returned effect fresh shallow _ undecided _ innerIh laterIh =>
    obtain ⟨inner, asked, ⟨decides, -⟩ | ⟨-, later, course, rfl⟩⟩ :=
      right.of_ask effect fresh shallow
    · rw [← innerIh asked] at decides
      exact absurd undecided decides
    · rw [innerIh asked, laterIh course]

variable (table : Table) (view : PacketView)

/-- Trying rules is a course, if asking any chain off the path is one. -/
theorem scan_course (path : List String) (chain : Chain)
    (ask : (target : String) → (next : Chain) → table.chains.find? target = some next →
      target ∉ path → Walked)
    (asked : ∀ target next found fresh,
      table.Course view (path ++ [target]) next 1 next.rules (ask target next found fresh))
    (position : Nat) (rules : List Rule) :
    table.Course view path chain position rules
      (table.scan view path chain ask position rules) := by
  induction rules generalizing position with
  | nil => exact .ended
  | cons rule rest ih =>
    unfold scan
    split
    · next matched =>
      split
      · next action => exact .stopped (by simp [effect, matched, action])
      · next action => exact .stopped (by simp [effect, matched, action])
      · next action => exact .stopped (by simp [effect, matched, action])
      · next action => exact .passed (by simp [effect, matched, action]) (ih (position + 1))
      · next target action =>
        split
        · next absent => exact .stopped (by simp [effect, matched, action, absent])
        · next callee found =>
          have effect : table.effect view chain position rule = .ask target callee := by
            simp [effect, matched, action, found]
          split
          · next visited => exact .cyclic effect visited
          · next fresh =>
            split
            · next deep => exact .tooDeep effect fresh deep
            · next shallow =>
              have shallow := Nat.le_of_not_lt shallow
              dsimp only
              split
              · next undecided =>
                exact .returned effect fresh shallow (asked target callee found fresh) undecided
                  (ih (position + 1))
              · next decides =>
                exact .adopted effect fresh shallow (asked target callee found fresh) decides
      · next action => exact .passed (by simp [effect, matched, action]) (ih (position + 1))
    · next unmatched =>
      have effect : table.effect view chain position rule = .goOn [] := by
        simp [effect, unmatched]
      exact .passed effect (ih (position + 1))

/-- Every walk through a chain has a course. -/
theorem walk_course (path : List String) (chain : Chain) :
    table.Course view path chain 1 chain.rules (table.walk view path chain) := by
  induction path, chain using walk.induct table with
  | case1 path chain ih =>
    rw [walk]
    exact table.scan_course view path chain _ ih 1 chain.rules

variable {table view} in
/-- A walk comes to what a course of it comes to. -/
theorem Course.walk_eq {path : List String} {chain : Chain} {walked : Walked}
    (course : table.Course view path chain 1 chain.rules walked) :
    table.walk view path chain = walked :=
  (table.walk_course view path chain).unique course

/-- The walk through a chain that is there starts with its name as the path. -/
theorem traverse_of_find? {start : String} {chain : Chain}
    (found : table.chains.find? start = some chain) :
    table.traverse start view = table.walk view [start] chain := by
  simp [traverse, found]

/-- An evaluation fails exactly as its walk does. -/
theorem evaluate_eq_error_iff (start : String) (error : TableError) :
    (table.evaluate start view).2 = .error error ↔
      (table.traverse start view).outcome = .error error := by
  simp only [evaluate]
  cases (table.traverse start view).outcome with
  | error other => simp
  | ok decided => simp

/-- An evaluation succeeds exactly when its walk does, with the verdict that the walk comes to,
or else the implicit one, and with the log records of the walk. -/
theorem evaluate_eq_ok_iff (start : String) (evaluation : Evaluation) :
    (table.evaluate start view).2 = .ok evaluation ↔
      ∃ decided, (table.traverse start view).outcome = .ok decided ∧
        ⟨decided.getD table.options.implicitPolicy, (table.traverse start view).logs⟩ =
          evaluation := by
  simp only [evaluate]
  cases (table.traverse start view).outcome with
  | error other => simp
  | ok decided => simp [verdictOf]

end Table

end PacketFilter
