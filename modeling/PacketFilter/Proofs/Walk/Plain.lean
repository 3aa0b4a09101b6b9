import PacketFilter.Proofs.Walk.MatchedPath

/-!
# The plain walk

The plain walk asks every chain that a matching rule jumps to, whatever is being asked already, so
it need not end. It is given by its finite derivations, each with the outcome, the log records in
order, and the number of jumps that are open at once in it. The guarded walk comes to what a
derivation says as long as that number is within the limit, and it reports a cycle only where there
is no derivation at all: a derivation of a chain that is being asked would hold a smaller one of the
same chain, and derivations are unique.
-/
namespace PacketFilter.Table

/-- A finite derivation of the plain walk through the rules of a chain from a position on, with its
outcome and its log records. The number is the greatest number of jumps into chains of the table
that are open at once. -/
inductive PlainWalk (table : Table) (view : PacketView) :
    Nat → Chain → Nat → List Rule → Except TableError (Option Verdict) → List LogRecord → Prop where
  /-- No rule is left, so the policy counts, if there is one. -/
  | ended {chain : Chain} {position : Nat} :
      PlainWalk table view 0 chain position [] (.ok chain.policy) []
  /-- The rule does not match. -/
  | skipped {depth : Nat} {chain : Chain} {position : Nat} {rule : Rule} {rest : List Rule}
      {outcome : Except TableError (Option Verdict)} {logs : List LogRecord}
      (unmatched : rule.isMatch view table.tracker = false)
      (later : PlainWalk table view depth chain (position + 1) rest outcome logs) :
      PlainWalk table view depth chain position (rule :: rest) outcome logs
  /-- The rule has no action. -/
  | ignored {depth : Nat} {chain : Chain} {position : Nat} {rule : Rule} {rest : List Rule}
      {outcome : Except TableError (Option Verdict)} {logs : List LogRecord}
      (matched : rule.isMatch view table.tracker = true) (acts : rule.action = none)
      (later : PlainWalk table view depth chain (position + 1) rest outcome logs) :
      PlainWalk table view depth chain position (rule :: rest) outcome logs
  /-- The rule notes the packet. -/
  | logged {depth : Nat} {chain : Chain} {position : Nat} {rule : Rule} {rest : List Rule}
      {outcome : Except TableError (Option Verdict)} {logs : List LogRecord} {label : String}
      (matched : rule.isMatch view table.tracker = true) (acts : rule.action = some (.log label))
      (later : PlainWalk table view depth chain (position + 1) rest outcome logs) :
      PlainWalk table view depth chain position (rule :: rest) outcome
        (⟨chain.name, position, label⟩ :: logs)
  /-- The rule accepts. -/
  | accepted {chain : Chain} {position : Nat} {rule : Rule} {rest : List Rule}
      (matched : rule.isMatch view table.tracker = true) (acts : rule.action = some .accept) :
      PlainWalk table view 0 chain position (rule :: rest) (.ok (some .accept)) []
  /-- The rule drops or rejects. -/
  | dropped {chain : Chain} {position : Nat} {rule : Rule} {rest : List Rule}
      (matched : rule.isMatch view table.tracker = true)
      (acts : rule.action = some .drop ∨ rule.action = some .reject) :
      PlainWalk table view 0 chain position (rule :: rest) (.ok (some .drop)) []
  /-- The rule jumps to a chain that is not there. -/
  | unknown {chain : Chain} {position : Nat} {rule : Rule} {rest : List Rule} {target : String}
      (matched : rule.isMatch view table.tracker = true)
      (acts : rule.action = some (.jump target)) (absent : table.chains.find? target = none) :
      PlainWalk table view 0 chain position (rule :: rest)
        (.error (.unknownJumpTarget chain.name target)) []
  /-- The chain that the rule jumps to decides, or cannot be followed. -/
  | adopted {depth : Nat} {chain next : Chain} {position : Nat} {rule : Rule} {rest : List Rule}
      {target : String} {outcome : Except TableError (Option Verdict)} {logs : List LogRecord}
      (matched : rule.isMatch view table.tracker = true)
      (acts : rule.action = some (.jump target)) (found : table.chains.find? target = some next)
      (asked : PlainWalk table view depth next 1 next.rules outcome logs)
      (decides : outcome ≠ .ok none) :
      PlainWalk table view (depth + 1) chain position (rule :: rest) outcome logs
  /-- The chain that the rule jumps to does not decide. -/
  | returned {innerDepth depth : Nat} {chain next : Chain} {position : Nat} {rule : Rule}
      {rest : List Rule} {target : String} {outcome : Except TableError (Option Verdict)}
      {inner logs : List LogRecord} (matched : rule.isMatch view table.tracker = true)
      (acts : rule.action = some (.jump target)) (found : table.chains.find? target = some next)
      (asked : PlainWalk table view innerDepth next 1 next.rules (.ok none) inner)
      (later : PlainWalk table view depth chain (position + 1) rest outcome logs) :
      PlainWalk table view (max (innerDepth + 1) depth) chain position (rule :: rest) outcome
        (inner ++ logs)

variable {table : Table} {view : PacketView}

section Effects

variable {depth : Nat} {chain : Chain} {position : Nat} {rule : Rule} {rest : List Rule}
  {outcome : Except TableError (Option Verdict)} {logs : List LogRecord}

/-- A derivation goes on past a rule that does not decide, after the log record of the rule, if it
has one. -/
theorem PlainWalk.goOn {notices : List Notice}
    (effect : table.effect view chain position rule = .goOn notices)
    (later : table.PlainWalk view depth chain (position + 1) rest outcome logs) :
    table.PlainWalk view depth chain position (rule :: rest) outcome
      (notices.filterMap Notice.record? ++ logs) := by
  rcases effect_eq_goOn_iff.1 effect with
    ⟨unmatched, rfl⟩ | ⟨matched, ⟨label, acts, rfl⟩ | ⟨acts, rfl⟩⟩
  · exact .skipped unmatched later
  · exact .logged matched acts later
  · exact .ignored matched acts later

/-- A derivation ends at a rule that decides, or jumps to a chain that is not there. -/
theorem PlainWalk.stop (effect : table.effect view chain position rule = .stop outcome) :
    table.PlainWalk view 0 chain position (rule :: rest) outcome [] := by
  cases outcome with
  | error error =>
    obtain ⟨target, matched, acts, absent, rfl⟩ := effect_eq_stop_error_iff.1 effect
    exact .unknown matched acts absent
  | ok decided =>
    obtain ⟨matched, action, verdict, acts, final, rfl⟩ := effect_eq_stop_ok_iff.1 effect
    cases action with
    | accept =>
      cases final
      exact .accepted matched acts
    | drop =>
      cases final
      exact .dropped matched (.inl acts)
    | reject =>
      cases final
      exact .dropped matched (.inr acts)
    | log | jump => cases final

/-- A derivation at a rule that does not decide goes on with the next rule. -/
theorem PlainWalk.of_goOn {notices : List Notice}
    (plain : table.PlainWalk view depth chain position (rule :: rest) outcome logs)
    (effect : table.effect view chain position rule = .goOn notices) :
    ∃ later, table.PlainWalk view depth chain (position + 1) rest outcome later ∧
      logs = notices.filterMap Notice.record? ++ later := by
  cases plain with
  | skipped unmatched later =>
    obtain rfl : [] = notices := by simpa [Table.effect, unmatched] using effect
    exact ⟨_, later, rfl⟩
  | ignored matched acts later =>
    obtain rfl : [.noAction chain.name position] = notices := by
      simpa [Table.effect, matched, acts] using effect
    exact ⟨_, later, rfl⟩
  | @logged _ _ _ _ _ _ _ label matched acts later =>
    obtain rfl : [.logged ⟨chain.name, position, label⟩] = notices := by
      simpa [Table.effect, matched, acts] using effect
    exact ⟨_, later, rfl⟩
  | accepted matched acts => simp [Table.effect, matched, acts] at effect
  | dropped matched acts =>
    rcases acts with acts | acts
    all_goals simp [Table.effect, matched, acts] at effect
  | unknown matched acts absent => simp [Table.effect, matched, acts, absent] at effect
  | adopted matched acts found | returned matched acts found =>
    simp [Table.effect, matched, acts, found] at effect

/-- A derivation at a rule that stops the walk ends there. -/
theorem PlainWalk.of_stop {decided : Except TableError (Option Verdict)}
    (plain : table.PlainWalk view depth chain position (rule :: rest) outcome logs)
    (effect : table.effect view chain position rule = .stop decided) :
    depth = 0 ∧ outcome = decided ∧ logs = [] := by
  cases plain with
  | skipped unmatched => simp [Table.effect, unmatched] at effect
  | ignored matched acts | logged matched acts => simp [Table.effect, matched, acts] at effect
  | accepted matched acts =>
    simp only [Table.effect, matched, acts, if_true, Effect.stop.injEq] at effect
    exact ⟨rfl, effect, rfl⟩
  | dropped matched acts =>
    rcases acts with acts | acts
    · simp only [Table.effect, matched, acts, if_true, Effect.stop.injEq] at effect
      exact ⟨rfl, effect, rfl⟩
    · simp only [Table.effect, matched, acts, if_true, Effect.stop.injEq] at effect
      exact ⟨rfl, effect, rfl⟩
  | unknown matched acts absent =>
    simp only [Table.effect, matched, acts, absent, if_true, Effect.stop.injEq] at effect
    exact ⟨rfl, effect, rfl⟩
  | adopted matched acts found | returned matched acts found =>
    simp [Table.effect, matched, acts, found] at effect

/-- A derivation at a rule that asks a chain holds a less deep one of that chain, and goes on with
the next rule exactly if that one comes to no verdict. -/
theorem PlainWalk.of_ask {target : String} {next : Chain}
    (plain : table.PlainWalk view depth chain position (rule :: rest) outcome logs)
    (effect : table.effect view chain position rule = .ask target next) :
    ∃ innerDepth inner noted, table.PlainWalk view innerDepth next 1 next.rules inner noted ∧
      (inner ≠ .ok none ∧ depth = innerDepth + 1 ∧ outcome = inner ∧ logs = noted ∨
        inner = .ok none ∧
          ∃ laterDepth later,
            table.PlainWalk view laterDepth chain (position + 1) rest outcome later ∧
              depth = max (innerDepth + 1) laterDepth ∧ logs = noted ++ later) := by
  obtain ⟨isMatch, jumps, there⟩ := effect_eq_ask_iff.1 effect
  cases plain with
  | skipped unmatched => cases unmatched.symm.trans isMatch
  | ignored _ acts | logged _ acts | accepted _ acts => cases acts.symm.trans jumps
  | dropped _ acts => rcases acts with acts | acts <;> cases acts.symm.trans jumps
  | unknown _ acts absent =>
    cases acts.symm.trans jumps
    cases absent.symm.trans there
  | adopted _ acts found asked decides =>
    cases acts.symm.trans jumps
    cases found.symm.trans there
    exact ⟨_, _, _, asked, .inl ⟨decides, rfl, rfl, rfl⟩⟩
  | returned _ acts found asked later =>
    cases acts.symm.trans jumps
    cases found.symm.trans there
    exact ⟨_, _, _, asked, .inr ⟨rfl, _, _, later, rfl, rfl⟩⟩

end Effects

/-- The plain walk is deterministic, and so is the depth of its derivations. -/
theorem PlainWalk.unique {depth otherDepth : Nat} {chain : Chain} {position : Nat}
    {rules : List Rule} {outcome other : Except TableError (Option Verdict)}
    {logs otherLogs : List LogRecord}
    (left : table.PlainWalk view depth chain position rules outcome logs)
    (right : table.PlainWalk view otherDepth chain position rules other otherLogs) :
    depth = otherDepth ∧ outcome = other ∧ logs = otherLogs := by
  induction left generalizing otherDepth other otherLogs with
  | ended =>
    cases right
    exact ⟨rfl, rfl, rfl⟩
  | skipped unmatched _ ih =>
    obtain ⟨later, plain, rfl⟩ := right.of_goOn (effect_eq_goOn_iff.2 (.inl ⟨unmatched, rfl⟩))
    exact ih plain
  | ignored matched acts _ ih =>
    obtain ⟨later, plain, rfl⟩ :=
      right.of_goOn (effect_eq_goOn_iff.2 (.inr ⟨matched, .inr ⟨acts, rfl⟩⟩))
    exact ih plain
  | logged matched acts _ ih =>
    obtain ⟨later, plain, rfl⟩ :=
      right.of_goOn (effect_eq_goOn_iff.2 (.inr ⟨matched, .inl ⟨_, acts, rfl⟩⟩))
    obtain ⟨rfl, rfl, rfl⟩ := ih plain
    exact ⟨rfl, rfl, rfl⟩
  | accepted matched acts =>
    obtain ⟨rfl, rfl, rfl⟩ :=
      right.of_stop (effect_eq_stop_ok_iff.2 ⟨matched, _, _, acts, rfl, rfl⟩)
    exact ⟨rfl, rfl, rfl⟩
  | dropped matched acts =>
    rcases acts with acts | acts
    all_goals
      obtain ⟨rfl, rfl, rfl⟩ :=
        right.of_stop (effect_eq_stop_ok_iff.2 ⟨matched, _, _, acts, rfl, rfl⟩)
      exact ⟨rfl, rfl, rfl⟩
  | unknown matched acts absent =>
    obtain ⟨rfl, rfl, rfl⟩ :=
      right.of_stop (effect_eq_stop_error_iff.2 ⟨_, matched, acts, absent, rfl⟩)
    exact ⟨rfl, rfl, rfl⟩
  | adopted matched acts found _ decides ih =>
    obtain ⟨_, _, _, asked, ⟨-, rfl, rfl, rfl⟩ | ⟨undecided, -⟩⟩ :=
      right.of_ask (effect_eq_ask_iff.2 ⟨matched, acts, found⟩)
    · obtain ⟨rfl, rfl, rfl⟩ := ih asked
      exact ⟨rfl, rfl, rfl⟩
    · obtain ⟨-, rfl, -⟩ := ih asked
      exact absurd undecided decides
  | returned matched acts found _ _ innerIh laterIh =>
    obtain ⟨_, _, _, asked, ⟨decides, -⟩ | ⟨-, _, _, plain, rfl, rfl⟩⟩ :=
      right.of_ask (effect_eq_ask_iff.2 ⟨matched, acts, found⟩)
    · obtain ⟨-, rfl, -⟩ := innerIh asked
      exact absurd rfl decides
    · obtain ⟨rfl, -, rfl⟩ := innerIh asked
      obtain ⟨rfl, rfl, rfl⟩ := laterIh plain
      exact ⟨rfl, rfl, rfl⟩

/-- What a guarded walk comes to is derived by the plain walk within the room that the path leaves
below the limit, unless a guard stopped it. -/
theorem Course.plain_or_guarded {path : List String} {chain : Chain} {position : Nat}
    {rules : List Rule} {walked : Walked}
    (course : table.Course view path chain position rules walked)
    (room : path.length ≤ table.options.maxJumpDepth + 1) :
    (∃ depth, path.length + depth ≤ table.options.maxJumpDepth + 1 ∧
      table.PlainWalk view depth chain position rules walked.outcome walked.logs) ∨
    (∃ cycle, walked.outcome = .error (.jumpCycle cycle)) ∨
    ∃ target,
      walked.outcome = .error (.jumpDepthExceeded target table.options.maxJumpDepth) := by
  induction course with
  | ended => exact .inl ⟨0, room, .ended⟩
  | passed effect _ ih =>
    rcases ih room with ⟨depth, within, later⟩ | guarded
    · refine .inl ⟨depth, within, ?_⟩
      rw [Walked.logs_after]
      exact .goOn effect later
    · exact .inr guarded
  | stopped effect => exact .inl ⟨0, room, .stop effect⟩
  | cyclic => exact .inr (.inl ⟨_, rfl⟩)
  | tooDeep => exact .inr (.inr ⟨_, rfl⟩)
  | adopted effect fresh shallow _ decides ih =>
    obtain ⟨matched, acts, found⟩ := effect_eq_ask_iff.1 effect
    rcases ih (by simpa using shallow) with ⟨depth, within, asked⟩ | guarded
    · rw [List.length_append, List.length_singleton] at within
      exact .inl ⟨depth + 1, by omega, .adopted matched acts found asked decides⟩
    · exact .inr guarded
  | returned effect fresh shallow _ undecided _ innerIh laterIh =>
    obtain ⟨matched, acts, found⟩ := effect_eq_ask_iff.1 effect
    rcases laterIh room with ⟨depth, within, later⟩ | guarded
    · have asked := innerIh (by simpa using shallow)
      rw [undecided] at asked
      rcases asked with ⟨inner, deeper, asked⟩ | ⟨_, failed⟩ | ⟨_, failed⟩
      · rw [List.length_append, List.length_singleton] at deeper
        refine .inl ⟨max (inner + 1) depth, by omega, ?_⟩
        rw [Walked.logs_after_returned]
        exact .returned matched acts found asked later
      · cases failed
      · cases failed
    · exact .inr guarded

/-- A guarded walk that returned without a verdict is derived by the plain walk. -/
theorem Course.plain_of_undecided {path : List String} {chain : Chain} {position : Nat}
    {rules : List Rule} {walked : Walked}
    (course : table.Course view path chain position rules walked)
    (room : path.length ≤ table.options.maxJumpDepth + 1)
    (undecided : walked.outcome = .ok none) :
    ∃ depth, table.PlainWalk view depth chain position rules (.ok none) walked.logs := by
  have derived := course.plain_or_guarded room
  rw [undecided] at derived
  rcases derived with ⟨depth, -, plain⟩ | ⟨_, failed⟩ | ⟨_, failed⟩
  · exact ⟨depth, plain⟩
  · cases failed
  · cases failed

section Guards

variable {path : List String} {depth : Nat} {chain next : Chain} {position : Nat} {rule : Rule}
  {rules rest : List Rule} {outcome : Except TableError (Option Verdict)} {logs : List LogRecord}
  {target : String}

/-- Past a chain that returned without a verdict, the plain walk goes on as the guarded one does. -/
theorem PlainWalk.later_of_returned {inner : Walked}
    (plain : table.PlainWalk view depth chain position (rule :: rest) outcome logs)
    (effect : table.effect view chain position rule = .ask target next)
    (asked : table.Course view (path ++ [target]) next 1 next.rules inner)
    (undecided : inner.outcome = .ok none)
    (shallow : path.length ≤ table.options.maxJumpDepth) :
    ∃ laterDepth later, table.PlainWalk view laterDepth chain (position + 1) rest outcome later ∧
      laterDepth ≤ depth := by
  obtain ⟨_, derivation⟩ := asked.plain_of_undecided (by simpa using shallow) undecided
  obtain ⟨_, _, _, same, ⟨decides, -⟩ | ⟨-, laterDepth, later, goesOn, rfl, -⟩⟩ :=
    plain.of_ask effect
  · obtain ⟨-, rfl, -⟩ := derivation.unique same
    exact absurd rfl decides
  · exact ⟨laterDepth, later, goesOn, Nat.le_max_right _ _⟩

/-- A derivation at a rule that asks a chain holds a less deep one of that chain. -/
theorem PlainWalk.exists_lt_of_ask
    (plain : table.PlainWalk view depth chain position (rule :: rest) outcome logs)
    (effect : table.effect view chain position rule = .ask target next) :
    ∃ innerDepth inner noted, table.PlainWalk view innerDepth next 1 next.rules inner noted ∧
      innerDepth < depth := by
  obtain ⟨innerDepth, inner, noted, asked, ⟨-, rfl, -⟩ | ⟨-, _, _, -, rfl, -⟩⟩ :=
    plain.of_ask effect
  · exact ⟨innerDepth, inner, noted, asked, Nat.lt_succ_self _⟩
  · exact ⟨innerDepth, inner, noted, asked, by omega⟩

/-- The only error that a rule stops a walk with is a jump to a missing chain. -/
theorem unknownJumpTarget_of_stop {error : TableError}
    (effect : table.effect view chain position rule = .stop (.error error)) :
    ∃ target, error = .unknownJumpTarget chain.name target := by
  obtain ⟨target, -, -, -, same⟩ := effect_eq_stop_error_iff.1 effect
  exact ⟨target, same⟩

/-- Where a guarded walk reports a cycle, no derivation is at most as deep as every derivation of
a chain on the path: the chain that closes the cycle would have a less deep one. -/
theorem Course.not_plain_of_jumpCycle {walked : Walked} {cycle : List String}
    (course : table.Course view path chain position rules walked)
    (failed : walked.outcome = .error (.jumpCycle cycle))
    (least : ∀ name ∈ path, ∀ asking outer derived noted,
      table.chains.find? name = some asking →
        table.PlainWalk view outer asking 1 asking.rules derived noted → depth ≤ outer) :
    ¬ table.PlainWalk view depth chain position rules outcome logs := by
  intro plain
  induction course generalizing depth outcome logs with
  | ended => simp at failed
  | passed effect _ ih =>
    obtain ⟨later, plain, -⟩ := plain.of_goOn effect
    exact ih failed least plain
  | stopped effect =>
    rw [Walked.outcome_done] at failed
    rw [failed] at effect
    obtain ⟨_, wrong⟩ := unknownJumpTarget_of_stop effect
    cases wrong
  | cyclic effect visited =>
    obtain ⟨-, -, found⟩ := effect_eq_ask_iff.1 effect
    obtain ⟨innerDepth, inner, noted, asked, less⟩ := plain.exists_lt_of_ask effect
    have notLess := least _ visited _ _ _ _ found asked
    omega
  | tooDeep => simp at failed
  | @adopted path _ _ _ _ target next _ effect _ _ _ _ ih =>
    obtain ⟨-, -, found⟩ := effect_eq_ask_iff.1 effect
    obtain ⟨innerDepth, inner, noted, asked, less⟩ := plain.exists_lt_of_ask effect
    refine ih failed (fun name within asking outer derived records present derivation => ?_) asked
    rcases List.mem_append.1 within with before | single
    · have := least name before asking outer derived records present derivation
      omega
    · -- The chain that was put on the path last has one derivation only.
      obtain rfl := List.mem_singleton.1 single
      obtain rfl := Option.some.inj (found.symm.trans present)
      exact (asked.unique derivation).1.le
  | returned effect _ shallow asked undecided _ _ ih =>
    obtain ⟨laterDepth, later, plain, notDeeper⟩ :=
      plain.later_of_returned effect asked undecided shallow
    refine ih failed (fun name within asking outer derived records present derivation => ?_) plain
    exact notDeeper.trans (least name within asking outer derived records present derivation)

/-- Where a guarded walk reports that it is too deep, every derivation exceeds the room that the
path leaves below the limit. -/
theorem Course.lt_of_jumpDepthExceeded {walked : Walked} {refused : String} {limit : Nat}
    (course : table.Course view path chain position rules walked)
    (failed : walked.outcome = .error (.jumpDepthExceeded refused limit))
    (plain : table.PlainWalk view depth chain position rules outcome logs) :
    table.options.maxJumpDepth + 1 < path.length + depth := by
  induction course generalizing depth outcome logs with
  | ended => simp at failed
  | passed effect _ ih =>
    obtain ⟨later, plain, -⟩ := plain.of_goOn effect
    exact ih failed plain
  | stopped effect =>
    rw [Walked.outcome_done] at failed
    rw [failed] at effect
    obtain ⟨_, wrong⟩ := unknownJumpTarget_of_stop effect
    cases wrong
  | cyclic => simp at failed
  | tooDeep effect _ deep =>
    obtain ⟨_, _, _, _, less⟩ := plain.exists_lt_of_ask effect
    omega
  | adopted effect _ _ _ _ ih =>
    obtain ⟨_, _, _, asked, less⟩ := plain.exists_lt_of_ask effect
    have exceeded := ih failed asked
    rw [List.length_append, List.length_singleton] at exceeded
    omega
  | returned effect _ shallow asked undecided _ _ ih =>
    obtain ⟨_, _, plain, notDeeper⟩ := plain.later_of_returned effect asked undecided shallow
    have exceeded := ih failed plain
    omega

end Guards

/-- A derivation of the plain walk through all rules of a chain. -/
def Derives (table : Table) (view : PacketView) (chain : Chain) (depth : Nat)
    (outcome : Except TableError (Option Verdict)) (logs : List LogRecord) : Prop :=
  table.PlainWalk view depth chain 1 chain.rules outcome logs

variable {start : String} {chain : Chain}

/-- A chain that has a derivation leads into no cycle. -/
theorem Derives.outcome_ne_jumpCycle {depth : Nat} {outcome : Except TableError (Option Verdict)}
    {logs : List LogRecord} (derives : table.Derives view chain depth outcome logs)
    (found : table.chains.find? start = some chain) (cycle : List String) :
    (table.walk view [start] chain).outcome ≠ .error (.jumpCycle cycle) := by
  intro failed
  refine (table.walk_course view [start] chain).not_plain_of_jumpCycle failed ?_ derives
  intro name within asking outer derived records present derivation
  obtain rfl := List.mem_singleton.1 within
  obtain rfl := Option.some.inj (found.symm.trans present)
  exact (PlainWalk.unique derives derivation).1.le

/-- The guarded walk through a chain is what a derivation within the limit says, and conversely
whatever it comes to has such a derivation, unless a guard stopped it. -/
theorem exists_derives_iff (found : table.chains.find? start = some chain)
    (outcome : Except TableError (Option Verdict)) (logs : List LogRecord) :
    (∃ depth ≤ table.options.maxJumpDepth, table.Derives view chain depth outcome logs) ↔
      ((table.walk view [start] chain).outcome = outcome ∧
          (table.walk view [start] chain).logs = logs) ∧
        (∀ cycle, outcome ≠ .error (.jumpCycle cycle)) ∧
        ∀ target, outcome ≠ .error (.jumpDepthExceeded target table.options.maxJumpDepth) := by
  have course := table.walk_course view [start] chain
  have outcomes := course.plain_or_guarded (by simp)
  rw [List.length_singleton] at outcomes
  constructor
  · rintro ⟨depth, within, derives⟩
    have noCycle := derives.outcome_ne_jumpCycle found
    have notTooDeep : ∀ target, (table.walk view [start] chain).outcome ≠
        .error (.jumpDepthExceeded target table.options.maxJumpDepth) := by
      intro target failed
      have exceeded := course.lt_of_jumpDepthExceeded failed derives
      rw [List.length_singleton] at exceeded
      omega
    rcases outcomes with ⟨_, _, plain⟩ | ⟨cycle, failed⟩ | ⟨target, failed⟩
    · obtain ⟨-, rfl, rfl⟩ := PlainWalk.unique derives plain
      exact ⟨⟨rfl, rfl⟩, noCycle, notTooDeep⟩
    · exact absurd failed (noCycle cycle)
    · exact absurd failed (notTooDeep target)
  · rintro ⟨⟨rfl, rfl⟩, noCycle, notTooDeep⟩
    rcases outcomes with ⟨depth, within, plain⟩ | ⟨cycle, failed⟩ | ⟨target, failed⟩
    · exact ⟨depth, by omega, plain⟩
    · exact absurd failed (noCycle cycle)
    · exact absurd failed (notTooDeep target)

/-- A chain without a derivation within the limit is stopped by a guard. -/
theorem guarded_of_not_exists_derives (found : table.chains.find? start = some chain)
    (underivable : ¬ ∃ depth ≤ table.options.maxJumpDepth, ∃ outcome logs,
      table.Derives view chain depth outcome logs) :
    (∃ cycle, (table.evaluate start view).2 = .error (.jumpCycle cycle)) ∨
      ∃ target, (table.evaluate start view).2 =
        .error (.jumpDepthExceeded target table.options.maxJumpDepth) := by
  simp only [evaluate_eq_error_iff, table.traverse_of_find? view found]
  rcases (table.walk_course view [start] chain).plain_or_guarded (by simp) with
    ⟨depth, within, plain⟩ | guarded
  · rw [List.length_singleton] at within
    exact absurd ⟨depth, by omega, _, _, plain⟩ underivable
  · exact guarded

/-- Evaluation is the plain walk within the limit. It comes to a verdict with log records, or to a
jump to a missing chain, exactly as a derivation within the limit does. It reports a cycle only
where there is no derivation, and that it is too deep wherever the derivation exceeds the limit.
Where there is no derivation, it reports a cycle if the limit has room for all chains. -/
theorem evaluate_iff_derives (table : Table) (view : PacketView) (start : String) (chain : Chain)
    (found : table.chains.find? start = some chain) :
    (∀ verdict logs, (table.evaluate start view).2 = .ok ⟨verdict, logs⟩ ↔
      ∃ depth ≤ table.options.maxJumpDepth, ∃ decided,
        table.Derives view chain depth (.ok decided) logs ∧
          decided.getD table.options.implicitPolicy = verdict) ∧
    (∀ source target,
      (table.evaluate start view).2 = .error (.unknownJumpTarget source target) ↔
        ∃ depth ≤ table.options.maxJumpDepth, ∃ logs,
          table.Derives view chain depth (.error (.unknownJumpTarget source target)) logs) ∧
    (∀ cycle, (table.evaluate start view).2 = .error (.jumpCycle cycle) →
      ¬ ∃ depth outcome logs, table.Derives view chain depth outcome logs) ∧
    (∀ depth outcome logs, table.Derives view chain depth outcome logs →
      table.options.maxJumpDepth < depth →
        ∃ target, (table.evaluate start view).2 =
          .error (.jumpDepthExceeded target table.options.maxJumpDepth)) ∧
    ((¬ ∃ depth outcome logs, table.Derives view chain depth outcome logs) →
      (∃ cycle, (table.evaluate start view).2 = .error (.jumpCycle cycle)) ∨
        table.options.maxJumpDepth + 1 < table.chains.size ∧
          ∃ target, (table.evaluate start view).2 =
            .error (.jumpDepthExceeded target table.options.maxJumpDepth)) := by
  have noCycle : ∀ cycle, (table.evaluate start view).2 = .error (.jumpCycle cycle) →
      ¬ ∃ depth outcome logs, table.Derives view chain depth outcome logs := by
    rintro cycle failed ⟨depth, outcome, logs, derives⟩
    rw [evaluate_eq_error_iff, table.traverse_of_find? view found] at failed
    exact derives.outcome_ne_jumpCycle found cycle failed
  refine ⟨fun verdict logs => ?_, fun source target => ?_, noCycle, ?_, ?_⟩
  · rw [evaluate_eq_ok_iff, table.traverse_of_find? view found]
    constructor
    · rintro ⟨decided, succeeded, same⟩
      obtain ⟨rfl, rfl⟩ := Evaluation.mk.inj same
      obtain ⟨depth, within, derives⟩ :=
        (exists_derives_iff found _ _).2 ⟨⟨succeeded, rfl⟩, nofun, nofun⟩
      exact ⟨depth, within, decided, derives, rfl⟩
    · rintro ⟨depth, within, decided, derives, rfl⟩
      obtain ⟨⟨succeeded, rfl⟩, -⟩ := (exists_derives_iff found _ _).1 ⟨depth, within, derives⟩
      exact ⟨decided, succeeded, rfl⟩
  · rw [evaluate_eq_error_iff, table.traverse_of_find? view found]
    constructor
    · intro failed
      obtain ⟨depth, within, derives⟩ :=
        (exists_derives_iff found _ _).2 ⟨⟨failed, rfl⟩, nofun, nofun⟩
      exact ⟨depth, within, _, derives⟩
    · rintro ⟨depth, within, logs, derives⟩
      obtain ⟨⟨failed, -⟩, -⟩ := (exists_derives_iff found _ _).1 ⟨depth, within, derives⟩
      exact failed
  · intro depth outcome logs derives exceeds
    have underivable : ¬ ∃ depth ≤ table.options.maxJumpDepth, ∃ outcome logs,
        table.Derives view chain depth outcome logs := by
      rintro ⟨shallow, within, _, _, shallower⟩
      obtain ⟨rfl, -⟩ := PlainWalk.unique derives shallower
      omega
    rcases guarded_of_not_exists_derives found underivable with ⟨cycle, failed⟩ | tooDeep
    · exact absurd ⟨depth, outcome, logs, derives⟩ (noCycle cycle failed)
    · exact tooDeep
  · intro underivable
    have beyondLimit : ¬ ∃ depth ≤ table.options.maxJumpDepth, ∃ outcome logs,
        table.Derives view chain depth outcome logs :=
      fun ⟨depth, _, derivable⟩ => underivable ⟨depth, derivable⟩
    rcases guarded_of_not_exists_derives found beyondLimit with cyclic | ⟨target, failed⟩
    · exact .inl cyclic
    · have witness := traverse_errorWitness ((table.evaluate_eq_error_iff view start _).1 failed)
      exact .inr ⟨witness.limit_lt_size, target, failed⟩

/-- A chain that asks another one and then notes. -/
def relayChain : Chain := ⟨"INPUT", some .drop, [always "WEB", noting "in"]⟩

/-- A table in which the other chain notes and does not decide. -/
def relayTable : Table where
  chains := (ChainSet.empty.insert relayChain).insert ⟨"WEB", none, [.wildcard, noting "web"]⟩
  tracker := .empty none
  options := .standard

/-- Where one chain asks the other, an evaluation comes to what the derivation says, with the log
records of both; two chains that jump to each other have no derivation, nor has a chain that leads
there. -/
theorem derives_relayTable_not_loopingTable :
    (relayTable.chains.find? "INPUT" = some relayChain ∧
      (relayTable.evaluate "INPUT" ⟨[], none, none⟩).2 =
        .ok ⟨.drop, [⟨"WEB", 2, "web"⟩, ⟨"INPUT", 2, "in"⟩]⟩) ∧
    loopingTable.chains.find? "INPUT" = some ⟨"INPUT", none, [always "WEB"]⟩ ∧
      ¬ ∃ depth outcome logs, loopingTable.Derives ⟨[], none, none⟩
        ⟨"INPUT", none, [always "WEB"]⟩ depth outcome logs := by
  constructor
  · have found : relayTable.chains.find? "INPUT" = some relayChain := by decide +kernel
    have web : relayTable.chains.find? "WEB" =
        some ⟨"WEB", none, [.wildcard, noting "web"]⟩ := by decide +kernel
    have asked : relayTable.PlainWalk ⟨[], none, none⟩ 0 ⟨"WEB", none, [.wildcard, noting "web"]⟩ 1
        [.wildcard, noting "web"] (.ok none) [⟨"WEB", 2, "web"⟩] :=
      .ignored rfl rfl (.logged rfl rfl .ended)
    have later : relayTable.PlainWalk ⟨[], none, none⟩ 0 relayChain 2 [noting "in"]
        (.ok (some .drop)) [⟨"INPUT", 2, "in"⟩] := .logged rfl rfl .ended
    have derives : relayTable.Derives ⟨[], none, none⟩ relayChain 1 (.ok (some .drop))
        [⟨"WEB", 2, "web"⟩, ⟨"INPUT", 2, "in"⟩] := .returned rfl rfl web asked later
    exact ⟨found, ((evaluate_iff_derives _ _ _ _ found).1 _ _).2 ⟨1, by decide, _, derives, rfl⟩⟩
  · have found : loopingTable.chains.find? "INPUT" = some ⟨"INPUT", none, [always "WEB"]⟩ := by
      decide +kernel
    have failed : (loopingTable.evaluate "INPUT" ⟨[], none, none⟩).2 =
        .error (.jumpCycle ["INPUT", "WEB", "API", "WEB"]) := by decide +kernel
    exact ⟨found, (evaluate_iff_derives _ _ _ _ found).2.2.1 _ failed⟩

end PacketFilter.Table
