import Mathlib.Logic.Relation
import PacketFilter.Proofs.Walk.MatchedPath

/-!
# The calls of a walk

A walk asks the chains that its rules jump to, and each of these is walked through in its turn.
`calls` lists what one walk asks; `walkWith_eq_walk` says that it asks nothing else. No chain of
calls goes on for ever, because each one leaves fewer chains off the path, and along all of them
the path stays a list of distinct chains of the table that starts with the first chain. A table
whose limit has room for all its chains is therefore never too deep.
-/
namespace PacketFilter

/-- A chain that is walked through, with the path on which it is asked. -/
structure Call where
  /-- The chains that are being asked, this one last. -/
  path : List String
  /-- The chain. -/
  chain : Chain
  deriving DecidableEq

namespace Table

variable (table : Table) (view : PacketView)

/-- What a walk asks while it tries rules from a position on, in order. -/
def calls (path : List String) (chain : Chain) (position : Nat) : List Rule → List Call
  | [] => []
  | rule :: rest =>
    match table.effect view chain position rule with
    | .goOn _ => calls path chain (position + 1) rest
    | .stop _ => []
    | .ask target next =>
      if target ∈ path ∨ table.options.maxJumpDepth < path.length then []
      else
        ⟨path ++ [target], next⟩ ::
          match (table.walk view (path ++ [target]) next).outcome with
          | .ok none => calls path chain (position + 1) rest
          | _ => []

/-- One walk makes another while it goes on. -/
def Calls (outer inner : Call) : Prop :=
  inner ∈ table.calls view outer.path outer.chain 1 outer.chain.rules

/-- The walk through a chain, with given answers to what it asks. -/
def walkWith (answer : Call → Walked) (call : Call) : Walked :=
  table.scan view call.path call.chain
    (fun target next _ _ => answer ⟨call.path ++ [target], next⟩) 1 call.chain.rules

variable {table view}

/-- Trying rules depends on the answers to the calls it makes only. -/
theorem scan_eq_of_calls {answer : Call → Walked} {path : List String} {chain : Chain}
    (position : Nat) (rules : List Rule)
    (agree : ∀ call ∈ table.calls view path chain position rules,
      answer call = table.walk view call.path call.chain) :
    table.scan view path chain (fun target next _ _ => answer ⟨path ++ [target], next⟩)
        position rules =
      table.scan view path chain (fun target next _ _ => table.walk view (path ++ [target]) next)
        position rules := by
  induction rules generalizing position with
  | nil => rfl
  | cons rule rest ih =>
    have later := ih (position + 1)
    unfold scan
    split
    · next matched =>
      split
      · rfl
      · rfl
      · rfl
      · next label action =>
        rw [later fun call within => agree call (by simpa [calls, effect, matched, action])]
      · next target action =>
        split
        · rfl
        · next callee found =>
          split
          · rfl
          · next fresh =>
            split
            · rfl
            · next shallow =>
              have listed : table.calls view path chain position (rule :: rest) =
                  ⟨path ++ [target], callee⟩ ::
                    match (table.walk view (path ++ [target]) callee).outcome with
                    | .ok none => table.calls view path chain (position + 1) rest
                    | _ => [] := by
                simp [calls, effect, matched, action, found, fresh, shallow]
              rw [listed] at agree
              have asked := agree _ List.mem_cons_self
              dsimp only at asked ⊢
              rw [asked]
              split
              · next undecided =>
                rw [later fun call within => agree call (by simp [undecided, within])]
              · rfl
      · next action =>
        rw [later fun call within => agree call (by simpa [calls, effect, matched, action])]
    · next unmatched =>
      rw [later fun call within => agree call (by simpa [calls, effect, unmatched])]

/-- A walk asks nothing but what its calls are. -/
theorem walkWith_eq_walk {answer : Call → Walked} {call : Call}
    (agree : ∀ inner, table.Calls view call inner →
      answer inner = table.walk view inner.path inner.chain) :
    table.walkWith view answer call = table.walk view call.path call.chain := by
  rw [walk]
  exact scan_eq_of_calls 1 call.chain.rules agree

/-- What is asked is a chain that is not on the path yet, while fewer jumps than allowed are open,
and a rule that matches jumps to it. -/
theorem of_mem_calls {path : List String} {chain : Chain} {position : Nat} {rules : List Rule}
    {call : Call} (within : call ∈ table.calls view path chain position rules) :
    ∃ target, call.path = path ++ [target] ∧ table.chains.find? target = some call.chain ∧
      target ∉ path ∧ path.length ≤ table.options.maxJumpDepth ∧
      ∃ rule ∈ rules, rule.isMatch view table.tracker = true ∧
        rule.action = some (.jump target) := by
  induction rules generalizing position with
  | nil => simp [calls] at within
  | cons rule rest ih =>
    rw [calls] at within
    split at within
    · obtain ⟨target, longer, found, fresh, shallow, jump, inRest, jumps⟩ := ih within
      exact ⟨target, longer, found, fresh, shallow, jump, List.mem_cons_of_mem _ inRest, jumps⟩
    · simp at within
    · next target next asks =>
      obtain ⟨matched, action, found⟩ := effect_eq_ask_iff.1 asks
      split at within
      · simp at within
      · next guards =>
        rw [not_or, Nat.not_lt] at guards
        rcases List.mem_cons.1 within with rfl | after
        · exact ⟨target, rfl, found, guards.1, guards.2, rule, List.mem_cons_self, matched,
            action⟩
        · split at after
          · obtain ⟨target, longer, found, fresh, shallow, jump, inRest, jumps⟩ := ih after
            exact ⟨target, longer, found, fresh, shallow, jump, List.mem_cons_of_mem _ inRest,
              jumps⟩
          · simp at after

/-- A call leaves fewer chains off the path. -/
theorem Calls.unvisited_lt {outer inner : Call} (calls : table.Calls view outer inner) :
    table.unvisited inner.path < table.unvisited outer.path := by
  obtain ⟨target, longer, found, fresh, -⟩ := of_mem_calls calls
  rw [longer]
  exact table.unvisited_lt found fresh

/-- Calls do not nest for ever. -/
theorem wellFounded_calls (table : Table) (view : PacketView) :
    WellFounded fun inner outer => table.Calls view outer inner :=
  Subrelation.wf Calls.unvisited_lt (measure fun call : Call => table.unvisited call.path).wf

/-- A call keeps what is known of the chains that are being asked. -/
theorem Calls.asking {start : String} {outer inner : Call}
    (calls : table.Calls view outer inner)
    (asking : table.Asking view start outer.path outer.chain) :
    table.Asking view start inner.path inner.chain := by
  obtain ⟨target, longer, found, fresh, shallow, rule, within, matched, action⟩ :=
    of_mem_calls calls
  rw [longer]
  exact asking.enter (asking.jumpsTo within matched action) found fresh shallow

/-- All chains that are asked on the way from the start are on a matched path. -/
theorem asking_of_reached {start : String} {chain : Chain} {call : Call}
    (found : table.chains.find? start = some chain)
    (reached : Relation.ReflTransGen (table.Calls view) ⟨[start], chain⟩ call) :
    table.Asking view start call.path call.chain := by
  induction reached with
  | refl => exact asking_start found
  | tail _ calls ih => exact calls.asking ih

/-- Every evaluation ends: its walks make the calls that are listed and no others, calls do not
nest for ever, and whenever a chain is asked, the path is a list of distinct chains of the table
from the start on, no longer than the table has chains and than the limit allows. If the limit has
room for all chains, no evaluation is too deep. -/
theorem evaluate_terminates (table : Table) (view : PacketView) (start : String) :
    (∀ answer call, (∀ inner, table.Calls view call inner →
      answer inner = table.walk view inner.path inner.chain) →
        table.walkWith view answer call = table.walk view call.path call.chain) ∧
    (WellFounded fun inner outer => table.Calls view outer inner) ∧
    (∀ chain call, table.chains.find? start = some chain →
      Relation.ReflTransGen (table.Calls view) ⟨[start], chain⟩ call →
        call.path.head? = some start ∧ call.path.Nodup ∧
          (∀ name ∈ call.path, (table.chains.find? name).isSome) ∧
          call.path.length ≤ min table.chains.size (table.options.maxJumpDepth + 1)) ∧
    (table.chains.size ≤ table.options.maxJumpDepth + 1 → ∀ target limit,
      (table.evaluate start view).2 ≠ .error (.jumpDepthExceeded target limit)) := by
  refine ⟨fun answer call => walkWith_eq_walk, table.wellFounded_calls view, ?_, ?_⟩
  · intro chain call found reached
    have asking := asking_of_reached found reached
    exact ⟨asking.matched.head, asking.matched.distinct, asking.matched.present,
      le_min asking.matched.length_le asking.room⟩
  · intro room target limit failed
    have witness := traverse_errorWitness ((table.evaluate_eq_error_iff view start _).1 failed)
    have exceeded := witness.limit_lt_size
    omega

/-- Three chains, two of which jump to each other, with a limit that has just room for them. -/
def narrowTable : Table := { loopingTable with options.maxJumpDepth := 2 }

/-- All three chains are asked on one path, which is as long as a path can get, and still no
evaluation is too deep. -/
theorem narrowTable_calls :
    narrowTable.chains.find? "INPUT" = some ⟨"INPUT", none, [always "WEB"]⟩ ∧
      Relation.ReflTransGen (narrowTable.Calls ⟨[], none, none⟩)
        ⟨["INPUT"], ⟨"INPUT", none, [always "WEB"]⟩⟩
        ⟨["INPUT", "WEB", "API"], ⟨"API", some .accept, [always "WEB"]⟩⟩ ∧
      ["INPUT", "WEB", "API"].length ≤
        min narrowTable.chains.size (narrowTable.options.maxJumpDepth + 1) ∧
      narrowTable.chains.size ≤ narrowTable.options.maxJumpDepth + 1 ∧
      ∀ target limit, (narrowTable.evaluate "INPUT" ⟨[], none, none⟩).2 ≠
        .error (.jumpDepthExceeded target limit) := by
  have found : narrowTable.chains.find? "INPUT" = some ⟨"INPUT", none, [always "WEB"]⟩ := by
    decide +kernel
  have first : narrowTable.Calls ⟨[], none, none⟩
      ⟨["INPUT"], ⟨"INPUT", none, [always "WEB"]⟩⟩
      ⟨["INPUT", "WEB"], ⟨"WEB", none, [always "API"]⟩⟩ := by
    unfold Calls
    decide +kernel
  have second : narrowTable.Calls ⟨[], none, none⟩
      ⟨["INPUT", "WEB"], ⟨"WEB", none, [always "API"]⟩⟩
      ⟨["INPUT", "WEB", "API"], ⟨"API", some .accept, [always "WEB"]⟩⟩ := by
    unfold Calls
    decide +kernel
  have room : narrowTable.chains.size ≤ narrowTable.options.maxJumpDepth + 1 := by
    decide +kernel
  have reached := (Relation.ReflTransGen.single first).tail second
  have ends := evaluate_terminates narrowTable ⟨[], none, none⟩ "INPUT"
  exact ⟨found, reached, (ends.2.2.1 _ _ found reached).2.2.2, room, ends.2.2.2 room⟩

end Table

end PacketFilter
