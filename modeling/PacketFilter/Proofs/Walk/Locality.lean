import PacketFilter.Proofs.Editing
import PacketFilter.Proofs.Walk.Agreement

/-!
# Evaluation is local

An evaluation looks at the chains that its start reaches over jumps of rules that match the packet,
and at no others. Tables that agree on these names, be it that both have the same chain or that
neither has one, decide the packet alike, so nothing that is done to other chains changes the
decision (`evaluate_local`). The region of `AgreesOn` is what the start reaches.
-/
namespace PacketFilter

/-- The chain that an operation adds, or that its command names. -/
def Operation.chain? : Operation → Option String
  | addChain chain => some chain.name
  | apply command => command.chain?
  | loadText _ | loadSource _ | evaluate _ _ | process _ _ => none

namespace Table

/-- A start reaches a name over jumps of rules that match the packet, or is that name. -/
def Reaches (table : Table) (view : PacketView) (start name : String) : Prop :=
  Relation.ReflTransGen (table.JumpsTo view) start name

variable {table other : Table} {view : PacketView} {start name : String}

/-- Tables that agree on what a start reaches agree on a region, the chains of these names. -/
theorem agreesOn_reached (tracker : other.tracker = table.tracker)
    (same : ∀ name, table.Reaches view start name →
      other.chains.find? name = table.chains.find? name) :
    table.AgreesOn other view fun chain =>
      table.chains.find? chain.name = some chain ∧ table.Reaches view start chain.name := by
  constructor
  · rintro chain ⟨found, reached⟩ rule within position
    refine effect_congr (by rw [tracker]) fun target matched action => same target ?_
    exact reached.tail ⟨chain, found, rule, within, matched, action⟩
  · rintro chain ⟨found, reached⟩ rule within position target next effect
    obtain ⟨matched, action, there⟩ := effect_eq_ask_iff.1 effect
    have further : table.Reaches view start target :=
      reached.tail ⟨chain, found, rule, within, matched, action⟩
    have named := ChainSet.name_of_find? there
    rw [named]
    exact ⟨there, further⟩

/-- An operation for one chain leaves all others as they were, and the flows and settings too. -/
theorem perform_of_chain? (table : Table) {operation : Operation}
    (names : operation.chain? = some name) :
    SameBesideChains table (table.perform operation).1 ∧ ∀ other, other ≠ name →
      (table.perform operation).1.chains.find? other = table.chains.find? other := by
  cases operation with
  | addChain chain =>
    obtain rfl := Option.some.inj names
    cases found : table.chains.find? chain.name with
    | some taken =>
      simp only [perform, Table.addChain, found]
      exact ⟨.refl table, fun _ _ => trivial⟩
    | none =>
      simp only [perform, Table.addChain, found]
      refine ⟨⟨rfl, rfl⟩, fun other differs => ?_⟩
      rw [ChainSet.find?_insert, if_neg (Ne.symm differs)]
  | apply command =>
    obtain ⟨after, answer, outcome⟩ := table.exists_commandOutcome command
    rw [outcome.perform_eq]
    exact ⟨outcome.sameBesideChains, fun other => outcome.find?_of_ne names⟩
  | loadText | loadSource | evaluate | process => cases names

/-- Operations for chains outside a set of names leave the chains in it as they were, and the flows
and settings too. -/
theorem run_of_outside (table : Table) {operations : List Operation} {names : String → Prop}
    (outside : ∀ operation ∈ operations, ∃ name, operation.chain? = some name ∧ ¬ names name) :
    SameBesideChains table (table.run operations) ∧ ∀ name, names name →
      (table.run operations).chains.find? name = table.chains.find? name := by
  induction operations generalizing table with
  | nil => exact ⟨.refl table, fun _ _ => rfl⟩
  | cons operation rest ih =>
    obtain ⟨⟨edited, isEdited, notIn⟩, others⟩ := List.forall_mem_cons.1 outside
    obtain ⟨beside, first⟩ := table.perform_of_chain? isEdited
    obtain ⟨besideToo, later⟩ := ih (table.perform operation).1 others
    refine ⟨beside.trans besideToo, fun name within => (later name within).trans (first name ?_)⟩
    rintro rfl
    exact notIn within

/-- Evaluation is local. Two tables with the same flows and settings that agree on every name which
a start reaches evaluate the packet alike from that start, and establish the same flows by that. In
particular no operations that add or edit chains of other names change what an evaluation comes
to. -/
theorem evaluate_local (table : Table) (view : PacketView) (start : String) :
    (∀ other : Table, other.tracker = table.tracker → other.options = table.options →
      (∀ name, table.Reaches view start name →
        other.chains.find? name = table.chains.find? name) →
      (other.evaluate start view).2 = (table.evaluate start view).2 ∧
        (other.evaluate start view).1.tracker = (table.evaluate start view).1.tracker) ∧
    ∀ operations : List Operation,
      (∀ operation ∈ operations, ∃ name, operation.chain? = some name ∧
        ¬ table.Reaches view start name) →
      ((table.run operations).evaluate start view).2 = (table.evaluate start view).2 ∧
        ((table.run operations).evaluate start view).1.tracker =
          (table.evaluate start view).1.tracker := by
  have agreeing : ∀ other : Table, other.tracker = table.tracker →
      other.options = table.options →
      (∀ name, table.Reaches view start name →
        other.chains.find? name = table.chains.find? name) →
      (other.evaluate start view).2 = (table.evaluate start view).2 ∧
        (other.evaluate start view).1.tracker = (table.evaluate start view).1.tracker := by
    intro other tracker options same
    have walks : other.traverse start view = table.traverse start view := by
      refine traverse_eq_of_agreesOn (agreesOn_reached tracker same) (same start .refl) ?_
        (.inl (by rw [options]))
      intro chain found
      have named := ChainSet.name_of_find? found
      rw [named]
      exact ⟨found, .refl⟩
    have result := evaluate_snd_of_traverse walks (by rw [options])
    exact ⟨result, tracker_evaluate_congr tracker (by rw [result])⟩
  refine ⟨agreeing, fun operations outside => ?_⟩
  obtain ⟨beside, same⟩ := table.run_of_outside outside
  exact agreeing _ beside.tracker beside.options same

/-- A chain that asks a second one about datagrams and a third one, which drops, about the rest. -/
def forkedTable : Table where
  chains := ((ChainSet.empty.insert
      ⟨"INPUT", none, [{ always "WEB" with protocol := .udp }, always "API"]⟩).insert
      ⟨"WEB", some .accept, [always "INPUT"]⟩).insert ⟨"API", some .drop, []⟩
  tracker := .empty none
  options := .standard

/-- The same table without the second chain. -/
def prunedTable : Table where
  chains := (ChainSet.empty.insert
      ⟨"INPUT", none, [{ always "WEB" with protocol := .udp }, always "API"]⟩).insert
      ⟨"API", some .drop, []⟩
  tracker := .empty none
  options := .standard

/-- Of the three chains, a packet without layers reaches the first and the third. -/
theorem forkedTable_reaches {name : String}
    (reached : forkedTable.Reaches ⟨[], none, none⟩ "INPUT" name) :
    name = "INPUT" ∨ name = "API" := by
  have input : forkedTable.chains.find? "INPUT" =
      some ⟨"INPUT", none, [{ always "WEB" with protocol := .udp }, always "API"]⟩ := by
    decide +kernel
  have api : forkedTable.chains.find? "API" = some ⟨"API", some .drop, []⟩ := by decide +kernel
  induction reached with
  | refl => exact .inl rfl
  | tail _ jumps ih =>
    obtain ⟨chain, found, rule, within, matched, action⟩ := jumps
    rcases ih with rfl | rfl
    · obtain rfl := Option.some.inj (input.symm.trans found)
      simp only [List.mem_cons, List.not_mem_nil, or_false] at within
      rcases within with rfl | rfl
      · exact absurd matched (by decide +kernel)
      · exact .inr (by simpa [always, eq_comm] using action)
    · obtain rfl := Option.some.inj (api.symm.trans found)
      exact absurd within List.not_mem_nil

/-- Such a packet is dropped also if the second chain is emptied and made to ask a chain that is not
there, if a fourth one is added, and if the second chain is missing altogether. -/
theorem evaluate_forkedTable :
    ((forkedTable.run [.apply (.flush (some "WEB")), .apply (.append "WEB" (always "DMZ")),
        .addChain ⟨"LAN", some .accept, []⟩]).evaluate "INPUT" ⟨[], none, none⟩).2 =
      .ok ⟨.drop, []⟩ ∧
    (prunedTable.evaluate "INPUT" ⟨[], none, none⟩).2 = .ok ⟨.drop, []⟩ := by
  have dropped : (forkedTable.evaluate "INPUT" ⟨[], none, none⟩).2 = .ok ⟨.drop, []⟩ := by
    decide +kernel
  have web : ¬ forkedTable.Reaches ⟨[], none, none⟩ "INPUT" "WEB" := fun reached =>
    absurd (forkedTable_reaches reached) (by decide)
  have lan : ¬ forkedTable.Reaches ⟨[], none, none⟩ "INPUT" "LAN" := fun reached =>
    absurd (forkedTable_reaches reached) (by decide)
  obtain ⟨agreeing, elsewhere⟩ := evaluate_local forkedTable ⟨[], none, none⟩ "INPUT"
  constructor
  · refine (elsewhere _ ?_).1.trans dropped
    simpa [Operation.chain?, Command.chain?] using ⟨web, lan⟩
  · refine (agreeing prunedTable rfl rfl fun name reached => ?_).1.trans dropped
    rcases forkedTable_reaches reached with rfl | rfl <;> decide +kernel

end Table

end PacketFilter
