import PacketFilter.Proofs.Walk.Expansion

/-!
# Evaluation by the first match

Jumps between chains form a graph over their names, whatever packet is decided. Where the part of
it behind a start has all its chains, no circle, and no path with more jumps than allowed, the
start has a flat list, no guard stops an evaluation from there, and what the evaluation comes to is
what the first final entry of the flat list says.
-/
namespace PacketFilter.Table

/-- One chain has a rule that jumps to the other name. -/
def LeadsTo (table : Table) (source target : String) : Prop :=
  ∃ chain, table.chains.find? source = some chain ∧
    ∃ rule ∈ chain.rules, rule.action = some (.jump target)

/-- Names from a start on, each of which leads to the next. -/
structure JumpPath (table : Table) (start : String) (path : List String) : Prop where
  /-- The first name is the start. -/
  head : path.head? = some start
  /-- Each name leads to the next. -/
  linked : path.IsChain table.LeadsTo

/-- The jumps behind a start can be written out. -/
structure Expandable (table : Table) (start : String) : Prop where
  /-- They lead to chains of the table. -/
  complete : ∀ source target, Relation.ReflTransGen table.LeadsTo start source →
    table.LeadsTo source target → (table.chains.find? target).isSome
  /-- They do not lead in a circle. -/
  acyclic : ∀ name, Relation.ReflTransGen table.LeadsTo start name →
    ¬ Relation.TransGen table.LeadsTo name name
  /-- No more of them follow one another than may be open at once. -/
  bounded : ∀ path, table.JumpPath start path → path.length ≤ table.options.maxJumpDepth + 1

variable {table : Table} {view : PacketView} {start : String}

/-- A rule that matches leads to the name it jumps to. -/
theorem JumpsTo.leadsTo {source target : String} (jumps : table.JumpsTo view source target) :
    table.LeadsTo source target := by
  obtain ⟨chain, found, rule, within, -, action⟩ := jumps
  exact ⟨chain, found, rule, within, action⟩

/-- The chains of a matched path lead to one another. -/
theorem MatchedPath.jumpPath {path : List String} (matched : table.MatchedPath view start path) :
    table.JumpPath start path :=
  ⟨matched.head, matched.linked.imp fun _ _ => JumpsTo.leadsTo⟩

/-- A jump path goes on with any name that its last one leads to. -/
theorem JumpPath.concat {path : List String} {last target : String}
    (along : table.JumpPath start path) (ending : path.getLast? = some last)
    (leads : table.LeadsTo last target) : table.JumpPath start (path ++ [target]) :=
  ⟨by simp [along.head], isChain_concat along.linked ending leads⟩

/-- The start reaches every name on a jump path. -/
theorem JumpPath.reaches {path : List String} (along : table.JumpPath start path) :
    ∀ name ∈ path, Relation.ReflTransGen table.LeadsTo start name := by
  refine along.linked.induction _ _ (fun _ _ leads reached => reached.tail leads) fun nonempty => ?_
  obtain rfl : path.head nonempty = start := by
    simpa [List.head?_eq_some_head nonempty] using along.head
  exact .refl

/-- Every name on a jump path leads, over one or more jumps, to the name that the path goes on
with. -/
theorem JumpPath.leads {path : List String} {target : String}
    (along : table.JumpPath start (path ++ [target])) :
    ∀ name ∈ path, Relation.TransGen table.LeadsTo name target := by
  have linked : (path ++ [target]).IsChain (Relation.TransGen table.LeadsTo) :=
    along.linked.imp fun _ _ => .single
  rw [List.isChain_iff_pairwise, List.pairwise_append] at linked
  exact fun name within => linked.2.2 name within target (List.mem_singleton_self target)

/-- No evaluation from a start whose jumps can be written out fails. -/
theorem Expandable.not_errorWitness (expandable : table.Expandable start)
    (there : (table.chains.find? start).isSome) (error : TableError) :
    ¬ table.ErrorWitness view start error := by
  intro witness
  cases error with
  | unknownChain name =>
    obtain ⟨-, absent⟩ := witness
    simp [absent] at there
  | chainExists name => exact witness
  | unknownJumpTarget source target =>
    obtain ⟨absent, path, matched, ending, -, jumps⟩ := witness
    have reached := matched.jumpPath.reaches source (List.mem_of_getLast? ending)
    have present := expandable.complete source target reached jumps.leadsTo
    simp [absent] at present
  | jumpCycle cycle =>
    obtain ⟨path, last, target, rfl, matched, ending, -, jumps, visited⟩ := witness
    have around := (matched.jumpPath.concat ending jumps.leadsTo).leads target visited
    exact expandable.acyclic target (matched.jumpPath.reaches target visited) around
  | jumpDepthExceeded target limit =>
    obtain ⟨rfl, -, path, last, matched, ending, length, jumps, -⟩ := witness
    have bounded := expandable.bounded _ (matched.jumpPath.concat ending jumps.leadsTo)
    rw [List.length_append, length, List.length_singleton] at bounded
    omega

/-- Rules have a flat list if each chain that they jump to has one. -/
theorem exists_expands_of_targets {guard : List Rule} {chain : Chain} {position : Nat}
    {rules : List Rule}
    (asked : ∀ rule ∈ rules, ∀ target, rule.action = some (.jump target) →
      ∃ next, table.chains.find? target = some next ∧
        ∃ inner, table.Expands (guard ++ [rule]) next 1 next.rules inner) :
    ∃ entries, table.Expands guard chain position rules entries := by
  induction rules generalizing position with
  | nil => exact ⟨[], .nil⟩
  | cons rule rest ih =>
    obtain ⟨first, others⟩ := List.forall_mem_cons.1 asked
    obtain ⟨entries, later⟩ : ∃ entries, table.Expands guard chain (position + 1) rest entries :=
      ih others
    match acts : rule.action with
    | none => exact ⟨_, .unset acts later⟩
    | some .accept | some .drop | some .reject => exact ⟨_, .decided acts rfl later⟩
    | some (.log label) => exact ⟨_, .logged acts later⟩
    | some (.jump target) =>
      obtain ⟨next, found, inner, expands⟩ := first target acts
      exact ⟨_, .jumped acts found expands later⟩

/-- Every chain at the end of a jump path has a flat list behind any guard. -/
theorem Expandable.exists_expands (expandable : table.Expandable start) {path : List String}
    {chain : Chain} (along : table.JumpPath start path) (ending : path.getLast? = some chain.name)
    (found : table.chains.find? chain.name = some chain) (guard : List Rule) :
    ∃ entries, table.Expands guard chain 1 chain.rules entries := by
  refine exists_expands_of_targets fun rule within target action => ?_
  have leads : table.LeadsTo chain.name target := ⟨chain, found, rule, within, action⟩
  have reached := along.reaches chain.name (List.mem_of_getLast? ending)
  obtain ⟨next, there⟩ := Option.isSome_iff_exists.1 (expandable.complete _ _ reached leads)
  have named := ChainSet.name_of_find? there
  -- The jump makes the path longer, and paths are bounded.
  have longer := along.concat ending leads
  have bounded := expandable.bounded _ longer
  exact ⟨next, there, expandable.exists_expands longer (by simp [named]) (by rw [named, there])
    (guard ++ [rule])⟩
termination_by table.options.maxJumpDepth + 1 - path.length
decreasing_by
  rw [List.length_append, List.length_singleton] at bounded ⊢
  omega

/-- Where the jumps behind a start can be written out, its chain has exactly one flat list, and
an evaluation comes to the verdict of the first final entry that holds, or else to the policy of
the chain, or else to the implicit one. The log records are those of the entries that hold before
it. -/
theorem evaluate_eq_firstVerdict (table : Table) (view : PacketView) (start : String)
    (chain : Chain) (found : table.chains.find? start = some chain)
    (expandable : table.Expandable start) :
    ∃ entries, table.Expands [] chain 1 chain.rules entries ∧
      (∀ other, table.Expands [] chain 1 chain.rules other → other = entries) ∧
      (table.evaluate start view).2 =
        .ok ⟨((FlatEntry.firstVerdict (table.holding view entries)).or chain.policy).getD
            table.options.implicitPolicy,
          FlatEntry.recordsBefore (table.holding view entries)⟩ := by
  have named := ChainSet.name_of_find? found
  have along : table.JumpPath start [start] := ⟨rfl, .singleton start⟩
  obtain ⟨entries, expands⟩ : ∃ entries, table.Expands [] chain 1 chain.rules entries :=
    expandable.exists_expands along (by simp [named]) (by rw [named, found]) []
  refine ⟨entries, expands, fun other same => same.unique expands, ?_⟩
  cases outcome : (table.walk view [start] chain).outcome with
  | error error =>
    rw [← table.traverse_of_find? view found] at outcome
    exact absurd (traverse_errorWitness outcome)
      (expandable.not_errorWitness (by simp [found]) error)
  | ok decided =>
    obtain ⟨depth, -, derives⟩ :=
      (exists_derives_iff found _ _).2 ⟨⟨outcome, rfl⟩, nofun, nofun⟩
    obtain ⟨verdict, logs⟩ := PlainWalk.firstVerdict derives expands rfl rfl
    rw [evaluate_eq_ok_iff, table.traverse_of_find? view found]
    exact ⟨decided, outcome, by rw [verdict, logs]⟩

/-- A chain that leads into a chain that only logs and then into one that drops by its policy. -/
def layeredTable : Table where
  chains := ((ChainSet.empty.insert ⟨"INPUT", none, [always "WEB", always "API"]⟩).insert
    ⟨"WEB", none, [{ Rule.wildcard with action := some (.log "web") }]⟩).insert
    ⟨"API", some .drop, []⟩
  tracker := .empty none
  options := .standard

/-- Its first chain leads to the two others, and nothing else leads anywhere. -/
theorem layeredTable_leadsTo {source target : String} (leads : layeredTable.LeadsTo source target) :
    source = "INPUT" ∧ (target = "WEB" ∨ target = "API") := by
  obtain ⟨chain, found, rule, within, action⟩ := leads
  have chains : layeredTable.chains.toList = [⟨"API", some .drop, []⟩,
      ⟨"INPUT", none, [always "WEB", always "API"]⟩,
      ⟨"WEB", none, [{ Rule.wildcard with action := some (.log "web") }]⟩] := by decide +kernel
  have member := ChainSet.mem_of_find? found
  rw [chains] at member
  have named := ChainSet.name_of_find? found
  simp only [List.mem_cons, List.not_mem_nil, or_false] at member
  rcases member with rfl | rfl | rfl
  · simp at within
  · refine ⟨named.symm, ?_⟩
    simp only [List.mem_cons, List.not_mem_nil, or_false] at within
    rcases within with rfl | rfl
    · exact .inl (by simpa [always, eq_comm] using action)
    · exact .inr (by simpa [always, eq_comm] using action)
  · obtain rfl := List.mem_singleton.1 within
    simp at action

/-- Its jumps can be written out. -/
theorem layeredTable_expandable : layeredTable.Expandable "INPUT" := by
  refine ⟨fun source target _ leads => ?_, fun name _ around => ?_, fun path along => ?_⟩
  · rcases layeredTable_leadsTo leads with ⟨-, rfl | rfl⟩
    · decide +kernel
    · decide +kernel
  · obtain ⟨_, first, -⟩ := Relation.TransGen.head'_iff.1 around
    obtain ⟨_, -, final⟩ := Relation.TransGen.tail'_iff.1 around
    obtain ⟨rfl, -⟩ := layeredTable_leadsTo first
    have := (layeredTable_leadsTo final).2
    simp at this
  · match path, along.linked with
    | [], _ | [_], _ | [_, _], _ => simp [layeredTable, TableOptions.standard]
    | _ :: _ :: _ :: _, .cons_cons first (.cons_cons second _) =>
      obtain ⟨-, middle⟩ := layeredTable_leadsTo first
      obtain ⟨rfl, -⟩ := layeredTable_leadsTo second
      simp at middle

/-- Its flat list notes and then drops, and so does an evaluation. -/
theorem layeredTable_firstVerdict :
    layeredTable.chains.find? "INPUT" =
        some ⟨"INPUT", none, [always "WEB", always "API"]⟩ ∧
      layeredTable.Expandable "INPUT" ∧
      layeredTable.Expands [] ⟨"INPUT", none, [always "WEB", always "API"]⟩ 1
        [always "WEB", always "API"]
        [⟨[always "WEB", { Rule.wildcard with action := some (.log "web") }],
            .note ⟨"WEB", 1, "web"⟩⟩,
          ⟨[always "API"], .decide .drop⟩] ∧
      (layeredTable.evaluate "INPUT" ⟨[], none, none⟩).2 = .ok ⟨.drop, [⟨"WEB", 1, "web"⟩]⟩ := by
  have found : layeredTable.chains.find? "INPUT" =
      some ⟨"INPUT", none, [always "WEB", always "API"]⟩ := by decide +kernel
  have web : layeredTable.chains.find? "WEB" =
      some ⟨"WEB", none, [{ Rule.wildcard with action := some (.log "web") }]⟩ := by
    decide +kernel
  have api : layeredTable.chains.find? "API" = some ⟨"API", some .drop, []⟩ := by decide +kernel
  obtain ⟨entries, expands, unique, evaluated⟩ :=
    evaluate_eq_firstVerdict layeredTable ⟨[], none, none⟩ "INPUT" _ found layeredTable_expandable
  obtain rfl := unique _ (.jumped rfl web (.logged rfl .nil) (.jumped rfl api .nil .nil))
  exact ⟨found, layeredTable_expandable, expands, evaluated.trans (by decide +kernel)⟩

end PacketFilter.Table
