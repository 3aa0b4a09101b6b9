import PacketFilter.Proofs.CommandGrammar
import PacketFilter.Proofs.CommandText
import PacketFilter.Proofs.Editing
import PacketFilter.Proofs.Layout

/-!
# Undoing an insertion

A text says the same rule behind every verb and chain and behind a position
(`exists_parse_lead`). So the line that deletes by a text deletes what the line that adds by the
same text has added, wherever it was inserted: the chain has its rules back, in the same order if
the rule was not among them before (`Command.delete_undoes_insertion`).
-/
namespace PacketFilter

open Text

/-! ## One text behind several verbs -/

/-- The rule that is read from the characters behind a chain or a position. -/
def ruleBehind (behind : List Char) : Except ParseError Rule :=
  readFlags (String.ofList ((cutLabel behind).2.getD []))
    (wordsOf (String.ofList (cutLabel behind).1)) .wildcard

/-- A line with a verb, a chain, perhaps a position, and more holds the command of the verb with the
rule that is read from what is behind these words. -/
theorem parse_of_lead {line chain : String} {verb : Verb} {others : List String}
    {behind : List Char} {build : Rule → Command}
    (isLine : (stripComment line).toList =
      [' '].intercalate ((verb.flag :: chain :: others).map String.toList) ++ behind)
    (named : ChainName chain)
    (plain : ∀ word ∈ others, IsOperand word ∧ RuleFlag.ofWord? word = none)
    (opens : ∀ char ∈ behind.head?, isBlank char = true) (more : words behind ≠ [])
    (holds : RuleCommand chain verb (others ++ wordsOf (String.ofList behind)) build) :
    Command.parse line = (fun rule => some (build rule)) <$> ruleBehind behind := by
  have operands : ∀ word ∈ verb.flag :: chain :: others, IsOperand word :=
    isOperand_of_lead verb (isChainName_iff.2 named) fun word member => (plain word member).1
  have found : findVerb true (stripComment line).toList =
      some (verb, (stripComment line).toList) := by
    have spelled : Verb.ofWord? (String.ofList verb.flag.toList) = some verb := by
      rw [String.ofList_toList]
      exact verb.ofWord?_flag.1
    rw [isLine, List.map_cons, List.map_cons, List.intercalate_cons_cons, List.append_assoc,
      List.append_assoc]
    have solid := (operands verb.flag List.mem_cons_self).solid
    exact findVerb_verb_append solid (isBlank_of_head?_space _) spelled
  have behindVerb : (wordsOf (stripComment line)).drop 1 =
      chain :: (others ++ wordsOf (String.ofList behind)) := by
    rw [wordsOf_of_toList_eq (solid_of_isOperand operands) isLine opens]
    rfl
  have rule : Rule.parse (stripComment line) = ruleBehind behind := by
    rw [ruleParse_append isLine (stripComment_stripComment line) operands opens (.inr more),
      readFlags_append_of_noFlags fun word member => (plain word member).2]
    rfl
  rw [Command.parse, found]
  dsimp only
  rw [String.ofList_toList, holds.ofVerb_eq named behindVerb, rule]
  cases ruleBehind behind <;> rfl

/-- What a text says as a rule is the same behind every verb and chain, and behind a position. -/
theorem exists_parse_lead {text : String} (some : wordsOf (stripComment text) ≠ []) :
    ∃ said : Except ParseError Rule, ∀ {verb : Verb} {chain : String} {others : List String}
      {build : Rule → Command}, ChainName chain →
      (∀ word ∈ others, IsOperand word ∧ RuleFlag.ofWord? word = none) →
      RuleCommand chain verb (others ++ wordsOf (stripComment text)) build →
      Command.parse (" ".intercalate (verb.flag :: chain :: others) ++ " " ++ text) =
        (fun rule => Option.some (build rule)) <$> said := by
  have nonempty : stripComment text ≠ "" := by
    intro empty
    rw [empty] at some
    exact some rfl
  obtain ⟨blanks, blank, strip⟩ := exists_stripComment_append_line nonempty
  refine ⟨ruleBehind (' ' :: (blanks ++ (stripComment text).toList)), ?_⟩
  intro verb chain others build named plain holds
  have operands : ∀ word ∈ verb.flag :: chain :: others, IsOperand word :=
    isOperand_of_lead verb (isChainName_iff.2 named) fun word member => (plain word member).1
  have noComment : '#' ∉ (" ".intercalate (verb.flag :: chain :: others)).toList := by
    rw [← written_empty]
    exact not_comment_mem_written operands (by decide)
  have isLine : (stripComment (" ".intercalate (verb.flag :: chain :: others) ++ " " ++
      text)).toList = [' '].intercalate ((verb.flag :: chain :: others).map String.toList) ++
        ' ' :: (blanks ++ (stripComment text).toList) := by
    have kept : trimStart ((" ".intercalate (verb.flag :: chain :: others)).toList ++
        ' ' :: blanks) = (" ".intercalate (verb.flag :: chain :: others)).toList ++
          ' ' :: blanks := by
      have solid := (operands verb.flag List.mem_cons_self).solid
      obtain ⟨after, starts, -⟩ := exists_toList_written verb.flag (chain :: others) ""
      rw [written_empty] at starts
      refine trimStart_of_not_blank fun char first => solid.plain char (List.mem_of_head? ?_)
      rwa [starts, List.append_assoc, List.head?_append_of_ne_nil _ solid.nonempty] at first
    rw [strip _ noComment, kept, String.toList_append, String.toList_ofList,
      String.toList_intercalate, List.append_assoc]
    rfl
  have sameWords : words (' ' :: (blanks ++ (stripComment text).toList)) =
      words (stripComment text).toList := by
    have space : AllBlank (' ' :: blanks) := List.forall_mem_cons.2 ⟨by decide, blank⟩
    exact words_blanks_append space _
  have more : words (' ' :: (blanks ++ (stripComment text).toList)) ≠ [] := by
    rw [sameWords]
    exact fun none => some (congrArg (List.map String.ofList) none)
  refine parse_of_lead isLine named plain (isBlank_of_head?_space _) more ?_
  rwa [wordsOf, String.toList_ofList, sameWords]

/-- A text that holds a rule has at least three words. -/
theorem three_le_of_ruleParse {text : String} {rule : Rule} (parsed : Rule.parse text = .ok rule) :
    3 ≤ (wordsOf (stripComment text)).length := by
  by_contra few
  rw [ruleParse_eq_error_iff.2 (.tooShort (Nat.lt_of_not_le few))] at parsed
  cases parsed

/-- A line that adds a rule to a chain names the chain, and has more than two words. -/
theorem of_parse_append {line chain : String} {rule : Rule}
    (appends : Command.parse line = .ok (some (.append chain rule))) :
    ChainName chain ∧ 3 ≤ (wordsOf (stripComment line)).length := by
  obtain ⟨outcome, reading⟩ := exists_lineReading line
  have same : outcome = .ok (some (.append chain rule)) := reading.parse_eq.symm.trans appends
  cases reading with
  | noVerb => cases same
  | verb cut spelled reading =>
    cases reading with
    | rule named holds parsed =>
      have many := three_le_of_ruleParse parsed
      rw [cut.stripComment_eq, cut.wordsOf_eq] at many
      refine ⟨?_, ?_⟩
      · cases holds <;> cases same
        exact named
      · rw [cut.words, List.length_append]
        omega
    | _ => cases same

/-! ## Adding a rule and deleting it -/

namespace Chain

/-- A chain is another one with one more rule, which stands somewhere among the others. -/
structure Gains (chain : Chain) (rule : Rule) (more : Chain) : Prop where
  /-- It has the same name. -/
  name : more.name = chain.name
  /-- It has the same policy. -/
  policy : more.policy = chain.policy
  /-- The rule is between two parts of the others. -/
  rules : ∃ before after, chain.rules = before ++ after ∧ more.rules = before ++ rule :: after

/-- A chain is another one but for the order of its rules, and has the same order if a given rule is
not among them. -/
structure Restores (chain : Chain) (rule : Rule) (restored : Chain) : Prop where
  /-- It has the same name. -/
  name : restored.name = chain.name
  /-- It has the same policy. -/
  policy : restored.policy = chain.policy
  /-- It has the same rules. -/
  perm : restored.rules.Perm chain.rules
  /-- They are in the same order if the given one is not among them. -/
  same : rule ∉ chain.rules → restored.rules = chain.rules

variable {chain : Chain} {rule : Rule}

/-- A rule enters a chain as it is if it has an action or the chain has no policy. -/
theorem under_eq_self (decided : rule.action ≠ none ∨ chain.policy = none) :
    rule.under chain.policy = rule := by
  rcases decided with acts | noPolicy
  · obtain ⟨action, isAction⟩ := Option.ne_none_iff_exists'.1 acts
    simp only [Rule.under, isAction]
  · cases action : rule.action <;> simp only [Rule.under, action, noPolicy]

variable (kept : rule.under chain.policy = rule)

include kept in
/-- A rule that enters a chain as it is at the end is one more in it. -/
theorem gains_append : chain.Gains rule (chain.append rule) where
  name := rfl
  policy := rfl
  rules := ⟨chain.rules, [], (List.append_nil _).symm, by rw [append, resolve_eq_under, kept]⟩

include kept in
/-- A rule that enters a chain as it is at an index is one more in it. -/
theorem exists_insertAt?_gains {index : Nat} (inside : index ≤ chain.size) :
    ∃ more, chain.insertAt? index rule = some more ∧ chain.Gains rule more := by
  have cut : chain.rules = chain.rules.take index ++ chain.rules.drop index :=
    (List.take_append_drop index chain.rules).symm
  have inserted := chain.insertAt?_of_cut rule cut
  rw [List.length_take_of_le inside, kept] at inserted
  exact ⟨_, inserted, rfl, rfl, _, _, cut, rfl⟩

/-- Deleting a rule that a chain has gained restores the chain: the first rule that is equal to it
stands in its place or before it. -/
theorem Gains.exists_deleteMatching? {more : Chain} (gains : chain.Gains rule more) :
    ∃ restored, more.deleteMatching? rule = some restored ∧ chain.Restores rule restored := by
  obtain ⟨before, after, cut, longer⟩ := gains.rules
  have inside : rule ∈ more.rules := by
    rw [longer]
    exact List.mem_append_right _ List.mem_cons_self
  refine ⟨_, if_pos inside, gains.name, gains.policy, ?_, fun fresh => ?_⟩
  · have front : (before ++ rule :: after).Perm (rule :: (before ++ after)) := List.perm_middle
    have fewer := front.erase rule
    rw [List.erase_cons_head, ← longer, ← cut] at fewer
    exact fewer
  · have notBefore : rule ∉ before := fun member =>
      fresh (by rw [cut]; exact List.mem_append_left _ member)
    have fewer : (before ++ rule :: after).erase rule = before ++ after := by
      rw [List.erase_append_right _ notBefore, List.erase_cons_head]
    rw [← longer, ← cut] at fewer
    exact fewer

end Chain

namespace Table

/-- A line whose command edits a chain is carried out, and only the chain is changed. -/
theorem exists_loadLine_applied {table : Table} {line name : String} {command : Command}
    {chain changed : Chain} (parsed : Command.parse line = .ok (some command))
    (edits : command.edited? = some name) (found : table.chains.find? name = some chain)
    (edited : command.edit chain = some changed) (named : changed.name = chain.name) :
    ∃ after, table.loadLine line = (after, .applied) ∧ table.DiffersAt name changed after := by
  refine ⟨{ table with chains := table.chains.insert changed }, ?_,
    differsAt_insert (named.trans (ChainSet.name_of_find? found))⟩
  simp only [loadLine, parsed, apply_of_edited? edits, edit, found, edited, Option.map_some]

/-- Two edits of a chain in a row are one. -/
theorem DiffersAt.trans {before between after : Table} {name : String} {chain changed : Chain}
    (left : before.DiffersAt name chain between) (right : between.DiffersAt name changed after) :
    before.DiffersAt name changed after := by
  refine ⟨left.beside.trans right.beside, fun other => ?_⟩
  rw [right.found, left.found]
  split
  · rfl
  · rfl

end Table

/-! ## Lines that add a rule -/

/-- The lines that add the rule of a text to a chain of a given size, with their commands: at the
end, or at a position that is written as a number. -/
inductive AddingLine (name text : String) (rule : Rule) (size : Nat) : String → Command → Prop
  /-- The rule is added at the end. -/
  | append : AddingLine name text rule size ("-A " ++ name ++ " " ++ text) (.append name rule)
  /-- The rule is inserted at a position. -/
  | insert {position : Nat} (least : 1 ≤ position) (greatest : position ≤ size + 1)
      (fits : position < UInt64.size) :
      AddingLine name text rule size ("-I " ++ name ++ " " ++ toString position ++ " " ++ text)
        (.insert name position rule)

/-- The command of a line that adds a rule edits the chain, which gains the rule. -/
theorem AddingLine.exists_edit {name text line : String} {rule : Rule} {chain : Chain}
    {command : Command} (adds : AddingLine name text rule chain.size line command)
    (kept : rule.under chain.policy = rule) :
    command.edited? = some name ∧
      ∃ more, command.edit chain = some more ∧ chain.Gains rule more := by
  cases adds with
  | append => exact ⟨rfl, _, rfl, Chain.gains_append kept⟩
  | @insert position least greatest fits =>
    obtain ⟨index, rfl⟩ := Nat.exists_eq_add_of_le' least
    exact ⟨rfl, Chain.exists_insertAt?_gains kept (Nat.le_of_succ_le_succ greatest)⟩

namespace Command

section Text

variable {name text : String} {rule : Rule}
  (appends : parse ("-A " ++ name ++ " " ++ text) = .ok (some (.append name rule)))
include appends

/-- If a text says a rule behind one verb and chain, it says the rule behind all. -/
theorem parse_lead_of_append {verb : Verb} {others : List String} {build : Rule → Command}
    (plain : ∀ word ∈ others, IsOperand word ∧ RuleFlag.ofWord? word = none)
    (holds : RuleCommand name verb (others ++ wordsOf (stripComment text)) build) :
    parse (" ".intercalate (verb.flag :: name :: others) ++ " " ++ text) =
      .ok (some (build rule)) := by
  obtain ⟨named, long⟩ := of_parse_append appends
  have lead : "-A " ++ name = " ".intercalate ["-A", name] := (intercalate_pair "-A" name).symm
  rw [lead] at appends long
  have more : wordsOf (stripComment text) ≠ [] := by
    have operands : ∀ word ∈ ["-A", name], IsOperand word :=
      isOperand_of_lead .append (isChainName_iff.2 named) (List.forall_mem_nil _)
    have noComment : '#' ∉ (" ".intercalate ["-A", name]).toList := by
      rw [← written_empty]
      exact not_comment_mem_written operands (by decide)
    have words : wordsOf (" ".intercalate ["-A", name]) = ["-A", name] := by
      rw [← written_empty]
      exact wordsOf_written (solid_of_isOperand operands)
    intro none
    rw [wordsOf_stripComment_append_line noComment, words, none] at long
    exact absurd long (Nat.not_succ_le_self 2)
  obtain ⟨said, read⟩ := exists_parse_lead more
  have isRule : said = .ok rule := by
    have holds : RuleCommand name .append ([] ++ wordsOf (stripComment text)) (.append name) :=
      .append
    have readAppend := read named (List.forall_mem_nil _) holds
    rw [Verb.flag, appends] at readAppend
    cases said with
    | error error => cases readAppend
    | ok found =>
      cases readAppend
      rfl
  rw [read named plain holds, isRule]
  rfl

/-- The line that deletes by the text deletes the rule. -/
theorem parse_delete_of_append
    (unnumbered : ∀ word ∈ (wordsOf (stripComment text)).head?, ¬ IsNumeral word) :
    parse ("-D " ++ name ++ " " ++ text) = .ok (some (.deleteMatching name rule)) := by
  have holds : RuleCommand name .delete ([] ++ wordsOf (stripComment text))
      (.deleteMatching name) := by
    rw [List.nil_append]
    exact .deleteMatching unnumbered
  have lead : "-D " ++ name = " ".intercalate ["-D", name] := (intercalate_pair "-D" name).symm
  have read := parse_lead_of_append appends (List.forall_mem_nil _) holds
  rw [lead]
  exact read

/-- A line that adds the rule of the text holds the command to add the rule. -/
theorem parse_of_addingLine {size : Nat} {line : String} {command : Command}
    (adds : AddingLine name text rule size line command) :
    parse line = .ok (some command) := by
  cases adds with
  | append => exact appends
  | @insert position least greatest fits =>
    have plain : ∀ word ∈ [toString position], IsOperand word ∧ RuleFlag.ofWord? word = none :=
      List.forall_mem_singleton.2 ⟨isOperand_toString position, RuleFlag.ofWord?_toString position⟩
    have fitsToo : numeralValue (toString position) < UInt64.size := by
      rw [numeralValue_toString]
      exact fits
    have holds : RuleCommand name .insert ([toString position] ++ wordsOf (stripComment text))
        (.insert name (numeralValue (toString position))) := by
      rw [List.singleton_append]
      exact .insert (isNumeral_toString position) fitsToo
    have lead : "-I " ++ name ++ " " ++ toString position =
        " ".intercalate ["-I", name, toString position] := by
      rw [String.intercalate_cons_cons, intercalate_pair, ← String.append_assoc,
        ← String.append_assoc]
      rfl
    have read := parse_lead_of_append appends plain holds
    rw [numeralValue_toString] at read
    rw [lead]
    exact read

end Text

/-- The line that deletes by a text deletes the rule that the same text adds. So it undoes what a
line that adds the rule has done, if the rule enters the chain as it is: in between the chain has
one more rule, and then it has its policy and its rules, in the same order if the rule was not among
them before, while nothing else has changed. If the first word of the text, a comment left out, were
a numeral, the line would delete the rule at that position. -/
theorem delete_undoes_insertion {name text : String} {rule : Rule}
    (appends : parse ("-A " ++ name ++ " " ++ text) = .ok (some (.append name rule)))
    (unnumbered : ∀ word ∈ (wordsOf (stripComment text)).head?, ¬ IsNumeral word) :
    parse ("-D " ++ name ++ " " ++ text) = .ok (some (.deleteMatching name rule)) ∧
    ∀ {table : Table} {chain : Chain}, table.chains.find? name = some chain →
      (rule.action ≠ none ∨ chain.policy = none) →
      ∀ {line : String} {command : Command}, AddingLine name text rule chain.size line command →
        parse line = .ok (some command) ∧
        ∃ between more, table.loadLine line = (between, .applied) ∧
          table.DiffersAt name more between ∧ chain.Gains rule more ∧
          ∃ after restored,
            between.loadLine ("-D " ++ name ++ " " ++ text) = (after, .applied) ∧
              table.DiffersAt name restored after ∧ chain.Restores rule restored := by
  have deletes := parse_delete_of_append appends unnumbered
  refine ⟨deletes, fun {table chain} found decided line command adds => ?_⟩
  have parsed := parse_of_addingLine appends adds
  obtain ⟨edits, more, edited, gains⟩ := adds.exists_edit (Chain.under_eq_self decided)
  obtain ⟨between, applied, differs⟩ :=
    Table.exists_loadLine_applied parsed edits found edited gains.name
  have foundMore : between.chains.find? name = some more := by
    rw [differs.found, if_pos rfl]
  obtain ⟨restored, removed, restores⟩ := gains.exists_deleteMatching?
  obtain ⟨after, appliedToo, differsToo⟩ := Table.exists_loadLine_applied deletes rfl foundMore
    removed (restores.name.trans gains.name.symm)
  exact ⟨parsed, between, more, applied, differs, gains, after, restored, appliedToo,
    differs.trans differsToo, restores⟩

end Command

/-- A rule that logs what comes from an address. -/
def Rule.logging : Rule :=
  { Rule.wildcard with sourceAddress := some "10.0.0.1", action := some (.log "web 1") }

/-- A chain with a policy that has the rule already. -/
def Chain.logging : Chain := ⟨"WEB", some .drop, [.wildcard, .logging]⟩

/-- A table with that chain only. -/
def Table.logging : Table := { Table.empty .standard with chains := .insert .empty .logging }

/-- A text of the rule with the label before the action, a word that is no flag, and a comment. -/
def loggingText : String := "-s 10.0.0.1 -v --log-prefix \"web 1\" -j LOG # 7"

/-- The rule is inserted a second time, before the other rules, and deleted. -/
theorem Command.delete_undoes_logging :
    parse ("-D " ++ "WEB" ++ " " ++ loggingText) = .ok (some (.deleteMatching "WEB" .logging)) ∧
      ∃ between more,
        Table.logging.loadLine ("-I " ++ "WEB" ++ " " ++ toString 1 ++ " " ++ loggingText) =
          (between, .applied) ∧
        Table.logging.DiffersAt "WEB" more between ∧ Chain.logging.Gains .logging more ∧
        ∃ after restored,
          between.loadLine ("-D " ++ "WEB" ++ " " ++ loggingText) = (after, .applied) ∧
            Table.logging.DiffersAt "WEB" restored after ∧
            Chain.logging.Restores .logging restored := by
  have appends : parse ("-A " ++ "WEB" ++ " " ++ loggingText) =
      .ok (some (.append "WEB" .logging)) := by
    decide +kernel
  have first : (wordsOf (stripComment loggingText)).head? = some "-s" := by decide +kernel
  have unnumbered : ∀ word ∈ (wordsOf (stripComment loggingText)).head?, ¬ IsNumeral word := by
    rw [first]
    rintro word ⟨⟩ numeral
    have index : isIndex "-s" = false := by decide +kernel
    exact Bool.false_ne_true (index.symm.trans (isIndex_iff.2 numeral))
  have found : Table.logging.chains.find? "WEB" = some .logging := by decide +kernel
  obtain ⟨deletes, undoes⟩ := delete_undoes_insertion appends unnumbered
  obtain ⟨-, undone⟩ := undoes found (.inl (Option.some_ne_none _))
    (.insert (Nat.le_refl 1) (by decide) (by decide))
  exact ⟨deletes, undone⟩

end PacketFilter
