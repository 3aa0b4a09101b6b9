import PacketFilter.Proofs.CommandGrammar

/-!
# What is read from a line

The operands of a rule that is read from a line are words of the line without its comment, and so is
a label, unless it is all that stands between two quotes. `Rule.WellFormed` says this of a rule, and
`Command.WellFormed` of a command with its chain. Every command that a line holds is well formed,
whatever else the line holds (`Command.wellFormed_of_parse`).
-/
namespace PacketFilter

open Text

/-- A text is a single word and starts no comment. -/
structure PlainWord (text : String) : Prop where
  /-- It is a single word. -/
  solid : Solid text.toList
  /-- It starts no comment. -/
  noComment : '#' ∉ text.toList

/-- A label starts no comment, and holds no quote unless it is a single word. -/
structure PlainLabel (label : String) : Prop where
  /-- It starts no comment. -/
  noComment : '#' ∉ label.toList
  /-- It holds no quote, or no blank. -/
  readable : '"' ∉ label.toList ∨ ∀ char ∈ label.toList, isBlank char = false

/-- A rule is made of words and perhaps a label, and a chain that it asks is not named like another
action. -/
structure Rule.WellFormed (rule : Rule) : Prop where
  /-- The conditions are words. -/
  field : ∀ text, some text ∈ rule.fields → PlainWord text
  /-- The chain that is asked is a word, and not one for another action. -/
  target : ∀ target, rule.action = some (.jump target) →
    PlainWord target ∧ target ∉ Action.builtIn
  /-- The label is one that can be read. -/
  label : ∀ label, rule.action = some (.log label) → PlainLabel label

/-! ## Labels -/

/-- A label between two quotes holds no quote. -/
theorem of_span_quote {inner label rest : List Char}
    (cut : inner.span (· != '"') = (label, rest)) :
    label ⊆ inner ∧ rest ⊆ inner ∧ '"' ∉ label := by
  rw [List.span_eq_takeWhile_dropWhile] at cut
  obtain ⟨rfl, rfl⟩ := Prod.mk.inj cut
  refine ⟨List.takeWhile_subset _, List.dropWhile_subset _, fun within => ?_⟩
  simpa using List.mem_takeWhile_imp within

/-- The first word of a text holds no blank. -/
theorem of_span_blank {operand label rest : List Char}
    (cut : operand.span (!isBlank ·) = (label, rest)) :
    label ⊆ operand ∧ rest ⊆ operand ∧ ∀ char ∈ label, isBlank char = false := by
  rw [List.span_eq_takeWhile_dropWhile] at cut
  obtain ⟨rfl, rfl⟩ := Prod.mk.inj cut
  refine ⟨List.takeWhile_subset _, List.dropWhile_subset _, fun char within => ?_⟩
  simpa using List.mem_takeWhile_imp within

/-- A label that is read from an operand is a part of it, as is the text behind it, and it has no
quote or no blank. -/
theorem of_readLabel? {operand label rest : List Char}
    (read : readLabel? operand = some (label, rest)) :
    label ⊆ operand ∧ rest ⊆ operand ∧
      ('"' ∉ label ∨ ∀ char ∈ label, isBlank char = false) := by
  unfold readLabel? at read
  rw [Option.orElse_eq_orElse, Option.orElse_eq_or, Option.or_eq_some_iff] at read
  rcases read with quoted | ⟨-, word⟩
  · split at quoted
    · next inner =>
      split at quoted
      · next found behind cut =>
        cases quoted
        obtain ⟨inLabel, inRest, unquoted⟩ := of_span_quote cut
        exact ⟨fun _ within => List.mem_cons_of_mem _ (inLabel within),
          fun _ within => List.mem_cons_of_mem _ (inRest (List.mem_cons_of_mem _ within)),
          .inl unquoted⟩
      · cases quoted
    · cases quoted
  · split at word
    · cases word
    · next found behind nonempty cut =>
      cases word
      obtain ⟨inLabel, inRest, plain⟩ := of_span_blank cut
      exact ⟨inLabel, inRest, .inr plain⟩

/-- A label that is written at the start of a text is a part of it, as is the text behind it, and it
has no quote or no blank. -/
theorem of_labelHere? {text label after : List Char}
    (found : labelHere? text = some (label, after)) :
    label ⊆ text ∧ after ⊆ text ∧
      ('"' ∉ label ∨ ∀ char ∈ label, isBlank char = false) := by
  unfold labelHere? at found
  split at found
  · cases found
  · next rest start =>
    have inRest : rest ⊆ text := by
      unfold afterStart? at start
      split at start
      · cases start
        exact List.drop_subset _ _
      · cases start
    split at found
    · cases found
    · next char others =>
      split at found
      · obtain ⟨inLabel, inAfter, readable⟩ := of_readLabel? found
        have inOperand : trimStart (char :: others) ⊆ text :=
          List.Subset.trans (List.dropWhile_subset _) inRest
        exact ⟨List.Subset.trans inLabel inOperand, List.Subset.trans inAfter inOperand, readable⟩
      · cases found

/-- What is cut out of a text, and what is left of it but for a space, are parts of the text, and a
label that is cut out has no quote or no blank. -/
theorem of_cutLabel (text : List Char) :
    (∀ char ∈ (cutLabel text).1, char = ' ' ∨ char ∈ text) ∧
      ∀ label ∈ (cutLabel text).2, label ⊆ text ∧
        ('"' ∉ label ∨ ∀ char ∈ label, isBlank char = false) := by
  fun_induction cutLabel text with
  | case1 => exact ⟨fun _ within => absurd within List.not_mem_nil, fun _ none => by cases none⟩
  | case2 char rest label after found =>
    obtain ⟨inLabel, inAfter, readable⟩ := of_labelHere? found
    refine ⟨fun other within => ?_, fun other isLabel => ?_⟩
    · exact (List.mem_cons.1 within).imp_right fun behind => inAfter behind
    · obtain rfl := Option.some.inj isLabel
      exact ⟨inLabel, readable⟩
  | case3 char rest notHere body label cut ih =>
    rw [cut] at ih
    obtain ⟨inBody, ofLabel⟩ := ih
    refine ⟨fun other within => ?_, fun other isLabel => ?_⟩
    · rcases List.mem_cons.1 within with rfl | behind
      · exact .inr List.mem_cons_self
      · exact (inBody other behind).imp_right (List.mem_cons_of_mem _)
    · obtain ⟨inRest, readable⟩ := ofLabel other isLabel
      exact ⟨List.Subset.trans inRest (List.subset_cons_self _ _), readable⟩

/-! ## Rules -/

/-- The word of a jump flag that is taken for a chain is the name of the chain, and not one for
another action. -/
theorem Action.ofTarget_eq_jump {target label other : String}
    (jumps : ofTarget target label = .jump other) : other = target ∧ target ∉ builtIn := by
  unfold ofTarget at jumps
  split_ifs at jumps with isAccept isDrop isReject isLog
  cases jumps
  exact ⟨rfl, by simp [builtIn, isAccept, isDrop, isReject, isLog]⟩

/-- An action that logs does so under the label that is given for it. -/
theorem Action.ofTarget_eq_log {target label other : String}
    (logs : ofTarget target label = .log other) : other = label := by
  unfold ofTarget at logs
  split_ifs at logs
  cases logs
  rfl

/-- A flag sets nothing in a rule but to its operand, and the action to the one that the operand
names. -/
theorem RuleFlag.of_assign {flag : RuleFlag} {label operand : String} {rule next : Rule}
    (assigned : flag.assign label operand rule = .ok next) :
    (∀ text, some text ∈ next.fields → text = operand ∨ some text ∈ rule.fields) ∧
      (next.action = rule.action ∨ next.action = some (Action.ofTarget operand label)) := by
  cases flag with
  | protocol =>
    cases known : Protocol.parse operand with
    | error error =>
      rw [assign, known] at assigned
      cases assigned
    | ok protocol =>
      rw [assign, known] at assigned
      cases assigned
      exact ⟨fun _ => .inr, .inl rfl⟩
  | jump =>
    cases assigned
    exact ⟨fun _ => .inr, .inr rfl⟩
  | module =>
    cases assigned
    exact ⟨fun _ => .inr, .inl rfl⟩
  | source | destination | sourcePort | destinationPort | inInterface | outInterface =>
    cases assigned
    refine ⟨fun text member => ?_, .inl rfl⟩
    simp only [Rule.fields, List.mem_cons, List.not_mem_nil, or_false, Option.some.injEq] at member ⊢
    tauto

/-- A flag that is set to a word keeps a rule well formed. -/
theorem Rule.WellFormed.assign {flag : RuleFlag} {label operand : String} {rule next : Rule}
    (wellFormed : rule.WellFormed) (word : PlainWord operand) (isLabel : PlainLabel label)
    (assigned : flag.assign label operand rule = .ok next) : next.WellFormed := by
  obtain ⟨fields, action⟩ := RuleFlag.of_assign assigned
  refine ⟨fun text member => ?field, fun target jumps => ?target, fun other logs => ?label⟩
  case field =>
    rcases fields text member with rfl | before
    · exact word
    · exact wellFormed.field text before
  case target =>
    rcases action with kept | set
    · exact wellFormed.target target (kept.symm.trans jumps)
    · obtain ⟨rfl, free⟩ := Action.ofTarget_eq_jump (Option.some.inj (set.symm.trans jumps))
      exact ⟨word, free⟩
  case label =>
    rcases action with kept | set
    · exact wellFormed.label other (kept.symm.trans logs)
    · obtain rfl := Action.ofTarget_eq_log (Option.some.inj (set.symm.trans logs))
      exact isLabel

/-- The rule without conditions and action is well formed. -/
theorem Rule.wellFormed_wildcard : Rule.wildcard.WellFormed where
  field text member := by simp [fields, wildcard] at member
  target _ jumps := by cases jumps
  label _ logs := by cases logs

/-- A rule that is read from words, starting from a well formed one, is well formed. -/
theorem wellFormed_of_readFlags {label : String} {words : List String} {start rule : Rule}
    (isLabel : PlainLabel label) (plain : ∀ word ∈ words, PlainWord word)
    (wellFormed : start.WellFormed) (read : readFlags label words start = .ok rule) :
    rule.WellFormed := by
  fun_induction readFlags label words start with
  | case1 | case2 =>
    cases read
    exact wellFormed
  | case3 word operand rest start other ih =>
    exact ih (List.forall_mem_cons.1 plain).2 wellFormed read
  | case4 word operand start flag spelled option states others asked ih =>
    have behind : ∀ word ∈ others, PlainWord word := fun word member =>
      plain word (by simp [member])
    exact ih behind ⟨wellFormed.field, wellFormed.target, wellFormed.label⟩ read
  | case5 word operand start flag spelled option states others notAsked next assigned ih
  | case7 word operand start flag spelled others short next assigned ih =>
    obtain ⟨isOperand, behind⟩ := List.forall_mem_cons.1 (List.forall_mem_cons.1 plain).2
    exact ih behind (wellFormed.assign isOperand isLabel assigned) read
  | case6 | case8 => cases read

/-- A rule that is read from a line is well formed. -/
theorem Rule.wellFormed_of_parse {line : String} {rule : Rule}
    (parsed : Rule.parse line = .ok rule) : rule.WellFormed := by
  obtain ⟨inBody, ofLabel⟩ := of_cutLabel (stripComment line).toList
  have noComment := not_comment_mem_stripComment line
  have plain : ∀ word ∈ wordsOf (String.ofList (cutLabel (stripComment line).toList).1),
      PlainWord word := by
    intro word member
    rw [wordsOf, String.toList_ofList] at member
    obtain ⟨chars, isWord, rfl⟩ := List.mem_map.1 member
    refine ⟨?_, fun mark => ?_⟩
    · rw [String.toList_ofList]
      exact ⟨ne_nil_of_mem_words isWord, not_blank_of_mem_words isWord⟩
    · rw [String.toList_ofList] at mark
      rcases inBody '#' ((infix_of_mem_words isWord).subset mark) with isSpace | inLine
      · exact absurd isSpace (by decide)
      · exact noComment inLine
  have isLabel : PlainLabel
      (String.ofList ((cutLabel (stripComment line).toList).2.getD [])) := by
    cases found : (cutLabel (stripComment line).toList).2 with
    | none => exact ⟨by simp, .inl (by simp)⟩
    | some label =>
      obtain ⟨inLine, readable⟩ := ofLabel label found
      refine ⟨fun mark => ?_, ?_⟩
      · rw [Option.getD_some, String.toList_ofList] at mark
        exact noComment (inLine mark)
      · rwa [Option.getD_some, String.toList_ofList]
  rw [Rule.parse] at parsed
  dsimp only at parsed
  split at parsed
  · cases parsed
  · exact wellFormed_of_readFlags isLabel
      (fun word member => plain word (List.mem_of_mem_drop member))
      wellFormed_wildcard parsed

/-! ## Commands -/

/-- The rule that a command holds, if it holds one. -/
def Command.rule? : Command → Option Rule
  | .append _ rule | .insert _ _ rule | .deleteMatching _ rule | .replace _ _ rule => some rule
  | .newChain _ | .setPolicy _ _ | .flush _ | .deleteAt _ _ => none

/-- A command names a chain as chains are named, and its rule is well formed. -/
structure Command.WellFormed (command : Command) : Prop where
  /-- The chain has the name of a chain. -/
  chain : ∀ name, command.chain? = some name → ChainName name
  /-- The rule is well formed. -/
  rule : ∀ rule, command.rule? = some rule → rule.WellFormed

/-- A command that holds a rule is well formed if its chain and its rule are. -/
theorem RuleCommand.wellFormed {chain : String} {verb : Verb} {rest : List String}
    {build : Rule → Command} (holds : RuleCommand chain verb rest build) (named : ChainName chain)
    {rule : Rule} (wellFormed : rule.WellFormed) : (build rule).WellFormed := by
  cases holds with
  | append | insert | insertFirst | deleteMatching | replace =>
    exact ⟨fun name isName => Option.some.inj isName ▸ named,
      fun other isRule => Option.some.inj isRule ▸ wellFormed⟩

/-- A command without a rule is well formed if its chain is. -/
theorem Command.WellFormed.of_chain {command : Command} {chain : String} (named : ChainName chain)
    (names : command.chain? = some chain) (noRule : command.rule? = none) : command.WellFormed where
  chain name isName := Option.some.inj (names.symm.trans isName) ▸ named
  rule rule isRule := by
    rw [noRule] at isRule
    cases isRule

/-- The command that a verb comes to is well formed. -/
theorem VerbReading.wellFormed {text : String} {verb : Verb} {operands : List String}
    {command : Command} (reading : VerbReading text verb operands (.ok command)) :
    command.WellFormed := by
  cases reading with
  | flushAll => exact ⟨fun _ isName => (by cases isName), fun _ isRule => (by cases isRule)⟩
  | flush named | newChain named | acceptPolicy named | dropPolicy named | deleteAt named =>
    exact .of_chain named rfl rfl
  | rule named holds parsed => exact holds.wellFormed named (Rule.wellFormed_of_parse parsed)

/-- The command that a line holds is well formed. -/
theorem Command.wellFormed_of_parse {line : String} {command : Command}
    (parsed : Command.parse line = .ok (some command)) : command.WellFormed := by
  obtain ⟨outcome, reading⟩ := exists_lineReading line
  have same : outcome = .ok (some command) := reading.parse_eq.symm.trans parsed
  cases reading with
  | noVerb => cases same
  | @verb _ _ _ _ _ outcome cut spelled reading =>
    cases outcome with
    | error error => cases same
    | ok held =>
      cases same
      exact reading.wellFormed

end PacketFilter
