import PacketFilter.Proofs.Label

/-!
# Rules that are read back from their text

The text of a rule is a row of words, flags with their operands, and perhaps a label at the end
(`Rule.text_eq`). Flags with their operands are read two words at a time, so an operand may look
like a flag, and each pair sets one part of the rule that was not set before. Together the words
give back the rule, once its label is known (`readFlags_words`).
-/
namespace PacketFilter

/-! ## Actions -/

/-- An action without its label. -/
def Action.bare : Action → Action
  | log _ => log ""
  | action => action

/-- The label of an action, if it has one. -/
def Action.label : Action → String
  | log label => label
  | _ => ""

/-- An action is written as it is without its label, which follows. -/
theorem Action.text_eq (action : Action) :
    action.text = action.bare.text ++ labelText action.label := by
  cases action with
  | log label =>
    by_cases empty : label = ""
    · simp [text, bare, Action.label, labelText, empty]
    · have start : "LOG --log-prefix \"" = "LOG" ++ " --log-prefix \"" := rfl
      rw [text, if_neg empty, bare, text, if_pos rfl, Action.label, labelText, if_neg empty, start,
        String.append_assoc, String.append_assoc, String.append_assoc]
  | accept | drop | reject | jump => simp [text, bare, Action.label, labelText]

/-- The words that are taken for an action that is built in. -/
def Action.builtIn : List String := ["ACCEPT", "DROP", "REJECT", "LOG"]

/-- An action is read back from what is written of it and its label, unless it asks a chain that is
named like another action. -/
theorem Action.ofTarget_bare {action : Action}
    (free : ∀ target, action = .jump target → target ∉ builtIn) :
    ofTarget action.bare.text action.label = action := by
  cases action with
  | jump target =>
    have other := free target rfl
    simp only [builtIn, List.mem_cons, List.not_mem_nil, or_false, not_or] at other
    obtain ⟨notAccept, notDrop, notReject, notLog⟩ := other
    simp [bare, text, ofTarget, notAccept, notDrop, notReject, notLog]
  | accept | drop | reject | log => simp [bare, text, ofTarget, Action.label]

/-! ## Words of a rule -/

/-- A flag and its operand as words, if there is one to write. -/
def flagGroup (flag : String) (operand : Option String) : List (List String) :=
  (operand.map fun text => [flag, text]).toList

/-- The words that ask for established flows. -/
def establishedWords : List String := ["-m", "conntrack", "--ctstate", "ESTABLISHED"]

/-- Two words are joined with a space between them. -/
theorem intercalate_pair (word other : String) :
    " ".intercalate [word, other] = word ++ " " ++ other := by
  rw [String.intercalate_cons_cons, String.intercalate_singleton]

namespace Rule

/-- A rule without the label of its action. -/
def bare (rule : Rule) : Rule := { rule with action := rule.action.map Action.bare }

/-- The label of the action of a rule, if it has one. -/
def label (rule : Rule) : String := (rule.action.map Action.label).getD ""

/-- The conditions of a rule that are texts, in the order in which they are written. -/
def fields (rule : Rule) : List (Option String) :=
  [rule.sourceAddress, rule.sourcePort, rule.destinationAddress, rule.destinationPort,
    rule.inInterface, rule.outInterface]

/-- The flags of the conditions that have operands, with the operands. -/
def conditions (rule : Rule) : List (String × Option String) :=
  ("-p", if rule.protocol = .any then none else some rule.protocol.name) ::
    ["-s", "--sport", "-d", "--dport", "-i", "-o"].zip rule.fields

/-- The words of each written part of a rule but its action. -/
def conditionGroups (rule : Rule) : List (List String) :=
  (rule.conditions.flatMap fun (flag, operand) => flagGroup flag operand) ++
    if rule.requireEstablished then [establishedWords] else []

/-- The words of each written part of a rule. -/
def groups (rule : Rule) : List (List String) :=
  rule.conditionGroups ++ flagGroup "-j" (rule.action.map Action.text)

/-- The words of a rule, if its action has no label. -/
def words (rule : Rule) : List String := rule.groups.flatten

/-- A flag and its operand are written as two words. -/
theorem flagText_eq (flag : String) (operand : Option String) :
    flagText flag operand = (flagGroup flag operand).map (" ".intercalate ·) := by
  cases operand with
  | none => rfl
  | some text => exact congrArg (fun part => [part]) (intercalate_pair flag text).symm

/-- Each part of a rule is written as its words. -/
theorem parts_eq (rule : Rule) : rule.parts = rule.groups.map (" ".intercalate ·) := by
  have established : (if rule.requireEstablished then ["-m conntrack --ctstate ESTABLISHED"]
      else []) = (if rule.requireEstablished then [establishedWords] else []).map
        (" ".intercalate ·) := by
    cases rule.requireEstablished <;> rfl
  simp [parts, groups, conditionGroups, conditions, fields, flagText_eq, established]

/-- A part of a rule is one flag with its operand, or asks for established flows. -/
theorem mem_groups {rule : Rule} {group : List String} (member : group ∈ rule.groups) :
    group = establishedWords ∨
      ∃ flag text, (flag, some text) ∈ rule.conditions ++ [("-j", rule.action.map Action.text)] ∧
        group = [flag, text] := by
  rw [groups, conditionGroups, List.mem_append, List.mem_append, List.mem_flatMap] at member
  rcases member with (⟨⟨flag, operand⟩, within, inside⟩ | established) | jump
  · obtain ⟨text, rfl, rfl⟩ : ∃ text, operand = some text ∧ [flag, text] = group := by
      simpa [flagGroup] using inside
    exact .inr ⟨flag, text, List.mem_append_left _ within, rfl⟩
  · split at established
    · exact .inl (List.mem_singleton.1 established)
    · cases established
  · obtain ⟨text, isText, rfl⟩ : ∃ text, rule.action.map Action.text = some text ∧
        ["-j", text] = group := by
      simpa [flagGroup] using jump
    exact .inr ⟨"-j", text, by simp [isText], rfl⟩

/-- Texts of words, joined as the words are, are the words joined. -/
theorem intercalate_map_intercalate {groups : List (List String)}
    (nonempty : ∀ group ∈ groups, group ≠ []) :
    " ".intercalate (groups.map (" ".intercalate ·)) = " ".intercalate groups.flatten := by
  induction groups with
  | nil => rfl
  | cons group rest ih =>
    cases rest with
    | nil => simp [String.intercalate_singleton]
    | cons next others =>
      have later := ih fun other member => nonempty other (List.mem_cons_of_mem _ member)
      have first : group ≠ [] := nonempty group List.mem_cons_self
      have second : (next :: others).flatten ≠ [] := by
        have nextOne := nonempty next (by simp)
        simp [nextOne]
      rw [List.map_cons, String.intercalate_cons_of_ne_nil (by simp), later]
      exact (String.intercalate_append_of_ne_nil first second).symm

/-- What is behind the last text that is joined is behind all. -/
theorem intercalate_concat_append (texts : List String) (last rest : String) :
    " ".intercalate (texts ++ [last ++ rest]) = " ".intercalate (texts ++ [last]) ++ rest := by
  by_cases empty : texts = []
  · simp [empty, String.intercalate_singleton]
  · rw [String.intercalate_append_of_ne_nil empty (by simp),
      String.intercalate_append_of_ne_nil empty (by simp), String.intercalate_singleton,
      String.intercalate_singleton, String.append_assoc, String.append_assoc, String.append_assoc]

/-- The action of a rule is written at the end, behind its conditions. -/
theorem parts_of_action {rule : Rule} {action : Action} (isAction : rule.action = some action) :
    rule.parts = rule.conditionGroups.map (" ".intercalate ·) ++ ["-j " ++ action.text] := by
  have written : " ".intercalate ["-j", action.text] = "-j " ++ action.text :=
    intercalate_pair "-j" action.text
  rw [parts_eq, groups, isAction, List.map_append, ← written]
  rfl

/-- A rule is written as it is without its label, which follows. -/
theorem text_eq_bare (rule : Rule) : rule.text = rule.bare.text ++ labelText rule.label := by
  cases isAction : rule.action with
  | none =>
    have isBare : rule.bare = rule := by rw [bare, isAction, Option.map_none, ← isAction]
    have unlabelled : labelText rule.label = "" := by
      rw [label, isAction]
      rfl
    rw [isBare, unlabelled, String.append_empty]
  | some action =>
    have isBare : rule.bare.action = some action.bare :=
      congrArg (Option.map Action.bare) isAction
    have labelled : rule.label = action.label := by
      rw [label, isAction]
      rfl
    have sameConditions : rule.bare.conditionGroups = rule.conditionGroups := rfl
    have longer : "-j " ++ action.text =
        "-j " ++ action.bare.text ++ labelText action.label := by
      rw [action.text_eq, String.append_assoc]
    rw [text, text, parts_of_action isAction, parts_of_action isBare, sameConditions, labelled,
      longer, intercalate_concat_append]

/-- Each part of a rule has words. -/
theorem ne_nil_of_mem_groups {rule : Rule} {group : List String} (member : group ∈ rule.groups) :
    group ≠ [] := by
  rcases mem_groups member with rfl | ⟨flag, text, -, rfl⟩
  · exact List.cons_ne_nil _ _
  · exact List.cons_ne_nil _ _

/-- A rule is written word by word, and its label after that. -/
theorem text_eq (rule : Rule) :
    rule.text = " ".intercalate rule.bare.words ++ labelText rule.label := by
  rw [text_eq_bare, text, parts_eq,
    intercalate_map_intercalate fun group => ne_nil_of_mem_groups, words]

/-- The text of a rule without words has no conditions and no action. -/
theorem eq_wildcard_of_groups_bare_eq_nil {rule : Rule} (nothing : rule.bare.groups = []) :
    rule = .wildcard := by
  obtain ⟨protocol, source, destination, sourcePort, destinationPort, inInterface, outInterface,
    action, established⟩ := rule
  have noGroups : groups ⟨protocol, source, destination, sourcePort, destinationPort, inInterface,
      outInterface, action.map Action.bare, established⟩ = [] := nothing
  obtain ⟨rfl, rfl, rfl, rfl, rfl, rfl, rfl, rfl, rfl⟩ : protocol = .any ∧ source = none ∧
      sourcePort = none ∧ destination = none ∧ destinationPort = none ∧ inInterface = none ∧
      outInterface = none ∧ established = false ∧ action = none := by
    simpa [groups, conditionGroups, conditions, fields, flagGroup] using noGroups
  rfl

/-- The flags that a rule is written with. -/
def flags : List String := ["-p", "-s", "--sport", "-d", "--dport", "-i", "-o", "-j"]

/-- A flag of a rule is one of those that rules are written with. -/
theorem mem_flags_of_mem_conditions {rule : Rule} {flag : String} {operand : Option String}
    (pair : (flag, operand) ∈ rule.conditions ++ [("-j", rule.action.map Action.text)]) :
    flag ∈ flags :=
  List.mem_map_of_mem (f := Prod.fst) pair

/-- A rule with a condition or an action has words, and the first of them is no position. -/
theorem exists_words {rule : Rule} (nontrivial : rule ≠ .wildcard) :
    ∃ word rest, rule.bare.words = word :: rest ∧ isIndex word = false := by
  cases cut : rule.bare.groups with
  | nil => exact absurd (eq_wildcard_of_groups_bare_eq_nil cut) nontrivial
  | cons group rest =>
    have member : group ∈ rule.bare.groups := cut ▸ List.mem_cons_self
    rw [words, cut, List.flatten_cons]
    rcases mem_groups member with rfl | ⟨flag, text, pair, rfl⟩
    · exact ⟨_, _, rfl, by decide⟩
    · have noIndex : ∀ flag ∈ flags, isIndex flag = false := by decide
      exact ⟨flag, _, rfl, noIndex flag (mem_flags_of_mem_conditions pair)⟩

end Rule

/-! ## Reading the words of a rule -/

/-- A list of connection states has the established one: it is one of the parts between the
commas. -/
def ListsEstablished (states : String) : Prop :=
  ∃ parts : List String, (∀ part ∈ parts, ',' ∉ part.toList) ∧ "ESTABLISHED" ∈ parts ∧
    states = ",".intercalate parts

/-- The established state is named just if it is one of the parts between the commas. -/
theorem namesEstablished_iff {states : String} :
    namesEstablished states = true ↔ ListsEstablished states := by
  have isComma : ",".toList = [','] := rfl
  rw [namesEstablished, List.contains_iff_mem]
  constructor
  · intro named
    refine ⟨(Text.split (· == ',') states.toList).map String.ofList, fun part member comma => ?_,
      List.mem_map.2 ⟨_, named, String.ofList_toList⟩, ?_⟩
    · obtain ⟨piece, inside, rfl⟩ := List.mem_map.1 member
      rw [String.toList_ofList] at comma
      have noComma := Text.not_separator_of_mem_split _ _ piece inside ',' comma
      cases noComma
    · have sameParts : ((Text.split (· == ',') states.toList).map String.ofList).map
          String.toList = Text.split (· == ',') states.toList := by
        simp [Function.comp_def, String.toList_ofList]
      rw [← String.toList_inj, String.toList_intercalate, sameParts, isComma,
        Text.intercalate_split]
  · rintro ⟨parts, plain, named, rfl⟩
    have plainToo : ∀ part ∈ parts.map String.toList, ',' ∉ part :=
      List.forall_mem_map.2 plain
    have inParts := List.mem_map_of_mem (f := String.toList) named
    rwa [String.toList_intercalate, isComma,
      Text.split_intercalate (List.ne_nil_of_mem inParts) plainToo]

/-- Whether the established state is listed can be checked. -/
instance (states : String) : Decidable (ListsEstablished states) :=
  decidable_of_iff _ namesEstablished_iff

/-- Each spelling of a flag is read as that flag, and no other word is. -/
theorem RuleFlag.ofWord?_eq_some_iff {word : String} {flag : RuleFlag} :
    ofWord? word = some flag ↔ word ∈ flag.spellings := by
  have readBack : ∀ flag : RuleFlag, ∀ word ∈ flag.spellings, ofWord? word = some flag := by
    intro flag
    cases flag <;> decide
  constructor
  · intro spelled
    simpa using List.find?_some spelled
  · exact readBack flag word

/-- The words of some parts of a rule are read as it is told: whatever comes after them, reading
goes on with the rule that they lead to. -/
def Reads (label : String) (groups : List (List String)) (start next : Rule) : Prop :=
  ∀ rest, readFlags label (groups.flatten ++ rest) start = readFlags label rest next

/-- Nothing is read without a change. -/
theorem Reads.none (label : String) (rule : Rule) : Reads label [] rule rule := fun _ => rfl

/-- What is read in turn is read together. -/
theorem Reads.append {label : String} {first second : List (List String)}
    {start middle next : Rule} (before : Reads label first start middle)
    (after : Reads label second middle next) : Reads label (first ++ second) start next := by
  intro rest
  rw [List.flatten_append, List.append_assoc, before, after]

/-- A flag with its operand is read as one assignment, unless it asks for established flows. -/
theorem readFlags_operand {label word operand : String} {flag : RuleFlag} {rest : List String}
    (spelled : RuleFlag.ofWord? word = some flag)
    (noState : ∀ option states others, rest = option :: states :: others →
      asksEstablished flag operand option states = false) (start : Rule) :
    readFlags label (word :: operand :: rest) start =
      flag.assign label operand start >>= readFlags label rest := by
  match rest with
  | [] =>
    simp only [readFlags, spelled]
    cases flag.assign label operand start <;> rfl
  | [last] =>
    simp only [readFlags, spelled]
    cases flag.assign label operand start <;> rfl
  | option :: states :: others =>
    rw [readFlags, spelled]
    simp only [noState option states others rfl, Bool.false_eq_true, if_false]
    cases flag.assign label operand start <;> rfl

/-- A flag that is no match module asks for no established flows. -/
theorem asksEstablished_of_ne {flag : RuleFlag} (plain : flag ≠ .module)
    (operand option states : String) : asksEstablished flag operand option states = false := by
  simp [asksEstablished, plain]

/-- A flag with its operand is read as one assignment, whatever the operand looks like. -/
theorem readFlags_flag {label word operand : String} {flag : RuleFlag} {start next : Rule}
    (spelled : RuleFlag.ofWord? word = some flag) (plain : flag ≠ .module)
    (assigned : flag.assign label operand start = .ok next) (rest : List String) :
    readFlags label (word :: operand :: rest) start = readFlags label rest next := by
  rw [readFlags_operand spelled fun option states _ _ =>
    asksEstablished_of_ne plain operand option states, assigned]
  rfl

/-- A word that is no flag is passed over. -/
theorem readFlags_of_ofWord?_eq_none {label word : String} (other : RuleFlag.ofWord? word = none)
    (rest : List String) (start : Rule) :
    readFlags label (word :: rest) start = readFlags label rest start := by
  cases rest with
  | nil => rfl
  | cons operand rest => simp only [readFlags, other]

/-- Words that are no flags are passed over. -/
theorem readFlags_append_of_noFlags {label : String} {words : List String}
    (noFlags : ∀ word ∈ words, RuleFlag.ofWord? word = none) (rest : List String) (start : Rule) :
    readFlags label (words ++ rest) start = readFlags label rest start := by
  induction words with
  | nil => rfl
  | cons word others ih =>
    have first := noFlags word List.mem_cons_self
    rw [List.cons_append, readFlags_of_ofWord?_eq_none first,
      ih fun other member => noFlags other (List.mem_cons_of_mem _ member)]

/-- A flag sets one part of a rule to its operand, and leaves it unset without one. -/
theorem reads_flagGroup (label word : String) (flag : RuleFlag) (set : Option String → Rule)
    (operand : Option String) (spelled : word ∈ flag.spellings) (plain : flag ≠ .module)
    (assigned : ∀ text, operand = some text →
      flag.assign label text (set none) = .ok (set (some text))) :
    Reads label (flagGroup word operand) (set none) (set operand) := by
  intro rest
  cases operand with
  | none => rfl
  | some text =>
    exact readFlags_flag (RuleFlag.ofWord?_eq_some_iff.2 spelled) plain (assigned text rfl) rest

/-- The flag of a protocol is read as the protocol. -/
theorem reads_protocol (label : String) (protocol : Protocol) :
    Reads label (flagGroup "-p" (if protocol = .any then none else some protocol.name)) .wildcard
      { Rule.wildcard with protocol } := by
  by_cases any : protocol = .any
  · rw [if_pos any, any]
    exact Reads.none label .wildcard
  · have spelled : RuleFlag.ofWord? "-p" = some .protocol :=
      RuleFlag.ofWord?_eq_some_iff.2 List.mem_cons_self
    have assigned : RuleFlag.assign .protocol label protocol.name .wildcard =
        .ok { Rule.wildcard with protocol } := by
      simp [RuleFlag.assign, Protocol.parse, Except.map]
    rw [if_neg any]
    exact readFlags_flag spelled (by decide) assigned

/-- A module flag that asks for established flows is read as that, with the words behind it. -/
theorem readFlags_established {label word states : String} {start : Rule}
    (spelled : RuleFlag.ofWord? word = some .module) (named : ListsEstablished states)
    (rest : List String) :
    readFlags label (word :: "conntrack" :: "--ctstate" :: states :: rest) start =
      readFlags label rest { start with requireEstablished := true } := by
  have asked : asksEstablished .module "conntrack" "--ctstate" states = true := by
    simp [asksEstablished, namesEstablished_iff.2 named]
  rw [readFlags, spelled]
  dsimp only
  rw [if_pos asked]

/-- The words that ask for established flows are read as that. -/
theorem reads_established (label : String) (rule : Rule) :
    Reads label [establishedWords] rule { rule with requireEstablished := true } :=
  fun rest =>
    readFlags_established (RuleFlag.ofWord?_eq_some_iff.2 List.mem_cons_self) (by decide) rest

/-- The words of the conditions of a rule are read as these conditions. -/
theorem reads_conditionGroups (label : String) (rule : Rule) :
    Reads label rule.conditionGroups .wildcard { rule with action := none } := by
  obtain ⟨protocol, source, destination, sourcePort, destinationPort, inInterface, outInterface,
    action, established⟩ := rule
  -- Each flag finds what the flags before it have set, and its own part still unset.
  have readProtocol := reads_protocol label protocol
  have readSource := reads_flagGroup label "-s" .source
    (⟨protocol, ·, none, none, none, none, none, none, false⟩) source
    List.mem_cons_self (by decide) fun _ _ => rfl
  have readSourcePort := reads_flagGroup label "--sport" .sourcePort
    (⟨protocol, source, none, ·, none, none, none, none, false⟩) sourcePort
    List.mem_cons_self (by decide) fun _ _ => rfl
  have readDestination := reads_flagGroup label "-d" .destination
    (⟨protocol, source, ·, sourcePort, none, none, none, none, false⟩) destination
    List.mem_cons_self (by decide) fun _ _ => rfl
  have readDestinationPort := reads_flagGroup label "--dport" .destinationPort
    (⟨protocol, source, destination, sourcePort, ·, none, none, none, false⟩) destinationPort
    List.mem_cons_self (by decide) fun _ _ => rfl
  have readInInterface := reads_flagGroup label "-i" .inInterface
    (⟨protocol, source, destination, sourcePort, destinationPort, ·, none, none, false⟩)
    inInterface List.mem_cons_self (by decide) fun _ _ => rfl
  have readOutInterface := reads_flagGroup label "-o" .outInterface
    (⟨protocol, source, destination, sourcePort, destinationPort, inInterface, ·, none, false⟩)
    outInterface List.mem_cons_self (by decide) fun _ _ => rfl
  have readFields := readProtocol.append (readSource.append (readSourcePort.append
    (readDestination.append (readDestinationPort.append (readInInterface.append
      (readOutInterface.append (Reads.none label _)))))))
  refine readFields.append ?_
  cases established with
  | false => exact Reads.none label _
  | true => exact reads_established label _

/-- The words of a rule are read as the rule, once its label is known. -/
theorem reads_groups {rule : Rule}
    (free : ∀ target, rule.action = some (.jump target) → target ∉ Action.builtIn) :
    Reads rule.label rule.bare.groups .wildcard rule := by
  have readConditions := reads_conditionGroups rule.label rule
  have readAction := reads_flagGroup rule.label "-j" .jump
    (fun text => { rule with action := text.map (Action.ofTarget · rule.label) })
    (rule.bare.action.map Action.text) List.mem_cons_self (by decide) fun _ _ => rfl
  have sameAction : (rule.bare.action.map Action.text).map (Action.ofTarget · rule.label) =
      rule.action := by
    cases isAction : rule.action with
    | none =>
      rw [Rule.bare, isAction]
      rfl
    | some action =>
      have readBack : Action.ofTarget action.bare.text action.label = action :=
        Action.ofTarget_bare fun target jumps =>
          free target (isAction.trans (congrArg some jumps))
      rw [Rule.bare, Rule.label, isAction]
      exact congrArg some readBack
  rw [sameAction] at readAction
  exact readConditions.append readAction

/-- The words of a rule are read as the rule, once its label is known, and nothing else is. -/
theorem readFlags_words {rule : Rule}
    (free : ∀ target, rule.action = some (.jump target) → target ∉ Action.builtIn) :
    readFlags rule.label rule.bare.words .wildcard = .ok rule := by
  have read := reads_groups free []
  rwa [List.append_nil] at read

end PacketFilter
