import Mathlib.Logic.Function.Basic
import PacketFilter.Proofs.RuleFaults
import PacketFilter.Proofs.WrittenLine

/-!
# Flags in any order

What a rule says is a set of groups of words, at most one of each kind: the flags with their
operands, the list of connection states, and the label. A line has them in some order and each flag
in one of its spellings. `RuleRequest` is such a set, and every line that lists its groups holds the
same rule, or fails for the same protocol (`ruleParse_flagLine`).
-/
namespace PacketFilter

open Text

/-! ## Groups of words -/

/-- A group of words in the text of a rule. -/
inductive FlagGroup where
  /-- A flag with its operand, which is a list of connection states behind the module flag. -/
  | flag (flag : RuleFlag) (operand : String)
  /-- A label. -/
  | label (text : String)
  deriving DecidableEq, Repr

namespace FlagGroup

/-- A group that is no label. -/
def IsFlag (group : FlagGroup) : Prop := ∃ kind operand, group = .flag kind operand

/-- The words of a group, for a spelling of each flag. A label has none that are read as flags. -/
def words (spelling : RuleFlag → String) : FlagGroup → List String
  | flag .module states => [spelling .module, "conntrack", "--ctstate", states]
  | flag other operand => [spelling other, operand]
  | label _ => []

/-- The text of a group, for a spelling of each flag. -/
def text (spelling : RuleFlag → String) : FlagGroup → String
  | flag kind operand => " ".intercalate ((flag kind operand).words spelling)
  | label text => "--log-prefix \"" ++ text ++ "\""

/-- A flag is written as its words. -/
theorem text_flag (spelling : RuleFlag → String) (kind : RuleFlag) (operand : String) :
    (flag kind operand).text spelling = " ".intercalate ((flag kind operand).words spelling) := rfl

/-- A label is written in quotes, behind the flag that announces it and a space. -/
theorem toList_text_label (spelling : RuleFlag → String) (text : String) :
    ((label text).text spelling).toList = labelFlag ++ ' ' :: '"' :: (text.toList ++ ['"']) := by
  have written : (label text).text spelling = "--log-prefix \"" ++ text ++ "\"" := rfl
  rw [written, String.toList_append, String.toList_append]
  rfl

end FlagGroup

/-- What a rule is asked to say: an operand for some of the flags, and perhaps a label. -/
structure RuleRequest where
  /-- The operand of each flag that is asked for; that of the module flag is a list of connection
  states. -/
  operand : RuleFlag → Option String
  /-- The label, if one is asked for. -/
  label : Option String

namespace RuleRequest

/-- A group of words is asked for. -/
def Asks (request : RuleRequest) : FlagGroup → Prop
  | .flag kind operand => request.operand kind = some operand
  | .label text => request.label = some text

/-- A row of groups has each group that is asked for once, and no other. -/
structure Lists (request : RuleRequest) (row : List FlagGroup) : Prop where
  /-- No group occurs twice. -/
  once : row.Nodup
  /-- The groups are those that are asked for. -/
  mem_iff : ∀ group, group ∈ row ↔ request.Asks group

/-- The groups that are asked for can be written. An operand may look like a flag. -/
structure Writable (request : RuleRequest) : Prop where
  /-- The operands are single words without a comment mark and without the flag of a label. -/
  operand : ∀ kind text, request.operand kind = some text → IsOperand text
  /-- The list of connection states has the established one. -/
  states : ∀ states, request.operand .module = some states → ListsEstablished states
  /-- The label holds no quote. -/
  unquoted : ∀ text, request.label = some text → '"' ∉ text.toList
  /-- The label starts no comment. -/
  noComment : ∀ text, request.label = some text → '#' ∉ text.toList

/-- The protocol that is asked for, in any mix of upper and lower case: any if there is none, and an
error if it has none of the four names. -/
def protocol (request : RuleRequest) : Except ParseError Protocol :=
  match request.operand .protocol with
  | none => .ok .any
  | some word =>
    if word.toUpper = "ALL" then .ok .any
    else if word.toUpper = "TCP" then .ok .tcp
    else if word.toUpper = "UDP" then .ok .udp
    else if word.toUpper = "ICMP" then .ok .icmp
    else .error (.unsupportedProtocol word.toUpper)

/-- What a jump operand asks for: one of the four actions that are built in, logging with the label
that is asked for, and otherwise a question to the chain that it names. -/
def action (request : RuleRequest) (target : String) : Action :=
  if target = "ACCEPT" then .accept
  else if target = "DROP" then .drop
  else if target = "REJECT" then .reject
  else if target = "LOG" then .log (request.label.getD "")
  else .jump target

/-- The rule that is asked for, with a protocol. What is not asked for is left open. -/
def rule (request : RuleRequest) (protocol : Protocol) : Rule where
  protocol := protocol
  sourceAddress := request.operand .source
  destinationAddress := request.operand .destination
  sourcePort := request.operand .sourcePort
  destinationPort := request.operand .destinationPort
  inInterface := request.operand .inInterface
  outInterface := request.operand .outInterface
  action := (request.operand .jump).map request.action
  requireEstablished := (request.operand .module).isSome

/-- What the request comes to. -/
def outcome (request : RuleRequest) : Except ParseError Rule := request.protocol.map request.rule

/-- A request that has one more operand. -/
def set (request : RuleRequest) (kind : RuleFlag) (operand : String) : RuleRequest :=
  { request with operand := Function.update request.operand kind (some operand) }

/-- Nothing is asked for but a label. -/
def unset (label : Option String) : RuleRequest := ⟨fun _ => none, label⟩

end RuleRequest

/-- A line that adds a rule to a chain, with a row of groups. -/
def flagLine (chain : String) (spelling : RuleFlag → String) (row : List FlagGroup) : String :=
  " ".intercalate ("-A" :: chain :: row.map (FlagGroup.text spelling))

/-! ## Reading a row -/

namespace RuleRequest

/-- The operand that is added is asked for. -/
@[simp] theorem set_operand_self (request : RuleRequest) (kind : RuleFlag) (operand : String) :
    (request.set kind operand).operand kind = some operand := Function.update_self _ _ _

/-- The other operands stay as they were. -/
theorem set_operand_of_ne (request : RuleRequest) {kind other : RuleFlag} (operand : String)
    (different : other ≠ kind) :
    (request.set kind operand).operand other = request.operand other :=
  Function.update_of_ne different _ _

/-- The protocol is that of its operand. -/
theorem protocol_congr {first second : RuleRequest}
    (same : first.operand .protocol = second.operand .protocol) :
    first.protocol = second.protocol := by
  rw [protocol, protocol, same]

/-- A protocol that is asked for is looked up as it is when it is read. -/
theorem protocol_eq_parse {request : RuleRequest} {word : String}
    (asked : request.operand .protocol = some word) : request.protocol = Protocol.parse word := by
  simp only [protocol, asked, Protocol.parse, Protocol.ofName?]
  split_ifs <;> rfl

/-- A jump operand is taken as it is when it is read. -/
theorem ofTarget_eq_action (request : RuleRequest) (target : String) :
    Action.ofTarget target (request.label.getD "") = request.action target := by
  simp only [Action.ofTarget, action]

/-- A flag that is no match module takes its operand into the rule, or fails as the request does
with it. -/
theorem assign_rule (request : RuleRequest) {protocol : Protocol}
    (known : request.protocol = .ok protocol) {kind : RuleFlag} (plain : kind ≠ .module)
    (operand : String) :
    kind.assign (request.label.getD "") operand (request.rule protocol) =
      (request.set kind operand).outcome := by
  by_cases isProtocol : kind = .protocol
  · subst isProtocol
    rw [outcome, protocol_eq_parse (request.set_operand_self .protocol operand)]
    rfl
  · have kept : (request.set kind operand).protocol = .ok protocol :=
      (protocol_congr (request.set_operand_of_ne operand (Ne.symm isProtocol))).trans known
    rw [outcome, kept]
    cases kind with
    | protocol => exact absurd rfl isProtocol
    | module => exact absurd rfl plain
    | jump =>
      rw [RuleFlag.assign, ofTarget_eq_action]
      rfl
    | source | destination | sourcePort | destinationPort | inInterface | outInterface => rfl

end RuleRequest

section Row

variable {spelling : RuleFlag → String}
  (spelled : ∀ kind : RuleFlag, spelling kind ∈ kind.spellings)
include spelled

/-- A group of words adds its operand to what has been read, whatever comes behind it. -/
theorem readFlags_flagGroup {seen : RuleRequest} {protocol : Protocol} {kind : RuleFlag}
    {operand : String} (known : seen.protocol = .ok protocol)
    (named : kind = .module → ListsEstablished operand) (rest : List String) :
    readFlags (seen.label.getD "") ((FlagGroup.flag kind operand).words spelling ++ rest)
        (seen.rule protocol) =
      (seen.set kind operand).outcome >>= readFlags (seen.label.getD "") rest := by
  have read := RuleFlag.ofWord?_eq_some_iff.2 (spelled kind)
  by_cases isModule : kind = .module
  · subst isModule
    have kept : (seen.set .module operand).protocol = .ok protocol :=
      (RuleRequest.protocol_congr (seen.set_operand_of_ne operand (by decide))).trans known
    rw [RuleRequest.outcome, kept]
    exact readFlags_established read (named rfl) rest
  · have words : (FlagGroup.flag kind operand).words spelling = [spelling kind, operand] := by
      cases kind with
      | module => exact absurd rfl isModule
      | protocol | source | destination | sourcePort | destinationPort | inInterface
      | outInterface | jump => rfl
    rw [words, List.cons_append, List.singleton_append,
      readFlags_operand read fun option states _ _ =>
        asksEstablished_of_ne isModule operand option states,
      seen.assign_rule known isModule]

/-- A row of groups is read as what is asked for, whatever has been read of it: each operand that
has not been read is behind a flag of the row. -/
theorem readFlags_row {request : RuleRequest} (writable : request.Writable) {row : List FlagGroup}
    (asked : ∀ group ∈ row, request.Asks group) {seen : RuleRequest} {protocol : Protocol}
    (sameLabel : seen.label = request.label)
    (covered : ∀ kind, seen.operand kind = request.operand kind ∨
      ∃ operand, FlagGroup.flag kind operand ∈ row)
    (known : seen.protocol = .ok protocol) :
    readFlags (request.label.getD "") (row.flatMap (FlagGroup.words spelling))
      (seen.rule protocol) = request.outcome := by
  induction row generalizing seen protocol with
  | nil =>
    have same : seen = request := by
      obtain ⟨operand, label⟩ := seen
      obtain ⟨operandToo, labelToo⟩ := request
      have operands : operand = operandToo := funext fun kind =>
        (covered kind).resolve_right fun ⟨_, member⟩ => List.not_mem_nil member
      have labels : label = labelToo := sameLabel
      rw [operands, labels]
    rw [← same, RuleRequest.outcome, known]
    rfl
  | cons group rest ih =>
    have others : ∀ group ∈ rest, request.Asks group := fun other member =>
      asked other (List.mem_cons_of_mem _ member)
    have first := asked group List.mem_cons_self
    cases group with
    | label text =>
      refine ih others sameLabel (fun kind => (covered kind).imp_right ?_) known
      rintro ⟨operand, member⟩
      exact ⟨operand, (List.mem_cons.1 member).resolve_left FlagGroup.noConfusion⟩
    | flag kind operand =>
      have isOperand : request.operand kind = some operand := first
      -- With this operand all that has not been read is behind a flag of the rest.
      have coveredToo : ∀ other, (seen.set kind operand).operand other = request.operand other ∨
          ∃ text, FlagGroup.flag other text ∈ rest := by
        intro other
        by_cases same : other = kind
        · left
          rw [same, isOperand, RuleRequest.set_operand_self]
        · rw [seen.set_operand_of_ne operand same]
          refine (covered other).imp_right fun ⟨text, member⟩ => ⟨text, ?_⟩
          refine (List.mem_cons.1 member).resolve_left fun isFirst => same ?_
          exact (FlagGroup.flag.inj isFirst).1
      have named : kind = .module → ListsEstablished operand := by
        rintro rfl
        exact writable.states operand isOperand
      have step := readFlags_flagGroup spelled known named (rest.flatMap (FlagGroup.words spelling))
      rw [sameLabel] at step
      rw [List.flatMap_cons, step, RuleRequest.outcome]
      cases next : (seen.set kind operand).protocol with
      | ok found => exact ih others sameLabel coveredToo next
      | error error =>
        -- Only the flag of the protocol can fail, and the request fails for its operand too.
        have isProtocol : kind = .protocol := by
          by_contra different
          have kept := RuleRequest.protocol_congr
            (seen.set_operand_of_ne operand (Ne.symm different))
          rw [next, known] at kept
          cases kept
        subst isProtocol
        have sameProtocol := RuleRequest.protocol_congr
          ((seen.set_operand_self .protocol operand).trans isOperand.symm)
        rw [RuleRequest.outcome, ← sameProtocol, next]
        rfl

end Row

/-! ## Taking a line apart -/

section Line

variable {request : RuleRequest} {spelling : RuleFlag → String} {row : List FlagGroup}
  (spelled : ∀ kind : RuleFlag, spelling kind ∈ kind.spellings)

/-- Groups without a label are written word by word. -/
theorem intercalate_texts (spelling : RuleFlag → String) (flags : ∀ group ∈ row, group.IsFlag)
    (lead : List String) :
    " ".intercalate (lead ++ row.map (FlagGroup.text spelling)) =
      " ".intercalate (lead ++ row.flatMap (FlagGroup.words spelling)) := by
  have nonempty : ∀ group ∈ lead.map (fun word => [word]) ++
      row.map (FlagGroup.words spelling), group ≠ [] := by
    intro words member
    rcases List.mem_append.1 member with inLead | inRow
    · obtain ⟨word, -, rfl⟩ := List.mem_map.1 inLead
      exact List.cons_ne_nil _ _
    · obtain ⟨group, inside, rfl⟩ := List.mem_map.1 inRow
      obtain ⟨kind, operand, rfl⟩ := flags group inside
      cases kind <;> exact List.cons_ne_nil _ _
  have joined := Rule.intercalate_map_intercalate nonempty
  have texts : (row.map (FlagGroup.words spelling)).map (" ".intercalate ·) =
      row.map (FlagGroup.text spelling) := by
    rw [List.map_map]
    refine List.map_congr_left fun group member => ?_
    obtain ⟨kind, operand, rfl⟩ := flags group member
    rfl
  have singles : (lead.map fun word => [word]).map (" ".intercalate ·) = lead := by
    simp [Function.comp_def, String.intercalate_singleton]
  have flat : (lead.map fun word => [word]).flatten = lead := by
    rw [← List.flatMap_def, List.flatMap_singleton']
  rwa [List.map_append, singles, texts, List.flatten_append, flat, ← List.flatMap_def] at joined

include spelled in
/-- The words of a flag are operands if what is behind it is one. -/
theorem FlagGroup.isOperand_words (kind : RuleFlag) {operand : String}
    (isOperand : IsOperand operand) :
    ∀ word ∈ (FlagGroup.flag kind operand).words spelling, IsOperand word := by
  have spellings : ∀ kind : RuleFlag, ∀ word ∈ kind.spellings, IsOperand word := by
    intro kind
    cases kind <;> decide +kernel
  have isFlag := spellings kind _ (spelled kind)
  have conntrack : IsOperand "conntrack" := by decide +kernel
  have states : IsOperand "--ctstate" := by decide +kernel
  cases kind <;> simp_all [FlagGroup.words]

include spelled in
/-- The text of a group that can be written holds no comment and ends with no blank. -/
theorem FlagGroup.text_closed (writable : request.Writable) {group : FlagGroup}
    (asked : request.Asks group) :
    '#' ∉ (group.text spelling).toList ∧ EndsSolid (group.text spelling).toList := by
  cases group with
  | label text =>
    have noComment := writable.noComment text asked
    have noFlag : '#' ∉ labelFlag := by decide
    have closed : EndsSolid ['"'] := ⟨'"', rfl, by decide⟩
    rw [FlagGroup.toList_text_label]
    refine ⟨by simp [noFlag, noComment], ?_⟩
    rw [← List.cons_append, ← List.cons_append]
    exact (closed.append _).append _
  | flag kind operand =>
    have operands := FlagGroup.isOperand_words spelled kind
      (writable.operand kind operand asked)
    have words : (FlagGroup.flag kind operand).words spelling ≠ [] := by
      cases kind <;> exact List.cons_ne_nil _ _
    rw [FlagGroup.text_flag, ← written_empty]
    exact ⟨not_comment_mem_written operands (by decide), endsSolid_written operands words⟩

/-- Nothing is stripped from texts that are joined behind a verb and a chain, if none of them holds
a comment mark or ends with a blank. -/
theorem stripComment_intercalate {chain : String} {texts : List String}
    (isChain : IsOperand chain)
    (closed : ∀ text ∈ texts, '#' ∉ text.toList ∧ EndsSolid text.toList) :
    stripComment (" ".intercalate ("-A" :: chain :: texts)) =
      " ".intercalate ("-A" :: chain :: texts) := by
  have shape : (" ".intercalate ("-A" :: chain :: texts)).toList =
      [' '].intercalate (("-A" :: chain :: texts).map String.toList) := by
    rw [String.toList_intercalate]
    rfl
  have all : ∀ part ∈ ("-A" :: chain :: texts).map String.toList,
      '#' ∉ part ∧ EndsSolid part := by
    intro part member
    obtain ⟨text, inside, rfl⟩ := List.mem_map.1 member
    rcases List.mem_cons.1 inside with rfl | behind
    · exact ⟨by decide, 'A', by decide, by decide⟩
    · rcases List.mem_cons.1 behind with rfl | isText
      · exact ⟨isChain.noComment, isChain.solid.endsSolid⟩
      · exact closed text isText
  have ends := endsSolid_intercalate (List.cons_ne_nil _ _) fun part member => (all part member).2
  have trimmed : Trimmed (" ".intercalate ("-A" :: chain :: texts)).toList := by
    rw [shape]
    refine ⟨fun char first => ?_, ends.not_blank⟩
    obtain rfl : '-' = char := Option.some.inj first
    decide
  have noComment : '#' ∉ (" ".intercalate ("-A" :: chain :: texts)).toList := by
    rw [shape]
    intro within
    obtain ⟨part, member, inside⟩ := exists_mem_of_mem_intercalate within (by decide)
    exact (all part member).1 inside
  exact stripComment_of_trimmed trimmed noComment

/-- A text that is joined with others behind it is followed by what has just their words. -/
theorem exists_toList_intercalate_cons (text : String) (texts : List String) :
    ∃ back, (" ".intercalate (text :: texts)).toList = text.toList ++ back ∧
      words back = words (" ".intercalate texts).toList := by
  cases texts with
  | nil => exact ⟨[], by simp [String.intercalate_singleton], rfl⟩
  | cons next others =>
    refine ⟨' ' :: (" ".intercalate (next :: others)).toList, ?_, ?_⟩
    · rw [String.intercalate_cons_of_ne_nil (List.cons_ne_nil _ _), String.toList_append,
        String.toList_append]
      simp
    · exact words_append_cons [] _ (by decide)

/-- A line with a label has the words of the groups before it, the label as it is written, and what
has just the words of the groups behind it. -/
theorem exists_toList_flagLine (spelling : RuleFlag → String) (chain label : String)
    {before after : List FlagGroup} (flagsBefore : ∀ group ∈ before, group.IsFlag)
    (flagsAfter : ∀ group ∈ after, group.IsFlag) :
    ∃ back, (flagLine chain spelling (before ++ .label label :: after)).toList =
        [' '].intercalate (("-A" :: chain :: before.flatMap (FlagGroup.words spelling)).map
          String.toList) ++ (' ' :: labelFlag ++ ' ' :: '"' :: (label.toList ++ '"' :: back)) ∧
      words back = words (" ".intercalate (after.flatMap (FlagGroup.words spelling))).toList := by
  obtain ⟨back, behind, backWords⟩ := exists_toList_intercalate_cons
    (FlagGroup.text spelling (.label label)) (after.map (FlagGroup.text spelling))
  have lead : " ".intercalate ("-A" :: chain :: before.map (FlagGroup.text spelling)) =
      " ".intercalate ("-A" :: chain :: before.flatMap (FlagGroup.words spelling)) :=
    intercalate_texts spelling flagsBefore ["-A", chain]
  have later : " ".intercalate (after.map (FlagGroup.text spelling)) =
      " ".intercalate (after.flatMap (FlagGroup.words spelling)) :=
    intercalate_texts spelling flagsAfter []
  have line : flagLine chain spelling (before ++ .label label :: after) =
      " ".intercalate ("-A" :: chain :: before.flatMap (FlagGroup.words spelling)) ++ " " ++
        " ".intercalate (FlagGroup.text spelling (.label label) ::
          after.map (FlagGroup.text spelling)) := by
    rw [← lead, flagLine, List.map_append, List.map_cons]
    exact String.intercalate_append_of_ne_nil (List.cons_ne_nil _ _) (List.cons_ne_nil _ _)
  refine ⟨back, ?_, by rw [backWords, later]⟩
  rw [line, String.toList_append, String.toList_append, behind,
    FlagGroup.toList_text_label, String.toList_intercalate]
  simp

section Asked

variable {chain : String} (isChain : isChainName chain = true) (writable : request.Writable)
include spelled writable

/-- All words of the flags that are asked for are operands. -/
theorem isOperand_of_mem_flatMap_words (asked : ∀ group ∈ row, request.Asks group) :
    ∀ word ∈ row.flatMap (FlagGroup.words spelling), IsOperand word := by
  intro word member
  obtain ⟨group, inRow, inGroup⟩ := List.mem_flatMap.1 member
  have first := asked group inRow
  cases group with
  | label text => exact absurd inGroup List.not_mem_nil
  | flag kind operand =>
    exact FlagGroup.isOperand_words spelled kind (writable.operand kind operand first) word inGroup

include isChain

/-- Nothing is stripped from a line of groups that are asked for. -/
theorem stripComment_flagLine (asked : ∀ group ∈ row, request.Asks group) :
    stripComment (flagLine chain spelling row) = flagLine chain spelling row := by
  refine stripComment_intercalate (isOperand_of_isChainName isChain) fun text member => ?_
  obtain ⟨group, inside, rfl⟩ := List.mem_map.1 member
  exact FlagGroup.text_closed spelled writable (asked group inside)

/-- The rule of a line without a label is read from the words of its groups. -/
theorem ruleParse_flags (asked : ∀ group ∈ row, request.Asks group)
    (flags : ∀ group ∈ row, group.IsFlag) (nonempty : row ≠ []) :
    Rule.parse (flagLine chain spelling row) =
      readFlags "" (row.flatMap (FlagGroup.words spelling)) .wildcard := by
  have operands := isOperand_of_lead .append isChain
    (isOperand_of_mem_flatMap_words spelled writable asked)
  have more : row.flatMap (FlagGroup.words spelling) ≠ [] := by
    obtain ⟨group, rest, rfl⟩ := List.exists_cons_of_ne_nil nonempty
    obtain ⟨kind, operand, rfl⟩ := flags group List.mem_cons_self
    cases kind <;> exact List.cons_ne_nil _ _
  have line : flagLine chain spelling row =
      written ("-A" :: chain :: row.flatMap (FlagGroup.words spelling)) "" := by
    rw [written_empty]
    exact intercalate_texts spelling flags ["-A", chain]
  rw [line]
  exact ruleParse_written operands (by decide) (by decide) more

/-- The rule of a line with a label is read from the words of the groups before and behind it, with
the label. -/
theorem ruleParse_label {label : String} {before after : List FlagGroup}
    (asked : ∀ group ∈ before ++ .label label :: after, request.Asks group)
    (flagsBefore : ∀ group ∈ before, group.IsFlag) (flagsAfter : ∀ group ∈ after, group.IsFlag) :
    Rule.parse (flagLine chain spelling (before ++ .label label :: after)) =
      readFlags label ((before ++ .label label :: after).flatMap (FlagGroup.words spelling))
        .wildcard := by
  obtain ⟨back, isLine, backWords⟩ := exists_toList_flagLine spelling chain label flagsBefore
    flagsAfter
  have stripped := stripComment_flagLine spelled isChain writable asked
  have isLabel : request.label = some label :=
    asked (.label label) (List.mem_append_right _ List.mem_cons_self)
  have operandsBefore := isOperand_of_mem_flatMap_words spelled writable fun group member =>
    asked group (List.mem_append_left _ member)
  have operandsAfter := isOperand_of_mem_flatMap_words spelled writable fun group member =>
    asked group (List.mem_append_right before (List.mem_cons_of_mem (.label label) member))
  have more : words (' ' :: labelFlag ++ ' ' :: '"' :: (label.toList ++ '"' :: back)) ≠ [] := by
    rw [words_labelFlag]
    exact List.cons_ne_nil _ _
  have later : wordsOf (String.ofList (' ' :: ' ' :: back)) =
      after.flatMap (FlagGroup.words spelling) := by
    have spaces : AllBlank [' ', ' '] := by
      intro char member
      obtain rfl | rfl := List.mem_pair.1 member <;> decide
    have sameWords : words (' ' :: ' ' :: back) = words back := words_blanks_append spaces back
    have noLabel : wordsOf (labelText "") = [] := by decide
    have read : wordsOf (written (after.flatMap (FlagGroup.words spelling)) "") = _ :=
      wordsOf_written (solid_of_isOperand operandsAfter)
    rw [written_empty, noLabel, List.append_nil] at read
    rw [wordsOf, String.toList_ofList, sameWords, backWords]
    exact read
  have operands := isOperand_of_lead .append isChain operandsBefore
  rw [ruleParse_append isLine stripped operands (isBlank_of_head?_space _) (.inr more),
    cutLabel_quoted (writable.unquoted label isLabel)]
  dsimp only
  rw [Option.getD_some, String.ofList_toList, later, List.flatMap_append, List.flatMap_cons]
  rfl

end Asked

end Line

/-- A line that lists what is asked for, in any order and with each flag in either spelling, holds
the rule that is asked for, or fails for its protocol. -/
theorem ruleParse_flagLine {chain : String} {request : RuleRequest} {spelling : RuleFlag → String}
    {row : List FlagGroup} (isChain : isChainName chain = true) (writable : request.Writable)
    (lists : request.Lists row) (nonempty : row ≠ [])
    (spelled : ∀ kind : RuleFlag, spelling kind ∈ kind.spellings) :
    Rule.parse (flagLine chain spelling row) = request.outcome := by
  have asked : ∀ group ∈ row, request.Asks group := fun group => (lists.mem_iff group).1
  have read : readFlags (request.label.getD "") (row.flatMap (FlagGroup.words spelling))
      .wildcard = request.outcome := by
    have covered : ∀ kind, (RuleRequest.unset request.label).operand kind =
        request.operand kind ∨ ∃ operand, FlagGroup.flag kind operand ∈ row := by
      intro kind
      cases isOperand : request.operand kind with
      | none => exact .inl rfl
      | some operand => exact .inr ⟨operand, (lists.mem_iff _).2 isOperand⟩
    have sameLabel : (RuleRequest.unset request.label).label = request.label := rfl
    exact readFlags_row spelled writable asked sameLabel covered rfl
  cases label : request.label with
  | none =>
    have flags : ∀ group ∈ row, group.IsFlag := by
      intro group member
      cases group with
      | flag kind operand => exact ⟨kind, operand, rfl⟩
      | label text =>
        have isLabel : request.label = some text := asked _ member
        rw [label] at isLabel
        cases isLabel
    rw [label] at read
    rw [ruleParse_flags spelled isChain writable asked flags nonempty, ← read]
    rfl
  | some text =>
    obtain ⟨before, after, rfl⟩ := List.append_of_mem ((lists.mem_iff (.label text)).2 label)
    -- The label is listed once, so there is none before and behind it.
    have onlyHere : .label text ∉ before ++ after :=
      (List.nodup_cons.1 (List.perm_middle.nodup_iff.1 lists.once)).1
    have flags : ∀ group ∈ before ++ after, group.IsFlag := by
      intro group member
      cases group with
      | flag kind operand => exact ⟨kind, operand, rfl⟩
      | label other =>
        have inRow : .label other ∈ before ++ .label text :: after :=
          List.perm_middle.mem_iff.2 (List.mem_cons_of_mem _ member)
        have isLabel : request.label = some other := asked _ inRow
        rw [label] at isLabel
        cases isLabel
        exact absurd member onlyHere
    rw [label] at read
    rw [ruleParse_label spelled isChain writable asked
      (fun group member => flags group (List.mem_append_left _ member))
      (fun group member => flags group (List.mem_append_right _ member)), ← read]
    rfl

/-- A rule that logs what comes from a strange address on established flows. -/
def RuleRequest.logged : RuleRequest where
  operand
    | .protocol => some "UdP"
    | .source => some "-d"
    | .jump => some "LOG"
    | .module => some "NEW,ESTABLISHED"
    | _ => none
  label := some "-p icmp: "

/-- A label with what looks like flags stands among flags in another order than usual, one of them
with an operand that looks like a flag. -/
theorem ruleParse_logged :
    Rule.parse ("-A FORWARD --jump LOG --log-prefix \"-p icmp: \" --source -d --match " ++
        "conntrack --ctstate NEW,ESTABLISHED --protocol UdP") =
      .ok { Rule.wildcard with
        protocol := .udp, sourceAddress := some "-d", requireEstablished := true,
        action := some (.log "-p icmp: ") } := by
  have writable : RuleRequest.logged.Writable := by
    refine ⟨fun kind text asked => ?_, fun states asked => ?_, fun text asked => ?_,
      fun text asked => ?_⟩
    · cases kind <;> cases asked <;> decide +kernel
    all_goals
      cases asked
      decide +kernel
  have lists : RuleRequest.logged.Lists [.flag .jump "LOG", .label "-p icmp: ",
      .flag .source "-d", .flag .module "NEW,ESTABLISHED", .flag .protocol "UdP"] := by
    refine ⟨by decide +kernel, fun group => ?_⟩
    cases group with
    | label text => simp [RuleRequest.logged, RuleRequest.Asks, eq_comm]
    | flag kind operand => cases kind <;> simp [RuleRequest.logged, RuleRequest.Asks, eq_comm]
  have spelled : ∀ kind : RuleFlag, kind.spellings.getLastD "" ∈ kind.spellings := by
    intro kind
    cases kind <;> decide +kernel
  have isChain : isChainName "FORWARD" = true := by decide +kernel
  have upper : "UdP".toUpper = "UDP" := by decide +kernel
  have known : RuleRequest.logged.protocol = .ok .udp := by
    rw [RuleRequest.protocol, RuleRequest.logged]
    simp [upper]
  have outcome : RuleRequest.logged.outcome = .ok (RuleRequest.logged.rule .udp) := by
    rw [RuleRequest.outcome, known]
    rfl
  exact (ruleParse_flagLine isChain writable lists (List.cons_ne_nil _ _) spelled).trans outcome

end PacketFilter
