import PacketFilter.Proofs.ParsedRules
import PacketFilter.Proofs.WrittenLine

/-!
# Rules that are told apart by their texts

Different rules have different texts if their conditions and the chains that they ask are words,
whatever the words look like and whatever a label holds (`Rule.text_eq_text_iff`). Each condition is
written as words of which the first one tells how many there are, and none of them starts like an
action, so the words of a text can be cut into the conditions in one way only. What follows the words
is the label.
-/
namespace PacketFilter

open Text

/-- The conditions of a rule are words, and so is the chain that it asks, which is not named like
another action. Its label may be any text. -/
structure Rule.Worded (rule : Rule) : Prop where
  /-- The conditions are words. -/
  field : ∀ text, some text ∈ rule.fields → Solid text.toList
  /-- The chain that is asked is a word. -/
  target : ∀ target, rule.action = some (.jump target) → Solid target.toList
  /-- The chain that is asked is not named like another action. -/
  free : ∀ target, rule.action = some (.jump target) → target ∉ Action.builtIn

/-- The words and the label of a well formed rule are of this kind. -/
theorem Rule.WellFormed.worded {rule : Rule} (wellFormed : rule.WellFormed) : rule.Worded where
  field text member := (wellFormed.field text member).solid
  target target jumps := (wellFormed.target target jumps).1.solid
  free target jumps := (wellFormed.target target jumps).2

/-! ## Conditions -/

/-- The words of one condition: a flag that is not that of an action with its operand, or the words
that ask for established flows. -/
inductive ConditionGroup : List String → Prop
  /-- A flag with its operand. -/
  | operand {flag text : String} (noModule : flag ≠ "-m") (noAction : flag ≠ "-j") :
      ConditionGroup [flag, text]
  /-- The words that ask for established flows. -/
  | established : ConditionGroup establishedWords

/-- The words of each condition of a rule are those of one condition. -/
theorem conditionGroup_of_mem {rule : Rule} {group : List String}
    (member : group ∈ rule.conditionGroups) : ConditionGroup group := by
  rw [Rule.conditionGroups, List.mem_append, List.mem_flatMap] at member
  rcases member with ⟨⟨flag, operand⟩, within, inside⟩ | established
  · obtain ⟨text, rfl, rfl⟩ : ∃ text, operand = some text ∧ [flag, text] = group := by
      simpa [flagGroup] using inside
    have isFlag : flag ∈ ["-p", "-s", "--sport", "-d", "--dport", "-i", "-o"] :=
      List.mem_map_of_mem (f := Prod.fst) within
    have others : ∀ flag ∈ ["-p", "-s", "--sport", "-d", "--dport", "-i", "-o"],
        flag ≠ "-m" ∧ flag ≠ "-j" := by
      decide
    exact .operand (others flag isFlag).1 (others flag isFlag).2
  · split at established
    · obtain rfl := List.mem_singleton.1 established
      exact .established
    · exact absurd established List.not_mem_nil

/-- Words that start with a condition do not start like an action. -/
theorem ConditionGroup.not_action {group rest : List String} (isGroup : ConditionGroup group) :
    ¬ ∀ word ∈ (group ++ rest).head?, word = "-j" := by
  intro acts
  cases isGroup with
  | operand _ noAction => exact noAction (acts _ rfl)
  | established => exact absurd (acts _ rfl) (by decide)

/-- If words start with a condition, they start with no other one. -/
theorem ConditionGroup.append_inj {left right rest other : List String}
    (isLeft : ConditionGroup left) (isRight : ConditionGroup right)
    (same : left ++ rest = right ++ other) : left = right ∧ rest = other := by
  cases isLeft with
  | operand noModule =>
    cases isRight with
    | operand => exact List.append_inj same rfl
    | established => exact absurd (List.cons.inj same).1 noModule
  | established =>
    cases isRight with
    | operand noModule => exact absurd (List.cons.inj same).1.symm noModule
    | established => exact List.append_inj same rfl

/-- Words that start with conditions, and then perhaps with an action, start with no other
conditions before it. -/
theorem flatten_append_inj {left right : List (List String)} {rest other : List String}
    (isLeft : ∀ group ∈ left, ConditionGroup group)
    (isRight : ∀ group ∈ right, ConditionGroup group)
    (acts : ∀ word ∈ rest.head?, word = "-j") (actsToo : ∀ word ∈ other.head?, word = "-j")
    (same : left.flatten ++ rest = right.flatten ++ other) : left = right ∧ rest = other := by
  induction left generalizing right with
  | nil =>
    cases right with
    | nil => exact ⟨rfl, same⟩
    | cons group groups =>
      have starts : rest = group ++ (groups.flatten ++ other) := same.trans (List.append_assoc ..)
      exact absurd (starts ▸ acts) (isRight _ List.mem_cons_self).not_action
  | cons group groups ih =>
    obtain ⟨isGroup, areGroups⟩ := List.forall_mem_cons.1 isLeft
    cases right with
    | nil =>
      have starts : other = group ++ (groups.flatten ++ rest) :=
        same.symm.trans (List.append_assoc ..)
      exact absurd (starts ▸ actsToo) isGroup.not_action
    | cons next others =>
      obtain ⟨isNext, areOthers⟩ := List.forall_mem_cons.1 isRight
      rw [List.flatten_cons, List.flatten_cons, List.append_assoc, List.append_assoc] at same
      obtain ⟨rfl, behind⟩ := isGroup.append_inj isNext same
      obtain ⟨rfl, rests⟩ := ih areGroups areOthers behind
      exact ⟨rfl, rests⟩

/-! ## Labels -/

/-- Different labels are written differently. -/
theorem labelText_injective : Function.Injective labelText := by
  intro label other same
  have chars := congrArg String.toList same
  by_cases empty : label = "" <;> by_cases emptyToo : other = ""
  · rw [empty, emptyToo]
  · rw [toList_labelText emptyToo, empty] at chars
    cases chars
  · rw [toList_labelText empty, emptyToo] at chars
    cases chars
  · rw [toList_labelText empty, toList_labelText emptyToo] at chars
    exact String.toList_inj.1 (by simpa using chars)

/-! ## Rules -/

namespace Rule

variable {rule other : Rule}

/-- The words of the action of a rule without its label. -/
def actionWords (rule : Rule) : List String :=
  (flagGroup "-j" (rule.bare.action.map Action.text)).flatten

/-- The words of a rule are those of its conditions and of its action. -/
theorem words_bare (rule : Rule) :
    rule.bare.words = rule.conditionGroups.flatten ++ rule.actionWords := by
  rw [words, groups, List.flatten_append]
  rfl

/-- A rule without words for an action has no label, and the others have a word behind the flag. -/
theorem actionWords_eq (rule : Rule) :
    (rule.actionWords = [] ∧ rule.label = "") ∨ ∃ word, rule.actionWords = ["-j", word] := by
  rw [actionWords, label, bare]
  cases rule.action with
  | none => exact .inl ⟨rfl, rfl⟩
  | some action => exact .inr ⟨action.bare.text, rfl⟩

/-- What follows the conditions of a rule starts with the flag of the action, if there is anything. -/
theorem head?_actionWords (rule : Rule) :
    ∀ word ∈ (rule.actionWords ++ wordsOf (labelText rule.label)).head?, word = "-j" := by
  intro word first
  rcases rule.actionWords_eq with ⟨nothing, noLabel⟩ | ⟨operand, acts⟩
  · have empty : wordsOf (labelText "") = [] := by decide
    rw [nothing, noLabel, empty] at first
    cases first
  · rw [acts] at first
    exact (Option.some.inj first).symm

/-- The words of the text of a rule are those that are written before its label, and those of the
label. -/
theorem Worded.wordsOf_text (worded : rule.Worded) :
    wordsOf rule.text = rule.bare.words ++ wordsOf (labelText rule.label) := by
  have solid : ∀ word ∈ rule.bare.words, Solid word.toList :=
    rule.forall_mem_words_bare (by decide +kernel)
      (fun protocol => protocol.isOperand_name.solid) worded.field worded.target
  rw [text_eq]
  exact wordsOf_written solid

/-- Rules whose texts have the same words have the same words before their labels. -/
theorem words_bare_eq (same : rule.bare.words ++ wordsOf (labelText rule.label) =
    other.bare.words ++ wordsOf (labelText other.label)) : rule.bare.words = other.bare.words := by
  rw [words_bare, words_bare, List.append_assoc, List.append_assoc] at same
  obtain ⟨conditions, behind⟩ := flatten_append_inj (fun _ => conditionGroup_of_mem)
    (fun _ => conditionGroup_of_mem) rule.head?_actionWords other.head?_actionWords same
  have actions : rule.actionWords = other.actionWords := by
    have empty : wordsOf (labelText "") = [] := by decide
    rcases rule.actionWords_eq with ⟨nothing, noLabel⟩ | ⟨word, acts⟩ <;>
      rcases other.actionWords_eq with ⟨nothingToo, noLabelToo⟩ | ⟨wordToo, actsToo⟩
    · rw [nothing, nothingToo]
    · rw [nothing, noLabel, empty, actsToo] at behind
      cases behind
    · rw [nothingToo, noLabelToo, empty, acts] at behind
      cases behind
    · rw [acts, actsToo] at behind ⊢
      exact (List.append_inj behind rfl).1
  rw [words_bare, words_bare, conditions, actions]

/-- Every rule that is read from a line has words for conditions and for the chain that it asks. Two
rules of this kind are written alike exactly if they are equal, with any labels and with words that
look like flags. -/
theorem text_eq_text_iff :
    (∀ {line : String} {rule : Rule}, Rule.parse line = .ok rule → rule.Worded) ∧
      ∀ {rule other : Rule}, rule.Worded → other.Worded →
        (rule.text = other.text ↔ rule = other) := by
  refine ⟨fun parsed => (wellFormed_of_parse parsed).worded,
    fun {rule other} worded wordedToo => ?_⟩
  constructor
  · intro same
    have words : rule.bare.words = other.bare.words :=
      words_bare_eq (by rw [← worded.wordsOf_text, same, wordedToo.wordsOf_text])
    have labels : rule.label = other.label := by
      rw [text_eq, text_eq, words] at same
      exact labelText_injective ((String.append_right_inj _).1 same)
    -- The words and the label are read as one rule.
    have read := readFlags_words worded.free
    rw [words, labels, readFlags_words wordedToo.free] at read
    exact (Except.ok.inj read).symm
  · exact congrArg text

/-- A line with operands and a label that look like flags. -/
def flagLikeLine : String := "-A WEB -s -d -d -s -j LOG --log-prefix \"-j DROP\""

/-- The rule of this line. -/
def flagLikeRule : Rule :=
  { wildcard with
    sourceAddress := some "-d", destinationAddress := some "-s", action := some (.log "-j DROP") }

/-- A rule with one of its conditions, and with a label that looks like the other one. -/
def flagLikeRuleToo : Rule :=
  { wildcard with sourceAddress := some "-d", action := some (.log "-d -s\" # -j DROP") }

/-- The two rules are written differently. -/
theorem text_flagLikeRule_ne :
    flagLikeRule.Worded ∧ flagLikeRuleToo.Worded ∧ flagLikeRule.text ≠ flagLikeRuleToo.text := by
  obtain ⟨ofParsed, apart⟩ := text_eq_text_iff
  have parsed : Rule.parse flagLikeLine = .ok flagLikeRule := by decide +kernel
  have wordedToo : flagLikeRuleToo.Worded := by
    refine ⟨fun text member => ?_, fun _ jumps => ?_, fun _ jumps => ?_⟩
    · obtain rfl : text = "-d" := by simpa [flagLikeRuleToo, fields, wildcard] using member
      decide
    · cases jumps
    · cases jumps
  have differs : flagLikeRule ≠ flagLikeRuleToo := by decide
  have worded := ofParsed parsed
  exact ⟨worded, wordedToo, fun same => differs ((apart worded wordedToo).1 same)⟩

end Rule

end PacketFilter
