import Mathlib.Data.List.Infix
import PacketFilter.Proofs.FirstVerb
import PacketFilter.Proofs.RuleText
import PacketFilter.Proofs.Text.Decimal

/-!
# Lines that are taken apart into the words they were made of

A line is written as words that are joined by spaces, with a label at the end. If each of the words
stays one word, starts no comment and does not hold the flag that announces a label, the line is
taken apart into just these words, the verb is found at its start, and the label is cut out as it
was written. `Rule.Writable` says this of the words and the label of a rule.
-/
namespace PacketFilter

open Text

/-! ## What can be written -/

/-- A text that stays one word of a line, is no comment, and announces no label. -/
structure IsOperand (text : String) : Prop where
  /-- It is a single word. -/
  solid : Solid text.toList
  /-- It starts no comment. -/
  noComment : '#' ∉ text.toList
  /-- The flag that announces a label does not occur in it. -/
  noLabel : ¬ labelFlag <:+: text.toList

/-- All three conditions can be checked. -/
instance (text : String) : Decidable (IsOperand text) :=
  decidable_of_iff (Solid text.toList ∧ '#' ∉ text.toList ∧ ¬ labelFlag <:+: text.toList)
    ⟨fun ⟨solid, noComment, noLabel⟩ => ⟨solid, noComment, noLabel⟩,
      fun operand => ⟨operand.solid, operand.noComment, operand.noLabel⟩⟩

/-- Operands are single words. -/
theorem solid_of_isOperand {words : List String} (operands : ∀ word ∈ words, IsOperand word) :
    ∀ word ∈ words, Solid word.toList :=
  fun word member => (operands word member).solid

/-- A text is an operand if its characters are of a kind that is never blank and has neither the
mark of a comment nor a letter of the flag that announces a label. -/
theorem isOperand_of_forall {text : String} {kind : Char → Bool}
    (visible : ∀ char, kind char = true → isBlank char = false) (noComment : kind '#' = false)
    (noLetter : kind 'l' = false) (nonempty : text.toList ≠ [])
    (plain : ∀ char ∈ text.toList, kind char = true) : IsOperand text where
  solid := ⟨nonempty, fun char member => visible char (plain char member)⟩
  noComment member := Bool.false_ne_true (noComment.symm.trans (plain '#' member))
  noLabel within := by
    have letter : 'l' ∈ text.toList := within.subset (by decide)
    exact Bool.false_ne_true (noLetter.symm.trans (plain 'l' letter))

/-- A character of a chain name is not blank. -/
theorem isBlank_of_isNameChar {char : Char} (nameChar : isNameChar char = true) :
    isBlank char = false := by
  simp only [isNameChar, Bool.or_eq_true, Bool.and_eq_true, decide_eq_true_eq] at nameChar
  rcases nameChar with ((⟨least, greatest⟩ | ⟨least, greatest⟩) | rfl) | rfl
  · have low : 65 ≤ char.toNat := least
    have high : char.toNat ≤ 90 := greatest
    exact isBlank_of_visible (by omega) (by omega)
  · have low : 48 ≤ char.toNat := least
    have high : char.toNat ≤ 57 := greatest
    exact isBlank_of_visible (by omega) (by omega)
  · decide
  · decide

/-- The name of a chain is an operand. -/
theorem isOperand_of_isChainName {chain : String} (named : isChainName chain = true) :
    IsOperand chain := by
  cases chars : chain.toList with
  | nil => simp [isChainName, chars] at named
  | cons first rest =>
    obtain ⟨⟨⟨least, greatest⟩, -⟩, others⟩ : (('A' ≤ first ∧ first ≤ 'Z') ∧ 2 ≤ rest.length) ∧
        ∀ char ∈ rest, isNameChar char = true := by
      simpa [isChainName, chars] using named
    have nameChars : ∀ char ∈ chain.toList, isNameChar char = true := by
      rw [chars]
      intro char member
      rcases List.mem_cons.1 member with rfl | later
      · simp [isNameChar, least, greatest]
      · exact others char later
    exact isOperand_of_forall (fun _ => isBlank_of_isNameChar) (by decide) (by decide)
      (by simp [chars]) nameChars

/-- A numeral is an operand. -/
theorem isOperand_toString (number : Nat) : IsOperand (toString number) :=
  isOperand_of_forall (fun _ => isBlank_of_isDigit) (by decide) (by decide) (by simp)
    fun _ => isDigit_of_mem_toString

/-- Both spellings of a verb are operands. -/
theorem Verb.isOperand_spelling (verb : Verb) :
    IsOperand verb.flag ∧ IsOperand verb.longFlag := by
  cases verb <;> decide +kernel

/-- A verb in its short spelling, a chain and other operands are operands. -/
theorem isOperand_of_lead (verb : Verb) {chain : String} {others : List String}
    (named : isChainName chain = true) (operands : ∀ word ∈ others, IsOperand word) :
    ∀ word ∈ verb.flag :: chain :: others, IsOperand word :=
  List.forall_mem_cons.2 ⟨verb.isOperand_spelling.1,
    List.forall_mem_cons.2 ⟨isOperand_of_isChainName named, operands⟩⟩

/-- A rule whose text can be read back. Its label may hold all but a quote and a comment. -/
structure Rule.Writable (rule : Rule) : Prop where
  /-- The conditions are operands. -/
  field : ∀ text, some text ∈ rule.fields → IsOperand text
  /-- The chain that is asked is an operand. -/
  target : ∀ target, rule.action = some (.jump target) → IsOperand target
  /-- The chain that is asked is not named like another action. -/
  free : ∀ target, rule.action = some (.jump target) → target ∉ Action.builtIn
  /-- The label holds no quote. -/
  unquoted : ∀ label, rule.action = some (.log label) → '"' ∉ label.toList
  /-- The label starts no comment. -/
  noComment : ∀ label, rule.action = some (.log label) → '#' ∉ label.toList

/-- The name of a protocol is an operand. -/
theorem Protocol.isOperand_name (protocol : Protocol) : IsOperand protocol.name := by
  cases protocol <;> decide +kernel

/-- An action without its label is written as a word for an action that is built in, or as the chain
that it asks. -/
theorem Action.bare_text (action : Action) :
    action.bare.text ∈ builtIn ∨ action = .jump action.bare.text := by
  cases action with
  | jump target => exact .inr rfl
  | log label =>
    have word : "LOG" ∈ builtIn := by decide
    exact .inl word
  | accept | drop | reject => exact .inl (by decide)

/-- What is true of all words that rules are written with, of the names of protocols, and of the
conditions and the target of a rule is true of all its words. -/
theorem Rule.forall_mem_words_bare {rule : Rule} {holds : String → Prop}
    (isFixed : ∀ word ∈ flags ++ establishedWords ++ Action.builtIn, holds word)
    (isProtocol : ∀ protocol : Protocol, holds protocol.name)
    (field : ∀ text, some text ∈ rule.fields → holds text)
    (target : ∀ target, rule.action = some (.jump target) → holds target) :
    ∀ word ∈ rule.bare.words, holds word := by
  intro word member
  obtain ⟨group, inGroups, inGroup⟩ := List.mem_flatten.1 member
  rcases mem_groups inGroups with rfl | ⟨flag, text, pair, rfl⟩
  · exact isFixed word (by simp [inGroup])
  · have isText : some text ∈ (if rule.protocol = .any then none else some rule.protocol.name) ::
        (rule.fields ++ [rule.bare.action.map Action.text]) :=
      List.mem_map_of_mem (f := Prod.snd) pair
    rcases List.mem_pair.1 inGroup with rfl | rfl
    · exact isFixed word (by simp [mem_flags_of_mem_conditions pair])
    · rw [List.mem_cons, List.mem_append, List.mem_singleton, bare, Option.map_map] at isText
      rcases isText with protocol | isField | isAction
      · split at protocol
        · cases protocol
        · obtain rfl := Option.some.inj protocol
          exact isProtocol rule.protocol
      · exact field word isField
      · obtain ⟨action, acts, rfl⟩ := Option.map_eq_some_iff.1 isAction.symm
        rcases action.bare_text with isBuiltIn | jumps
        · exact isFixed _ (by simp [isBuiltIn])
        · exact target _ (acts.trans (congrArg some jumps))

/-- All words of a rule are operands: the flags, and what is written behind them. -/
theorem Rule.Writable.isOperand {rule : Rule} (writable : rule.Writable) :
    ∀ word ∈ rule.bare.words, IsOperand word :=
  rule.forall_mem_words_bare (by decide +kernel) Protocol.isOperand_name writable.field
    writable.target

/-- The label of a rule is empty or that of its log action. -/
theorem Rule.label_eq (rule : Rule) : rule.label = "" ∨ rule.action = some (.log rule.label) := by
  rw [label]
  cases rule.action with
  | none => exact .inl rfl
  | some action =>
    cases action with
    | log label => exact .inr rfl
    | accept | drop | reject | jump => exact .inl rfl

/-- The label of a rule holds no quote. -/
theorem Rule.Writable.not_quote_mem_label {rule : Rule} (writable : rule.Writable) :
    '"' ∉ rule.label.toList := by
  rcases rule.label_eq with empty | isLabel
  · simp [empty]
  · exact writable.unquoted rule.label isLabel

/-- The label of a rule starts no comment. -/
theorem Rule.Writable.not_comment_mem_label {rule : Rule} (writable : rule.Writable) :
    '#' ∉ rule.label.toList := by
  rcases rule.label_eq with empty | isLabel
  · simp [empty]
  · exact writable.noComment rule.label isLabel

/-- What is written of a label starts a comment only if the label does. -/
theorem not_comment_mem_labelText {label : String} (noComment : '#' ∉ label.toList) :
    '#' ∉ (labelText label).toList := by
  by_cases empty : label = ""
  · simp [labelText, empty]
  · have noFlag : '#' ∉ labelFlag := by decide
    simp [toList_labelText empty, noFlag, noComment]

/-! ## Lines of words -/

/-- Words joined by spaces, with a label after them. -/
def written (words : List String) (label : String) : String :=
  " ".intercalate words ++ labelText label

/-- Without a label a line has just the words. -/
theorem written_empty (words : List String) : written words "" = " ".intercalate words := by
  rw [written, labelText, if_pos rfl, String.append_empty]

/-- The characters of a line of words. -/
theorem toList_written (words : List String) (label : String) :
    (written words label).toList =
      [' '].intercalate (words.map String.toList) ++ (labelText label).toList := by
  rw [written, String.toList_append, String.toList_intercalate]
  rfl

/-- A line of words starts with the first of them, and what follows it starts with a blank. -/
theorem exists_toList_written (word : String) (rest : List String) (label : String) :
    ∃ after, (written (word :: rest) label).toList = word.toList ++ after ∧
      ∀ char ∈ after.head?, isBlank char = true := by
  rw [toList_written]
  cases rest with
  | nil =>
    rw [List.map_cons, List.map_nil, List.intercalate_singleton]
    exact ⟨_, rfl, fun _ => isBlank_of_head?_labelText⟩
  | cons next others =>
    rw [List.map_cons, List.map_cons, List.intercalate_cons_cons, List.append_assoc,
      List.append_assoc]
    exact ⟨_, rfl, isBlank_of_head?_space _⟩

section Words

variable {words : List String} {label : String} (solid : ∀ word ∈ words, Solid word.toList)

include solid

/-- Words that are joined by spaces are taken apart again. -/
theorem words_intercalate_of_solid :
    Text.words ([' '].intercalate (words.map String.toList)) = words.map String.toList := by
  rw [words_intercalate]
  induction words with
  | nil => rfl
  | cons word rest ih =>
    obtain ⟨first, behind⟩ := List.forall_mem_cons.1 solid
    rw [List.map_cons, List.flatMap_cons, first.words_eq, ih behind, List.singleton_append]

/-- The words of a line that starts with words are these and those of what follows them. -/
theorem wordsOf_of_toList_eq {line : String} {rest : List Char}
    (isLine : line.toList = [' '].intercalate (words.map String.toList) ++ rest)
    (opens : ∀ char ∈ rest.head?, isBlank char = true) :
    wordsOf line = words ++ wordsOf (String.ofList rest) := by
  have back : String.ofList ∘ String.toList = id := funext fun _ => String.ofList_toList
  rw [wordsOf, isLine, words_append _ opens, List.map_append,
    words_intercalate_of_solid solid, List.map_map, back, List.map_id, wordsOf,
    String.toList_ofList]

/-- The words of a line are those that it was made of, and perhaps those of its label. -/
theorem wordsOf_written : wordsOf (written words label) = words ++ wordsOf (labelText label) := by
  have read := wordsOf_of_toList_eq solid (toList_written words label) fun _ =>
    isBlank_of_head?_labelText
  rwa [String.ofList_toList] at read

end Words

section Lines

variable {words : List String} {label : String} (operands : ∀ word ∈ words, IsOperand word)
  (noComment : '#' ∉ label.toList)

include operands

/-- The flag that announces a label does not occur among words that are operands. -/
theorem not_labelFlag_infix_intercalate :
    ¬ labelFlag <:+: [' '].intercalate (words.map String.toList) := by
  intro within
  obtain ⟨word, member, occurs⟩ := solid_labelFlag.exists_word_of_infix within
  rw [words_intercalate_of_solid (solid_of_isOperand operands)] at member
  obtain ⟨operand, isWord, rfl⟩ := List.mem_map.1 member
  exact (operands operand isWord).noLabel occurs

include noComment in
/-- A line of words holds no comment. -/
theorem not_comment_mem_written : '#' ∉ (written words label).toList := by
  rw [toList_written, List.mem_append]
  rintro (within | within)
  · obtain ⟨part, member, inside⟩ := exists_mem_of_mem_intercalate within (by decide)
    obtain ⟨operand, isWord, rfl⟩ := List.mem_map.1 member
    exact (operands operand isWord).noComment inside
  · exact not_comment_mem_labelText noComment within

/-- A line of words starts with the first of them. -/
theorem not_blank_of_head?_written (nonempty : words ≠ []) :
    ∀ char ∈ (written words label).toList.head?, isBlank char = false := by
  obtain ⟨word, rest, rfl⟩ := List.exists_cons_of_ne_nil nonempty
  have solid := (operands word List.mem_cons_self).solid
  obtain ⟨after, same, -⟩ := exists_toList_written word rest label
  intro char first
  rw [same, List.head?_append_of_ne_nil _ solid.nonempty] at first
  exact solid.plain char (List.mem_of_head? first)

/-- A line of words ends with the last of them or with the quote that closes its label. -/
theorem endsSolid_written (nonempty : words ≠ []) : EndsSolid (written words label).toList := by
  rw [toList_written]
  by_cases empty : label = ""
  · have ends : ∀ part ∈ words.map String.toList, EndsSolid part := by
      intro part member
      obtain ⟨operand, isWord, rfl⟩ := List.mem_map.1 member
      exact (operands operand isWord).solid.endsSolid
    have noLabel : (labelText label).toList = [] := by simp [labelText, empty]
    rw [noLabel, List.append_nil]
    exact endsSolid_intercalate (by simpa using nonempty) ends
  · have closed : EndsSolid ['"'] := ⟨'"', rfl, by decide⟩
    have shape : (labelText label).toList =
        (' ' :: labelFlag ++ ' ' :: '"' :: label.toList) ++ ['"'] := by
      simp [toList_labelText empty]
    rw [shape]
    exact (closed.append _).append _

include noComment in
/-- Nothing is stripped from a line of words. -/
theorem stripComment_written (nonempty : words ≠ []) :
    stripComment (written words label) = written words label := by
  have trimmed : Trimmed (written words label).toList :=
    ⟨not_blank_of_head?_written operands nonempty, (endsSolid_written operands nonempty).not_blank⟩
  exact stripComment_of_trimmed trimmed (not_comment_mem_written operands noComment)

end Lines

/-- The rule of a line that starts with words is read from those behind the verb and the chain, and
from what follows the words. -/
theorem ruleParse_append {line verb chain : String} {others : List String} {rest : List Char}
    (isLine : line.toList =
      [' '].intercalate ((verb :: chain :: others).map String.toList) ++ rest)
    (stripped : stripComment line = line)
    (operands : ∀ word ∈ verb :: chain :: others, IsOperand word)
    (opens : ∀ char ∈ rest.head?, isBlank char = true) (more : others ≠ [] ∨ words rest ≠ []) :
    Rule.parse line = readFlags (String.ofList ((cutLabel rest).2.getD []))
      (others ++ wordsOf (String.ofList (cutLabel rest).1)) .wildcard := by
  have count : ¬ (wordsOf line).length < 3 := by
    have atLeast : 0 < others.length + (wordsOf (String.ofList rest)).length := by
      rcases more with some | some
      · exact Nat.add_pos_left (List.length_pos_iff.2 some) _
      · rw [wordsOf, String.toList_ofList, List.length_map]
        exact Nat.add_pos_right _ (List.length_pos_iff.2 some)
    rw [wordsOf_of_toList_eq (solid_of_isOperand operands) isLine opens, List.length_append,
      List.length_cons, List.length_cons]
    omega
  have cut : cutLabel line.toList =
      ([' '].intercalate ((verb :: chain :: others).map String.toList) ++ (cutLabel rest).1,
        (cutLabel rest).2) := by
    rw [isLine]
    exact cutLabel_append (not_labelFlag_infix_intercalate operands) opens
  have behind : (wordsOf (String.ofList (cutLabel line.toList).1)).drop 2 =
      others ++ wordsOf (String.ofList (cutLabel rest).1) := by
    rw [cut, wordsOf_of_toList_eq (solid_of_isOperand operands) String.toList_ofList
      (isBlank_of_head?_cutLabel opens)]
    rfl
  rw [Rule.parse, stripped]
  dsimp only
  rw [if_neg count, behind, cut]

/-- The rule of a line of words is read from those behind the verb and the chain. -/
theorem ruleParse_written {verb chain label : String} {rest : List String}
    (operands : ∀ word ∈ verb :: chain :: rest, IsOperand word)
    (noComment : '#' ∉ label.toList) (unquoted : '"' ∉ label.toList) (more : rest ≠ []) :
    Rule.parse (written (verb :: chain :: rest) label) = readFlags label rest .wildcard := by
  have stripped : stripComment (written (verb :: chain :: rest) label) =
      written (verb :: chain :: rest) label :=
    stripComment_written operands noComment (List.cons_ne_nil _ _)
  obtain ⟨noWords, sameLabel⟩ := cutLabel_labelText unquoted
  rw [ruleParse_append (toList_written _ label) stripped operands
    (fun _ => isBlank_of_head?_labelText) (.inl more), sameLabel, String.ofList_toList, wordsOf,
    String.toList_ofList, noWords, List.map_nil, List.append_nil]

/-- The verb at the start of a line of words is found. -/
theorem findVerb_written {word : String} {verb : Verb} (spelled : Verb.ofWord? word = some verb)
    (solid : Solid word.toList) (rest : List String) (label : String) :
    findVerb true (written (word :: rest) label).toList =
      some (verb, (written (word :: rest) label).toList) := by
  obtain ⟨after, same, blank⟩ := exists_toList_written word rest label
  have read : Verb.ofWord? (String.ofList word.toList) = some verb := by
    rwa [String.ofList_toList]
  rw [same]
  exact findVerb_verb_append solid blank read

end PacketFilter
