import PacketFilter.Proofs.WrittenLine

/-!
# Commands that are read back from their text

A command that holds a rule is written as a line of words: a verb in either spelling, a chain,
perhaps a position, and the words of the rule. Each of these is read back from the line, so the
command is (`parse_rule_text`).
-/
namespace PacketFilter

open Text

/-- A word that spells a flag of a rule starts with a dash. -/
theorem RuleFlag.head?_of_ofWord? {word : String} {flag : RuleFlag}
    (spelled : ofWord? word = some flag) : word.toList.head? = some '-' := by
  have allDashed : ∀ flag ∈ all, ∀ word ∈ flag.spellings, word.toList.head? = some '-' := by
    decide +kernel
  rw [ofWord?] at spelled
  have spelling : word ∈ flag.spellings := by simpa using List.find?_some spelled
  exact allDashed flag (List.mem_of_find?_eq_some spelled) word spelling

/-- A numeral spells no flag of a rule. -/
theorem RuleFlag.ofWord?_toString (number : Nat) : ofWord? (toString number) = none := by
  cases spelled : ofWord? (toString number) with
  | none => rfl
  | some flag =>
    have dash := List.mem_of_head? (head?_of_ofWord? spelled)
    exact absurd (isDigit_of_mem_toString dash) (by decide)

namespace Command

/-- The command of a line of words is that of its verb. -/
theorem parse_written {verb : Verb} {word : String} {rest : List String} {label : String}
    (spelled : Verb.ofWord? word = some verb)
    (operands : ∀ other ∈ word :: rest, IsOperand other) (noComment : '#' ∉ label.toList) :
    parse (written (word :: rest) label) =
      some <$> ofVerb verb (written (word :: rest) label) := by
  have solid := (operands word List.mem_cons_self).solid
  rw [parse, stripComment_written operands noComment (List.cons_ne_nil word rest),
    findVerb_written spelled solid]
  dsimp only
  rw [String.ofList_toList]

/-- A line with a rule: a verb, a chain, perhaps a position, and the rule. -/
def line (word chain : String) (position : Option Nat) (rule : Rule) : String :=
  written (word :: chain :: (position.map toString).toList ++ rule.bare.words) rule.label

/-- A line with a rule ends with the text of the rule. -/
theorem line_eq {rule : Rule} (nontrivial : rule ≠ .wildcard) (word chain : String)
    (position : Option Nat) :
    line word chain position rule =
      " ".intercalate (word :: chain :: (position.map toString).toList) ++ " " ++ rule.text := by
  obtain ⟨first, rest, words, -⟩ := Rule.exists_words nontrivial
  have more : rule.bare.words ≠ [] := by simp [words]
  rw [line, written, String.intercalate_append_of_ne_nil (List.cons_ne_nil _ _) more,
    String.append_assoc, ← rule.text_eq]

section Line

variable {chain word : String} {rule : Rule} (named : isChainName chain = true)
  (writable : rule.Writable) (isVerb : IsOperand word) (position : Option Nat)

include named writable isVerb

/-- All words of a line with a rule are operands. -/
theorem isOperand_line :
    ∀ other ∈ word :: chain :: (position.map toString).toList ++ rule.bare.words,
      IsOperand other := by
  intro other member
  rcases List.mem_append.1 member with before | inRule
  · rcases List.mem_cons.1 before with rfl | before
    · exact isVerb
    rcases List.mem_cons.1 before with rfl | numeral
    · exact isOperand_of_isChainName named
    obtain ⟨number, -, rfl⟩ : ∃ number, position = some number ∧ toString number = other := by
      simpa using numeral
    exact isOperand_toString number
  · exact writable.isOperand other inRule

/-- What follows the verb of a line with a rule. -/
theorem drop_wordsOf_line :
    (wordsOf (line word chain position rule)).drop 1 =
      chain :: ((position.map toString).toList ++ rule.bare.words ++
        wordsOf (labelText rule.label)) := by
  rw [line, wordsOf_written (solid_of_isOperand (isOperand_line named writable isVerb position))]
  rfl

/-- The chain of a line with a rule is read back. -/
theorem chainOperand_line (verb : Verb) :
    chainOperand verb ((wordsOf (line word chain position rule)).drop 1) = .ok chain := by
  rw [drop_wordsOf_line named writable isVerb, chainOperand, readChain, if_pos named]

/-- The position of a line with a rule is read back. -/
theorem indexOperand?_line (nontrivial : rule ≠ .wildcard)
    (fits : ∀ number, position = some number → number < wordLimit) :
    indexOperand? ((wordsOf (line word chain position rule)).drop 1) = .ok position := by
  rw [drop_wordsOf_line named writable isVerb]
  cases position with
  | none =>
    -- The word behind the chain is the first flag of the rule.
    obtain ⟨first, rest, words, notIndex⟩ := Rule.exists_words nontrivial
    simp only [words, Option.map_none, Option.toList_none, List.nil_append, List.cons_append,
      indexOperand?, notIndex, Bool.false_eq_true, if_false]
  | some number =>
    simp only [Option.map_some, Option.toList_some, List.cons_append, indexOperand?,
      isIndex_toString, if_true, readIndex_toString (fits number rfl)]
    rfl

/-- The rule of a line with a rule is read back, since a position spells no flag. -/
theorem ruleParse_line (nontrivial : rule ≠ .wildcard) :
    Rule.parse (line word chain position rule) = .ok rule := by
  obtain ⟨first, rest, isRule, -⟩ := Rule.exists_words nontrivial
  have more : (position.map toString).toList ++ rule.bare.words ≠ [] := by simp [isRule]
  have noFlags : ∀ other ∈ (position.map toString).toList, RuleFlag.ofWord? other = none := by
    intro other numeral
    obtain ⟨number, -, rfl⟩ : ∃ number, position = some number ∧ toString number = other := by
      simpa using numeral
    exact RuleFlag.ofWord?_toString number
  have read : Rule.parse (line word chain position rule) =
      readFlags rule.label ((position.map toString).toList ++ rule.bare.words) .wildcard :=
    ruleParse_written (isOperand_line named writable isVerb position)
      writable.not_comment_mem_label writable.not_quote_mem_label more
  rw [read, readFlags_append_of_noFlags noFlags, readFlags_words writable.free]

/-- The command of a line with a rule is that of its verb. -/
theorem parse_line {verb : Verb} (spelled : Verb.ofWord? word = some verb) :
    parse (line word chain position rule) =
      some <$> ofVerb verb (line word chain position rule) :=
  parse_written spelled (isOperand_line named writable isVerb position)
    writable.not_comment_mem_label

end Line

/-- A command that holds a rule is read back from its text, with either spelling of its verb. -/
theorem parse_rule_text {chain : String} {rule : Rule} (named : isChainName chain = true)
    (writable : rule.Writable) (nontrivial : rule ≠ .wildcard) (spelling : Verb → String)
    (spelled : spelling = Verb.flag ∨ spelling = Verb.longFlag) :
    parse (spelling .append ++ " " ++ chain ++ " " ++ rule.text) =
        .ok (some (.append chain rule)) ∧
      parse (spelling .delete ++ " " ++ chain ++ " " ++ rule.text) =
        .ok (some (.deleteMatching chain rule)) ∧
      ∀ position < wordLimit,
        parse (spelling .insert ++ " " ++ chain ++ " " ++ toString position ++ " " ++ rule.text) =
            .ok (some (.insert chain position rule)) ∧
          parse (spelling .replace ++ " " ++ chain ++ " " ++ toString position ++ " " ++
              rule.text) =
            .ok (some (.replace chain position rule)) := by
  have isVerb (verb : Verb) :
      Verb.ofWord? (spelling verb) = some verb ∧ IsOperand (spelling verb) := by
    rcases spelled with rfl | rfl
    · exact ⟨verb.ofWord?_flag.1, verb.isOperand_spelling.1⟩
    · exact ⟨verb.ofWord?_flag.2, verb.isOperand_spelling.2⟩
  have parsed (verb : Verb) (position : Option Nat) :=
    parse_line named writable (isVerb verb).2 position (isVerb verb).1
  have isChain (verb : Verb) (position : Option Nat) :=
    chainOperand_line named writable (isVerb verb).2 position verb
  have isRule (verb : Verb) (position : Option Nat) :=
    ruleParse_line named writable (isVerb verb).2 position nontrivial
  have isPosition (verb : Verb) (position : Option Nat) :=
    indexOperand?_line named writable (isVerb verb).2 position nontrivial
  have asLine (word : String) : word ++ " " ++ chain ++ " " ++ rule.text =
      line word chain none rule := by
    rw [line_eq nontrivial]
    rfl
  have asLineAt (word : String) (position : Nat) :
      word ++ " " ++ chain ++ " " ++ toString position ++ " " ++ rule.text =
        line word chain (some position) rule := by
    rw [line_eq nontrivial]
    rfl
  refine ⟨?append, ?delete, fun position fits => ⟨?insert, ?replace⟩⟩
  case append =>
    rw [asLine, parsed, ofVerb]
    simp only [isChain, isRule]
    rfl
  case delete =>
    rw [asLine, parsed, ofVerb]
    simp only [isChain, isRule, isPosition .delete none (by simp)]
    rfl
  case insert =>
    rw [asLineAt, parsed, ofVerb]
    simp only [isChain, isRule, isPosition .insert (some position) (by simpa using fits)]
    rfl
  case replace =>
    rw [asLineAt, parsed, ofVerb]
    simp only [isChain, isRule, isPosition .replace (some position) (by simpa using fits)]
    rfl

/-- A rule with flags for operands and with a verb and a flag in its label. -/
def flagsRule : Rule where
  protocol := .tcp
  sourceAddress := some "-j"
  destinationAddress := none
  sourcePort := none
  destinationPort := some "--dport"
  inInterface := none
  outInterface := some "-m"
  action := some (.log "-A --log-prefix x")
  requireEstablished := true

/-- The text of such a rule can be read back. -/
theorem flagsRule_writable : flagsRule.Writable where
  field text member := by
    have allOperands : ∀ field ∈ flagsRule.fields, ∀ text ∈ field, IsOperand text := by
      decide +kernel
    exact allOperands (some text) member text rfl
  target _ jumps := by cases jumps
  free _ jumps := by cases jumps
  unquoted _ isLog := by
    cases isLog
    decide +kernel
  noComment _ isLog := by
    cases isLog
    decide +kernel

/-- The rule is added at the end with a long verb, and put at the last position there is. -/
theorem parse_flagsRule :
    parse ("--append INPUT -p tcp -s -j --dport --dport -o -m -m conntrack " ++
        "--ctstate ESTABLISHED -j LOG --log-prefix \"-A --log-prefix x\"") =
      .ok (some (.append "INPUT" flagsRule)) ∧
    parse ("--replace INPUT 18446744073709551615 -p tcp -s -j --dport --dport -o -m " ++
        "-m conntrack --ctstate ESTABLISHED -j LOG --log-prefix \"-A --log-prefix x\"") =
      .ok (some (.replace "INPUT" 18446744073709551615 flagsRule)) := by
  have named : isChainName "INPUT" = true := by decide +kernel
  obtain ⟨appended, -, atPosition⟩ := parse_rule_text named flagsRule_writable
    (by decide +kernel) Verb.longFlag (.inr rfl)
  have replaced := (atPosition 18446744073709551615 (by decide)).2
  have appendLine : "--append INPUT -p tcp -s -j --dport --dport -o -m -m conntrack " ++
      "--ctstate ESTABLISHED -j LOG --log-prefix \"-A --log-prefix x\"" =
        Verb.longFlag .append ++ " " ++ "INPUT" ++ " " ++ flagsRule.text := by
    decide +kernel
  have replaceLine : "--replace INPUT 18446744073709551615 -p tcp -s -j --dport --dport -o -m " ++
      "-m conntrack --ctstate ESTABLISHED -j LOG --log-prefix \"-A --log-prefix x\"" =
        Verb.longFlag .replace ++ " " ++ "INPUT" ++ " " ++ toString 18446744073709551615 ++ " " ++
          flagsRule.text := by
    decide +kernel
  rw [appendLine, replaceLine]
  exact ⟨appended, replaced⟩

end Command

end PacketFilter
