import PacketFilter.Proofs.FirstVerb
import PacketFilter.Proofs.Label

/-!
# Layout, comments and leading words

How the words of a line are set apart, what follows a comment mark, and what stands before the verb
have no part in the command that the line holds (`Command.parse_of_layout`). Only a label is read
from the characters of a line and not from its words, so the blanks of a line that has one do count.
-/
namespace PacketFilter

open Text

/-- The rule of a text that announces no label is read from its words. -/
theorem ruleParse_of_noLabel {text : String} (stripped : stripComment text = text)
    (absent : ¬ labelFlag <:+: text.toList) :
    Rule.parse text = if (wordsOf text).length < 3 then .error (.tooShort (wordsOf text).length)
      else readFlags "" ((wordsOf text).drop 2) .wildcard := by
  rw [Rule.parse, stripped, cutLabel_of_noLabel absent]
  dsimp only
  rw [String.ofList_toList]
  rfl

/-- The words before a line and a space are before the words of the line. -/
theorem wordsOf_stripComment_append_line {lead : String} (noComment : '#' ∉ lead.toList)
    (line : String) :
    wordsOf (stripComment (lead ++ " " ++ line)) =
      wordsOf lead ++ wordsOf (stripComment line) := by
  have isSpace : isBlank ' ' = true := by decide
  rw [stripComment_append_line noComment, stripComment]
  simp only [wordsOf, String.toList_ofList, words_trim, words_append_cons _ _ isSpace,
    List.map_append]

namespace Command

/-- Two texts with the same words hold the same command of a verb, if they hold the same rule. -/
theorem ofVerb_congr {text other : String} (verb : Verb) (words : wordsOf text = wordsOf other)
    (rules : Rule.parse text = Rule.parse other) : ofVerb verb text = ofVerb verb other := by
  rw [ofVerb.eq_def, ofVerb.eq_def, words, rules]

end Command

/-- The first verb of a line and its operands are what is left of the words behind those that spell
none. -/
theorem FirstVerb.dropWhile_eq {line word text : String} {before operands : List String}
    {verb : Verb} (cut : FirstVerb line before word operands text) (spelled : verb.Spelled word) :
    (wordsOf (stripComment line)).dropWhile (fun other => (Verb.ofWord? other).isNone) =
      word :: operands := by
  have passed : ∀ other ∈ before, (Verb.ofWord? other).isNone = true := by
    intro other member
    rw [Verb.ofWord?_eq_none_iff.2 (cut.first other member)]
    rfl
  have stops : ¬ (Verb.ofWord? word).isNone = true := by
    rw [Verb.ofWord?_eq_some_iff.2 spelled]
    exact Bool.false_ne_true
  rw [cut.words, List.dropWhile_append_of_pos passed]
  exact List.dropWhile_cons_of_neg stops

/-- The text from the first verb of a line on is a part of the line. -/
theorem FirstVerb.text_occurs {line word text : String} {before operands : List String}
    (cut : FirstVerb line before word operands text) :
    text.toList <:+: (stripComment line).toList := by
  obtain ⟨front, whole, -, -⟩ := cut.cut
  rw [whole, String.toList_append]
  exact (List.suffix_append _ _).isInfix

/-- A text announces a label if and only if one of its words does. -/
theorem labelFlag_infix_iff {text : String} :
    labelFlag <:+: text.toList ↔ ∃ word ∈ wordsOf text, labelFlag <:+: word.toList := by
  rw [solid_labelFlag.infix_iff]
  simp [wordsOf]

namespace Command

/-- Lines with the same words hold the same command, if they announce no label. -/
theorem parse_eq_of_words {line other : String}
    (words : wordsOf (stripComment line) = wordsOf (stripComment other))
    (absent : ¬ labelFlag <:+: (stripComment line).toList) : parse line = parse other := by
  rcases noVerb_or_exists_firstVerb line with
    free | ⟨before, word, operands, text, verb, cut, spelled⟩
  · rw [parse_of_noVerb free, parse_of_noVerb (words ▸ free)]
  rcases noVerb_or_exists_firstVerb other with
    free | ⟨beforeToo, wordToo, operandsToo, textToo, verbToo, cutToo, spelledToo⟩
  · have member : word ∈ wordsOf (stripComment other) := by
      rw [← words, cut.words]
      exact List.mem_append_right _ List.mem_cons_self
    exact absurd spelled (free word member verb)
  · have same : word :: operands = wordToo :: operandsToo := by
      rw [← cut.dropWhile_eq spelled, words, cutToo.dropWhile_eq spelledToo]
    have sameWords : wordsOf text = wordsOf textToo := by
      rw [cut.wordsOf_eq, cutToo.wordsOf_eq, same]
    obtain ⟨rfl, rfl⟩ := List.cons.inj same
    obtain rfl : verb = verbToo := Option.some.inj
      ((Verb.ofWord?_eq_some_iff.2 spelled).symm.trans (Verb.ofWord?_eq_some_iff.2 spelledToo))
    have absentText : ¬ labelFlag <:+: text.toList := fun within =>
      absent (within.trans cut.text_occurs)
    have absentTextToo : ¬ labelFlag <:+: textToo.toList := by
      rwa [labelFlag_infix_iff, ← sameWords, ← labelFlag_infix_iff]
    have rules : Rule.parse text = Rule.parse textToo := by
      rw [ruleParse_of_noLabel cut.stripComment_eq absentText,
        ruleParse_of_noLabel cutToo.stripComment_eq absentTextToo, sameWords]
    rw [parse_of_firstVerb cut spelled, parse_of_firstVerb cutToo spelledToo,
      ofVerb_congr verb sameWords rules]

/-- What stands before a line has no part in its command, if it starts no comment and has no
verb. -/
theorem parse_append_line {lead : String} (noComment : '#' ∉ lead.toList)
    (free : NoVerb (wordsOf lead)) (line : String) : parse (lead ++ " " ++ line) = parse line := by
  by_cases nothing : stripComment line = ""
  · have onlyLead : wordsOf (stripComment (lead ++ " " ++ line)) = wordsOf lead := by
      rw [wordsOf_stripComment_append_line noComment, nothing]
      exact List.append_nil _
    have freeWhole : NoVerb (wordsOf (stripComment (lead ++ " " ++ line))) := by
      rwa [onlyLead]
    have freeLine : NoVerb (wordsOf (stripComment line)) := by
      rw [nothing]
      exact List.forall_mem_nil _
    rw [parse_of_noVerb freeWhole, parse_of_noVerb freeLine]
  · obtain ⟨blanks, blank, behind⟩ := exists_stripComment_append_line nothing
    obtain ⟨closed, words⟩ := trimStart_append_blanks blank lead.toList
    have freeFront : VerbFree (trimStart (lead.toList ++ ' ' :: blanks)) := by
      rw [VerbFree, words]
      exact noVerb_wordsOf_iff.1 free
    rw [parse, behind lead noComment, String.toList_append, String.toList_ofList,
      findVerb_append freeFront closed, parse]

/-- The command of a line does not change with what follows a comment mark, with the layout of its
words unless one of them announces a label, or with words before it that spell no verb. -/
theorem parse_of_layout (line : String) :
    (∀ comment, parse (line ++ "#" ++ comment) = parse line) ∧
    (∀ other, wordsOf (stripComment line) = wordsOf (stripComment other) →
      ¬ labelFlag <:+: (stripComment line).toList → parse line = parse other) ∧
    ∀ lead : String, '#' ∉ lead.toList → NoVerb (wordsOf lead) →
      parse (lead ++ " " ++ line) = parse line := by
  refine ⟨fun comment => ?_, fun other => parse_eq_of_words, fun lead noComment free =>
    parse_append_line noComment free line⟩
  rw [parse, stripComment_append_comment, parse]

/-- A line with tabs, a comment and a word before it holds the same command as the plain one. -/
theorem parse_of_tabs :
    parse ("-A INPUT -p tcp" ++ "#" ++ " -A WEB") = parse "-A INPUT -p tcp" ∧
      parse "-A INPUT -p tcp" = parse "-A\tINPUT  -p\ttcp # web" ∧
      parse ("iptables -t filter" ++ " " ++ "-A INPUT -p tcp") = parse "-A INPUT -p tcp" := by
  obtain ⟨comment, layout, lead⟩ := parse_of_layout "-A INPUT -p tcp"
  have free : ∀ word ∈ wordsOf "iptables -t filter", Verb.ofWord? word = none := by
    decide +kernel
  exact ⟨comment " -A WEB", layout _ (by decide +kernel) (by decide +kernel),
    lead "iptables -t filter" (by decide +kernel) fun word member =>
      Verb.ofWord?_eq_none_iff.1 (free word member)⟩

end Command

end PacketFilter
