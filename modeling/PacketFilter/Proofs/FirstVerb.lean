import Mathlib.Data.List.Basic
import PacketFilter.Proofs.Text.Words

/-!
# The first verb of a line

A line is searched for its first word that spells a verb, and its command is read from the text that
starts at that word. `FirstVerb` says which words and which text these are, and a line has them
unless none of its words spells a verb (`noVerb_or_exists_firstVerb`). What stands before the verb
has no part in the command (`Command.parse_of_firstVerb`).
-/
namespace PacketFilter

open Text

/-- A word is one of the two spellings of a verb. -/
def Verb.Spelled (verb : Verb) (word : String) : Prop := word = verb.flag ∨ word = verb.longFlag

/-- A word is read as the verb that it is a spelling of. -/
theorem Verb.ofWord?_eq_some_iff {verb : Verb} {word : String} :
    ofWord? word = some verb ↔ verb.Spelled word := by
  constructor
  · intro spelled
    simpa [Spelled] using List.find?_some spelled
  · rintro (rfl | rfl)
    · exact verb.ofWord?_flag.1
    · exact verb.ofWord?_flag.2

/-- None of some words is a spelling of a verb. -/
def NoVerb (words : List String) : Prop := ∀ word ∈ words, ∀ verb : Verb, ¬ verb.Spelled word

/-- A word that is no spelling of a verb is read as none. -/
theorem Verb.ofWord?_eq_none_iff {word : String} :
    ofWord? word = none ↔ ∀ verb : Verb, ¬ verb.Spelled word := by
  constructor
  · intro other verb spelled
    rw [ofWord?_eq_some_iff.2 spelled] at other
    cases other
  · intro other
    cases read : ofWord? word with
    | none => rfl
    | some verb => exact absurd (ofWord?_eq_some_iff.1 read) (other verb)

/-! ## Searching characters -/

/-- A text that starts with a blank, or has nothing, is searched from the next word on. -/
theorem findVerb_false_of_opens {text : List Char}
    (opens : ∀ char ∈ text.head?, isBlank char = true) :
    findVerb false text = findVerb true text := by
  cases text with
  | nil => rfl
  | cons char rest =>
    have isMark : isBlank char = true := opens char rfl
    rw [findVerb, findVerb, if_pos isMark, if_pos isMark]

/-- The rest of a word is passed over. -/
theorem findVerb_false_append {part : List Char} (plain : ∀ char ∈ part, isBlank char = false)
    (rest : List Char) : findVerb false (part ++ rest) = findVerb false rest := by
  induction part with
  | nil => rfl
  | cons char others ih =>
    have visible : ¬ isBlank char = true := by simp [plain char List.mem_cons_self]
    have later := ih fun other member => plain other (List.mem_cons_of_mem _ member)
    rw [List.cons_append, findVerb, if_neg visible]
    exact later

/-- Blanks are passed over. -/
theorem findVerb_blanks_append {blanks : List Char} (blank : AllBlank blanks) (rest : List Char) :
    findVerb true (blanks ++ rest) = findVerb true rest := by
  induction blanks with
  | nil => rfl
  | cons char others ih =>
    have isMark : isBlank char = true := blank char List.mem_cons_self
    rw [List.cons_append, findVerb, if_pos isMark,
      ih fun other member => blank other (List.mem_cons_of_mem _ member)]

section Word

variable {word rest : List Char} (solid : Solid word)
  (opens : ∀ char ∈ rest.head?, isBlank char = true)
include solid opens

/-- A word that spells a verb is found. -/
theorem findVerb_verb_append {verb : Verb}
    (spelled : Verb.ofWord? (String.ofList word) = some verb) :
    findVerb true (word ++ rest) = some (verb, word ++ rest) := by
  have first := takeWhile_word_append solid opens
  obtain ⟨char, chars, rfl⟩ := List.exists_cons_of_ne_nil solid.nonempty
  have visible : isBlank char = false := solid.plain char List.mem_cons_self
  rw [List.cons_append] at first
  rw [List.cons_append, findVerb, visible, if_neg Bool.false_ne_true, if_pos rfl, first, spelled]

/-- A word that spells no verb is passed over. -/
theorem findVerb_word_append (other : Verb.ofWord? (String.ofList word) = none) :
    findVerb true (word ++ rest) = findVerb true rest := by
  have first := takeWhile_word_append solid opens
  obtain ⟨char, chars, rfl⟩ := List.exists_cons_of_ne_nil solid.nonempty
  have visible : isBlank char = false := solid.plain char List.mem_cons_self
  have inside : ∀ char ∈ chars, isBlank char = false := fun other member =>
    solid.plain other (List.mem_cons_of_mem _ member)
  rw [List.cons_append] at first
  rw [List.cons_append, findVerb, visible, if_neg Bool.false_ne_true, if_pos rfl, first, other]
  exact (findVerb_false_append inside rest).trans (findVerb_false_of_opens opens)

end Word

/-- No word of a text spells a verb. -/
def VerbFree (text : List Char) : Prop :=
  ∀ word ∈ words text, Verb.ofWord? (String.ofList word) = none

/-- A text without verbs that ends with a blank is passed over. -/
theorem findVerb_append {front : List Char} (free : VerbFree front)
    (closed : ∀ char ∈ front.getLast?, isBlank char = true) (rest : List Char) :
    findVerb true (front ++ rest) = findVerb true rest := by
  induction front using word_induction with
  | blanks front blank => exact findVerb_blanks_append blank rest
  | word blanks word behind blank solid opens ih =>
    rw [VerbFree, words_blanks_append blank, solid.words_append opens] at free
    obtain ⟨other, others⟩ := List.forall_mem_cons.1 free
    -- The part ends with a blank, so something stands behind the word.
    have more : behind ≠ [] := by
      rintro rfl
      obtain ⟨last, isLast, visible⟩ := solid.endsSolid.append blanks
      have isMark := closed last (by rw [List.append_nil]; exact isLast)
      exact Bool.noConfusion (visible.symm.trans isMark)
    have sameLast : (blanks ++ (word ++ behind)).getLast? = behind.getLast? := by
      rw [← List.append_assoc, List.getLast?_append_of_ne_nil _ more]
    have opensToo : ∀ char ∈ (behind ++ rest).head?, isBlank char = true := by
      rwa [List.head?_append_of_ne_nil _ more]
    rw [List.append_assoc, List.append_assoc, findVerb_blanks_append blank,
      findVerb_word_append solid opensToo other]
    exact ih others (by rwa [sameLast] at closed)

/-- In a text without verbs none is found. -/
theorem findVerb_eq_none {text : List Char} (free : VerbFree text) : findVerb true text = none := by
  induction text using word_induction with
  | blanks text blank =>
    have nothing := findVerb_blanks_append blank []
    rwa [List.append_nil] at nothing
  | word blanks word behind blank solid opens ih =>
    rw [VerbFree, words_blanks_append blank, solid.words_append opens] at free
    obtain ⟨other, others⟩ := List.forall_mem_cons.1 free
    rw [findVerb_blanks_append blank, findVerb_word_append solid opens other]
    exact ih others

/-- A text has no verbs, or it is a part without verbs that ends with a blank, a verb, and what
follows it. -/
theorem verbFree_or_exists_verb (text : List Char) :
    VerbFree text ∨ ∃ front word rest verb, text = front ++ (word ++ rest) ∧ VerbFree front ∧
      (∀ char ∈ front.getLast?, isBlank char = true) ∧ Solid word ∧
      (∀ char ∈ rest.head?, isBlank char = true) ∧
      Verb.ofWord? (String.ofList word) = some verb := by
  induction text using word_induction with
  | blanks text blank =>
    left
    rw [VerbFree, blank.words_eq_nil]
    exact List.forall_mem_nil _
  | word blanks word behind blank solid opens ih =>
    have split : words (blanks ++ (word ++ behind)) = word :: words behind := by
      rw [words_blanks_append blank, solid.words_append opens]
    cases read : Verb.ofWord? (String.ofList word) with
    | some verb =>
      refine .inr ⟨blanks, word, behind, verb, rfl, ?_, ?_, solid, opens, read⟩
      · rw [VerbFree, blank.words_eq_nil]
        exact List.forall_mem_nil _
      · exact fun char last => blank char (List.mem_of_getLast? last)
    | none =>
      rcases ih with free |
        ⟨front, found, rest, verb, rfl, free, closed, solidToo, opensToo, spelled⟩
      · left
        rw [VerbFree, split]
        exact List.forall_mem_cons.2 ⟨read, free⟩
      · -- The part before the verb is not empty, since a blank follows the word before it.
        have more : front ≠ [] := by
          rintro rfl
          obtain ⟨char, chars, rfl⟩ := List.exists_cons_of_ne_nil solidToo.nonempty
          have isMark : isBlank char = true := opens char rfl
          have visible : isBlank char = false := solidToo.plain char List.mem_cons_self
          exact Bool.noConfusion (visible.symm.trans isMark)
        have opensFront : ∀ char ∈ front.head?, isBlank char = true := by
          rwa [List.head?_append_of_ne_nil _ more] at opens
        refine .inr ⟨blanks ++ (word ++ front), found, rest, verb, ?_, ?_, ?_, solidToo, opensToo,
          spelled⟩
        · simp only [List.append_assoc]
        · rw [VerbFree, words_blanks_append blank, solid.words_append opensFront]
          exact List.forall_mem_cons.2 ⟨read, free⟩
        · rwa [← List.append_assoc, List.getLast?_append_of_ne_nil _ more]

/-! ## Lines -/

/-- A line has some words, the first verb among them, and its operands, and a text that starts at
the verb. -/
structure FirstVerb (line : String) (before : List String) (word : String)
    (operands : List String) (text : String) : Prop where
  /-- The words of the line are those before the verb, the verb, and those after it. -/
  words : wordsOf (stripComment line) = before ++ word :: operands
  /-- None of the words before it spells a verb. -/
  first : NoVerb before
  /-- The text is what is behind these words and the blank that ends them. -/
  cut : ∃ front : String, stripComment line = front ++ text ∧ wordsOf front = before ∧
    ∀ char ∈ front.toList.getLast?, isBlank char = true
  /-- The text starts with the verb. -/
  starts : word.toList <+: text.toList

/-- A part of a line without verbs has no words that spell verbs. -/
theorem noVerb_wordsOf_iff {text : String} : NoVerb (wordsOf text) ↔ VerbFree text.toList := by
  simp only [NoVerb, VerbFree, wordsOf, List.forall_mem_map, Verb.ofWord?_eq_none_iff]

/-- The words of two parts in a row are all words, if the first part ends with a blank. -/
theorem wordsOf_append_of_closed {front : String}
    (closed : ∀ char ∈ front.toList.getLast?, isBlank char = true) (text : String) :
    wordsOf (front ++ text) = wordsOf front ++ wordsOf text := by
  rw [wordsOf, String.toList_append, words_append_of_closed closed, List.map_append, wordsOf,
    wordsOf]

/-- None of the words of a line spells a verb, or there is a first one. -/
theorem noVerb_or_exists_firstVerb (line : String) :
    NoVerb (wordsOf (stripComment line)) ∨
      ∃ before word operands text verb, FirstVerb line before word operands text ∧
        Verb.Spelled verb word := by
  rcases verbFree_or_exists_verb (stripComment line).toList with
    free | ⟨front, word, rest, verb, whole, free, closed, solid, opens, spelled⟩
  · exact .inl (noVerb_wordsOf_iff.2 free)
  · right
    have words : wordsOf (String.ofList (word ++ rest)) =
        String.ofList word :: wordsOf (String.ofList rest) := by
      simp only [wordsOf, String.toList_ofList, solid.words_append opens, List.map_cons]
    have sameLine : stripComment line = String.ofList front ++ String.ofList (word ++ rest) := by
      rw [← String.ofList_append, ← whole, String.ofList_toList]
    have closedFront : ∀ char ∈ (String.ofList front).toList.getLast?, isBlank char = true := by
      rwa [String.toList_ofList]
    refine ⟨wordsOf (String.ofList front), String.ofList word, wordsOf (String.ofList rest),
      String.ofList (word ++ rest), verb, ⟨?words, ?first, ?cut, ?starts⟩,
      Verb.ofWord?_eq_some_iff.1 spelled⟩
    case cut => exact ⟨_, sameLine, rfl, closedFront⟩
    case words => rw [sameLine, wordsOf_append_of_closed closedFront, words]
    case first => rwa [noVerb_wordsOf_iff, String.toList_ofList]
    case starts =>
      rw [String.toList_ofList, String.toList_ofList]
      exact List.prefix_append word rest

namespace FirstVerb

variable {line word text : String} {before operands : List String}
  (cut : FirstVerb line before word operands text)
include cut

/-- The words of the text are the verb and its operands. -/
theorem wordsOf_eq : wordsOf text = word :: operands := by
  obtain ⟨front, whole, rfl, closed⟩ := cut.cut
  have words := cut.words
  rw [whole, wordsOf_append_of_closed closed] at words
  exact List.append_cancel_left words

/-- The verb is a single word, and the text goes on with a blank behind it, if at all. -/
theorem exists_text_eq : ∃ rest, text.toList = word.toList ++ rest ∧ Solid word.toList ∧
    ∀ char ∈ rest.head?, isBlank char = true := by
  obtain ⟨rest, starts⟩ := cut.starts
  have words := cut.wordsOf_eq
  have isWord : word.toList ∈ Text.words text.toList := by
    have member : word ∈ wordsOf text := words ▸ List.mem_cons_self
    obtain ⟨chars, within, rfl⟩ := List.mem_map.1 member
    rwa [String.toList_ofList]
  have solid : Solid word.toList := ⟨ne_nil_of_mem_words isWord, not_blank_of_mem_words isWord⟩
  have chars : (wordsOf text).map String.toList = Text.words text.toList := by
    have back : String.toList ∘ String.ofList = id := funext fun _ => String.toList_ofList
    rw [wordsOf, List.map_map, back, List.map_id]
  have first : Text.words (word.toList ++ rest) = word.toList :: operands.map String.toList := by
    rw [starts, ← chars, words, List.map_cons]
  exact ⟨rest, starts.symm, solid, solid.opens_of_words first⟩

/-- What stands before the verb has no part in the command. -/
theorem findVerb_eq {verb : Verb} (spelled : verb.Spelled word) :
    findVerb true (stripComment line).toList = some (verb, text.toList) := by
  obtain ⟨rest, same, solid, opens⟩ := cut.exists_text_eq
  obtain ⟨front, whole, rfl, closed⟩ := cut.cut
  have free : VerbFree front.toList := noVerb_wordsOf_iff.1 cut.first
  have read : Verb.ofWord? (String.ofList word.toList) = some verb := by
    rw [String.ofList_toList, Verb.ofWord?_eq_some_iff]
    exact spelled
  rw [whole, String.toList_append, findVerb_append free closed, same,
    findVerb_verb_append solid opens read]

/-- No comment is left to strip from the text, and no blanks at its ends. -/
theorem stripComment_eq : stripComment text = text := by
  obtain ⟨rest, same, solid, -⟩ := cut.exists_text_eq
  obtain ⟨front, whole, -, -⟩ := cut.cut
  have nonempty : text.toList ≠ [] := by
    rw [same]
    exact List.append_ne_nil_of_left_ne_nil solid.nonempty rest
  have chars : (stripComment line).toList = front.toList ++ text.toList := by
    rw [whole, String.toList_append]
  have trimmed : Trimmed text.toList := by
    refine ⟨fun char first => ?_, fun char last => ?_⟩
    · rw [same, List.head?_append_of_ne_nil _ solid.nonempty] at first
      exact solid.plain char (List.mem_of_mem_head? first)
    · refine (trimmed_stripComment line).last char ?_
      rwa [chars, List.getLast?_append_of_ne_nil _ nonempty]
  have noComment : '#' ∉ text.toList := fun member =>
    not_comment_mem_stripComment line (by rw [chars]; exact List.mem_append_right _ member)
  exact stripComment_of_trimmed trimmed noComment

end FirstVerb

/-- A line without verbs holds no command. -/
theorem Command.parse_of_noVerb {line : String} (free : NoVerb (wordsOf (stripComment line))) :
    parse line = .ok none := by
  rw [parse, findVerb_eq_none (noVerb_wordsOf_iff.1 free)]

/-- The command of a line is read from the text that starts at its first verb. -/
theorem Command.parse_of_firstVerb {line word text : String} {before operands : List String}
    {verb : Verb} (cut : FirstVerb line before word operands text) (spelled : verb.Spelled word) :
    parse line = some <$> ofVerb verb text := by
  rw [parse, cut.findVerb_eq spelled]
  dsimp only
  rw [String.ofList_toList]

end PacketFilter
