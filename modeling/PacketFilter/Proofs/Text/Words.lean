import PacketFilter.Proofs.Text.Trim

/-!
# Words that are joined by spaces

Joining texts by single spaces puts their words in a row, so a text that is written word by word is
taken apart into these words. A sequence without blanks that occurs in a text occurs in one of its
words.
-/
namespace PacketFilter.Text

/-- A text that is a single word: there is something, and no blank. -/
structure Solid (word : List Char) : Prop where
  /-- There is something. -/
  nonempty : word ≠ []
  /-- No character is blank. -/
  plain : ∀ char ∈ word, isBlank char = false

/-- No visible character of the first 128 is blank. -/
theorem isBlank_of_visible {char : Char} (low : 32 < char.toNat) (high : char.toNat < 128) :
    isBlank char = false := by
  simp only [isBlank, blankRanges, List.any_cons, List.any_nil, Bool.or_false,
    Bool.or_eq_false_iff, Bool.and_eq_false_iff, decide_eq_false_iff_not]
  omega

/-- Both conditions can be checked, the second character by character. -/
instance (word : List Char) : Decidable (Solid word) :=
  decidable_of_iff (word ≠ [] ∧ word.all (!isBlank ·) = true)
    ⟨fun ⟨nonempty, plain⟩ => ⟨nonempty, by simpa using plain⟩,
      fun solid => ⟨solid.nonempty, by simpa using solid.plain⟩⟩

/-- A single word is its own only word. -/
theorem Solid.words_eq {word : List Char} (solid : Solid word) : words word = [word] := by
  have nonempty : (!word.isEmpty) = true := by simpa using solid.nonempty
  rw [words, split_of_forall_not _ _ solid.plain]
  exact List.filter_cons_of_pos nonempty

/-- The words before a blank and those after it are all words. -/
theorem words_append_cons {mark : Char} (before after : List Char) (blank : isBlank mark = true) :
    words (before ++ mark :: after) = words before ++ words after := by
  rw [words, split_append_cons _ _ _ _ blank, List.filter_append, words, words]

/-- The words of a text and of what follows it are all words, if a blank is between them. -/
theorem words_append {rest : List Char} (text : List Char)
    (blank : ∀ char ∈ rest.head?, isBlank char = true) :
    words (text ++ rest) = words text ++ words rest := by
  cases rest with
  | nil => rw [List.append_nil, show words [] = [] from rfl, List.append_nil]
  | cons mark after =>
    have isMark : isBlank mark = true := blank mark rfl
    have alone : words (mark :: after) = words after := words_append_cons [] after isMark
    rw [words_append_cons _ _ isMark, alone]

/-- A text that starts with a space starts with a blank. -/
theorem isBlank_of_head?_space (rest : List Char) :
    ∀ char ∈ (' ' :: rest).head?, isBlank char = true := by
  intro char first
  obtain rfl : ' ' = char := Option.some.inj first
  decide

/-- The first word of a text ends where a blank follows. -/
theorem takeWhile_word_append {word rest : List Char} (solid : Solid word)
    (blank : ∀ char ∈ rest.head?, isBlank char = true) :
    (word ++ rest).takeWhile (!isBlank ·) = word := by
  have inside : ∀ char ∈ word, (!isBlank char) = true := fun char member => by
    rw [solid.plain char member, Bool.not_false]
  have outside : rest.takeWhile (!isBlank ·) = [] := by
    cases rest with
    | nil => rfl
    | cons mark after =>
      have isMark : isBlank mark = true := blank mark rfl
      exact List.takeWhile_cons_of_neg (by simp [isMark])
  rw [List.takeWhile_append_of_pos inside, outside, List.append_nil]

/-- Blanks at the start of a text are in none of its words. -/
theorem words_blanks_append {blanks : List Char} (blank : AllBlank blanks) (text : List Char) :
    words (blanks ++ text) = words text := by
  induction blanks with
  | nil => rfl
  | cons char rest ih =>
    have isMark : isBlank char = true := blank char List.mem_cons_self
    have others : AllBlank rest := fun other member => blank other (List.mem_cons_of_mem _ member)
    rw [List.cons_append, ← ih others]
    exact words_append_cons [] (rest ++ text) isMark

/-- Blanks hold no words. -/
theorem AllBlank.words_eq_nil {blanks : List Char} (blank : AllBlank blanks) :
    words blanks = [] := by
  have alone := words_blanks_append blank []
  rwa [List.append_nil] at alone

/-- The words before the end of a part that ends with a blank, and those after it, are all
words. -/
theorem words_append_of_closed {front : List Char}
    (closed : ∀ char ∈ front.getLast?, isBlank char = true) (text : List Char) :
    words (front ++ text) = words front ++ words text := by
  rcases List.eq_nil_or_concat front with rfl | ⟨before, mark, rfl⟩
  · rfl
  · have isMark : isBlank mark = true := closed mark (by simp)
    have alone : words (before ++ [mark]) = words before := by
      rw [words_append_cons before [] isMark]
      exact List.append_nil _
    rw [List.concat_eq_append, List.append_assoc, List.singleton_append,
      words_append_cons _ _ isMark, alone]

/-- Trimming keeps the words of a text. -/
theorem words_trim (text : List Char) : words (trim text) = words text := by
  obtain ⟨before, after, blankBefore, blankAfter, same⟩ := exists_append_trim_append text
  have opens : ∀ char ∈ after.head?, isBlank char = true := fun char first =>
    blankAfter char (List.mem_of_mem_head? first)
  conv => rhs; rw [same]
  rw [List.append_assoc, words_blanks_append blankBefore, words_append _ opens,
    blankAfter.words_eq_nil, List.append_nil]

/-- A part of a text that ends with a space and blanks, once it is trimmed at its start, ends with a
blank or has nothing, and its words are those before the space. -/
theorem trimStart_append_blanks {blanks : List Char} (blank : AllBlank blanks)
    (lead : List Char) :
    (∀ char ∈ (trimStart (lead ++ ' ' :: blanks)).getLast?, isBlank char = true) ∧
      words (trimStart (lead ++ ' ' :: blanks)) = words lead := by
  have whole := List.takeWhile_append_dropWhile (p := isBlank) (l := lead ++ ' ' :: blanks)
  have before : AllBlank ((lead ++ ' ' :: blanks).takeWhile isBlank) :=
    fun _ => List.mem_takeWhile_imp
  have isSpace : isBlank ' ' = true := by decide
  constructor
  · intro char last
    have lastOfAll : char ∈ (lead ++ ' ' :: blanks).getLast? := by
      rw [← whole, List.getLast?_append]
      exact Option.or_eq_some_iff.2 (.inl last)
    have lastOfBlanks : char ∈ ' ' :: blanks := by
      rw [List.getLast?_append, List.getLast?_eq_some_getLast (List.cons_ne_nil _ _),
        Option.some_or] at lastOfAll
      rw [← Option.some.inj lastOfAll]
      exact List.getLast_mem _
    rcases List.mem_cons.1 lastOfBlanks with rfl | member
    · exact isSpace
    · exact blank char member
  · rw [trimStart, ← words_blanks_append before, whole, words_append_cons _ _ isSpace,
      blank.words_eq_nil, List.append_nil]

/-- A word at the start of a text is its first word if a blank follows, or nothing. -/
theorem Solid.words_append {word rest : List Char} (solid : Solid word)
    (opens : ∀ char ∈ rest.head?, isBlank char = true) :
    words (word ++ rest) = word :: words rest := by
  rw [Text.words_append word opens, solid.words_eq, List.singleton_append]

/-- A word that is the first word of a text and starts it is followed by a blank or nothing. -/
theorem Solid.opens_of_words {word rest : List Char} {later : List (List Char)}
    (solid : Solid word) (first : words (word ++ rest) = word :: later) :
    ∀ char ∈ rest.head?, isBlank char = true := by
  have stopped : ∀ char ∈ (rest.dropWhile (!isBlank ·)).head?, isBlank char = true := by
    intro char isHead
    have head := List.head?_dropWhile_not (!isBlank ·) rest
    rw [Option.mem_def.1 isHead] at head
    simpa using head
  have longer : Solid (word ++ rest.takeWhile (!isBlank ·)) := by
    refine ⟨List.append_ne_nil_of_left_ne_nil solid.nonempty _, fun char member => ?_⟩
    rcases List.mem_append.1 member with before | behind
    · exact solid.plain char before
    · simpa using List.mem_takeWhile_imp behind
  have whole : word ++ rest =
      (word ++ rest.takeWhile (!isBlank ·)) ++ rest.dropWhile (!isBlank ·) := by
    rw [List.append_assoc, List.takeWhile_append_dropWhile]
  rw [whole, longer.words_append stopped] at first
  have nothing : rest.takeWhile (!isBlank ·) = [] :=
    List.append_right_eq_self.1 (List.cons.inj first).1
  have same := List.takeWhile_append_dropWhile (p := (!isBlank ·)) (l := rest)
  rw [nothing, List.nil_append] at same
  rwa [same] at stopped

/-- A text is blank, or it starts with blanks and a word that is followed by a blank or nothing. -/
theorem allBlank_or_exists_word (text : List Char) :
    AllBlank text ∨ ∃ blanks word rest, text = blanks ++ (word ++ rest) ∧ AllBlank blanks ∧
      Solid word ∧ ∀ char ∈ rest.head?, isBlank char = true := by
  have whole : text.takeWhile isBlank ++ trimStart text = text := List.takeWhile_append_dropWhile
  cases start : trimStart text with
  | nil => exact .inl (List.dropWhile_eq_nil_iff.1 start)
  | cons char others =>
    have visible : isBlank char = false := not_blank_of_head?_trimStart (by rw [start]; rfl)
    refine .inr ⟨text.takeWhile isBlank, (trimStart text).takeWhile (!isBlank ·),
      (trimStart text).dropWhile (!isBlank ·), ?_, fun _ => List.mem_takeWhile_imp, ⟨?_, ?_⟩, ?_⟩
    · rw [List.takeWhile_append_dropWhile, whole]
    · rw [start, List.takeWhile_cons_of_pos (by rw [visible]; rfl)]
      exact List.cons_ne_nil _ _
    · intro other member
      simpa using List.mem_takeWhile_imp member
    · intro other first
      have stopped := List.head?_dropWhile_not (!isBlank ·) (trimStart text)
      rw [Option.mem_def.1 first] at stopped
      simpa using stopped

/-- What holds of blanks, and of a text with blanks and a word before it whenever it holds of the
text, holds of every text. -/
theorem word_induction {motive : List Char → Prop}
    (blanks : ∀ text, AllBlank text → motive text)
    (word : ∀ blanks word rest, AllBlank blanks → Solid word →
      (∀ char ∈ rest.head?, isBlank char = true) → motive rest →
      motive (blanks ++ (word ++ rest)))
    (text : List Char) : motive text := by
  induction length : text.length using Nat.strongRecOn generalizing text with
  | ind bound ih =>
    rcases allBlank_or_exists_word text with blank | ⟨before, first, rest, rfl, blank, solid, opens⟩
    · exact blanks text blank
    · have shorter : rest.length < bound := by
        have nonempty := List.length_pos_iff.2 solid.nonempty
        rw [← length, List.length_append, List.length_append]
        omega
      exact word before first rest blank solid opens (ih _ shorter rest rfl)

/-- The words of texts that are joined by spaces are those of the texts in a row. -/
theorem words_intercalate (parts : List (List Char)) :
    words ([' '].intercalate parts) = parts.flatMap words := by
  induction parts with
  | nil => rfl
  | cons part rest ih =>
    cases rest with
    | nil => simp
    | cons next others =>
      rw [List.intercalate_cons_cons, List.append_assoc, List.singleton_append,
        words_append_cons _ _ (by decide), ih, List.flatMap_cons (x := part)]

/-- Parts that are joined by a mark are cut into the same parts, if none of them has the mark. -/
theorem split_intercalate {mark : Char} {parts : List (List Char)} (nonempty : parts ≠ [])
    (plain : ∀ part ∈ parts, mark ∉ part) :
    split (· == mark) ([mark].intercalate parts) = parts := by
  induction parts with
  | nil => exact absurd rfl nonempty
  | cons part rest ih =>
    have alone : split (· == mark) part = [part] := by
      refine split_of_forall_not _ _ fun char member => ?_
      simpa using ne_of_mem_of_not_mem member (plain part List.mem_cons_self)
    cases rest with
    | nil => rw [List.intercalate_singleton, alone]
    | cons next others =>
      have later := ih (List.cons_ne_nil next others) fun other member =>
        plain other (List.mem_cons_of_mem _ member)
      rw [List.intercalate_cons_cons, List.append_assoc, List.singleton_append,
        split_append_cons (· == mark) _ _ _ (beq_self_eq_true mark), alone, later,
        List.singleton_append]

/-- The pieces of a text that is cut at a mark give the text back when they are joined by the
mark. -/
theorem intercalate_split (mark : Char) (text : List Char) :
    [mark].intercalate (split (· == mark) text) = text := by
  induction text with
  | nil => rfl
  | cons char rest ih =>
    obtain ⟨piece, pieces, cut⟩ := List.exists_cons_of_ne_nil (split_ne_nil (· == mark) rest)
    by_cases isMark : (char == mark) = true
    · have same : char = mark := beq_iff_eq.1 isMark
      have opened : split (· == mark) (char :: rest) = [] :: piece :: pieces := by
        rw [split, if_pos isMark, cut]
      rw [opened, List.intercalate_cons_cons, ← cut, ih, same]
      rfl
    · have longer : split (· == mark) (char :: rest) = (char :: piece) :: pieces := by
        rw [split, if_neg isMark, cut]
      rw [cut] at ih
      rw [longer, ← ih]
      cases pieces with
      | nil => rw [List.intercalate_singleton, List.intercalate_singleton]
      | cons next others =>
        rw [List.intercalate_cons_cons, List.intercalate_cons_cons, List.cons_append,
          List.cons_append]

/-- What occurs in a piece of a sequence still occurs in one if an item comes before all. -/
theorem exists_piece_cons {α : Type} {isSeparator : α → Bool} {pattern rest : List α} (item : α)
    (within : ∃ piece ∈ split isSeparator rest, pattern <:+: piece) :
    ∃ piece ∈ split isSeparator (item :: rest), pattern <:+: piece := by
  obtain ⟨piece, member, occurs⟩ := within
  rw [split]
  split
  · exact ⟨piece, List.mem_cons_of_mem _ member, occurs⟩
  · cases cut : split isSeparator rest with
    | nil => exact absurd cut (split_ne_nil isSeparator rest)
    | cons first others =>
      rw [cut] at member
      rcases List.mem_cons.1 member with rfl | later
      · exact ⟨item :: piece, List.mem_cons_self, List.infix_cons occurs⟩
      · exact ⟨piece, List.mem_cons_of_mem _ later, occurs⟩

/-- What holds no separator and starts a sequence starts its first piece. -/
theorem exists_piece_of_plain_append {α : Type} {isSeparator : α → Bool} {pattern : List α}
    (plain : ∀ item ∈ pattern, isSeparator item = false) (after : List α) :
    ∃ piece pieces, split isSeparator (pattern ++ after) = (pattern ++ piece) :: pieces := by
  obtain ⟨piece, pieces, cut⟩ := List.exists_cons_of_ne_nil (split_ne_nil isSeparator after)
  exact ⟨piece, pieces, split_plain_append plain cut⟩

/-- What holds no separator and occurs in a sequence occurs in one of its pieces. -/
theorem exists_piece_of_infix {α : Type} {isSeparator : α → Bool} {pattern items : List α}
    (plain : ∀ item ∈ pattern, isSeparator item = false) (within : pattern <:+: items) :
    ∃ piece ∈ split isSeparator items, pattern <:+: piece := by
  obtain ⟨before, after, rfl⟩ := within
  rw [List.append_assoc]
  induction before with
  | nil =>
    obtain ⟨piece, pieces, cut⟩ := exists_piece_of_plain_append plain after
    rw [List.nil_append, cut]
    exact ⟨pattern ++ piece, List.mem_cons_self, List.infix_append' [] pattern piece⟩
  | cons item rest ih => exact exists_piece_cons item ih

/-- A word that occurs in a text occurs in one of its words. -/
theorem Solid.exists_word_of_infix {pattern text : List Char} (solid : Solid pattern)
    (within : pattern <:+: text) : ∃ word ∈ words text, pattern <:+: word := by
  obtain ⟨piece, member, occurs⟩ := exists_piece_of_infix solid.plain within
  have nonempty : (!piece.isEmpty) = true := by
    cases piece with
    | nil => exact absurd (List.infix_nil.1 occurs) solid.nonempty
    | cons => rfl
  exact ⟨piece, List.mem_filter.2 ⟨member, nonempty⟩, occurs⟩

/-- A word of a text occurs in it. -/
theorem infix_of_mem_words {text word : List Char} (member : word ∈ words text) :
    word <:+: text := by
  induction text using word_induction with
  | blanks text blank =>
    rw [blank.words_eq_nil] at member
    cases member
  | word blanks first rest blank solid opens ih =>
    rw [words_blanks_append blank, solid.words_append opens] at member
    rcases List.mem_cons.1 member with rfl | later
    · exact ⟨blanks, rest, List.append_assoc _ _ _⟩
    · exact (ih later).trans ((List.suffix_append first rest).trans
        (List.suffix_append blanks (first ++ rest))).isInfix

/-- A word occurs in a text just if it occurs in one of its words. -/
theorem Solid.infix_iff {pattern text : List Char} (solid : Solid pattern) :
    pattern <:+: text ↔ ∃ word ∈ words text, pattern <:+: word :=
  ⟨solid.exists_word_of_infix, fun ⟨_, member, occurs⟩ =>
    occurs.trans (infix_of_mem_words member)⟩

/-! ## Ends -/

/-- A text that ends with a character that is not blank. -/
def EndsSolid (text : List Char) : Prop :=
  ∃ last, text.getLast? = some last ∧ isBlank last = false

/-- A single word does not end with a blank. -/
theorem Solid.endsSolid {word : List Char} (solid : Solid word) : EndsSolid word :=
  ⟨_, List.getLast?_eq_some_getLast solid.nonempty, solid.plain _ (List.getLast_mem _)⟩

/-- A text that ends with a character that is not blank has no other end. -/
theorem EndsSolid.not_blank {text : List Char} (ends : EndsSolid text) :
    ∀ char ∈ text.getLast?, isBlank char = false := by
  obtain ⟨last, isLast, solid⟩ := ends
  intro char member
  obtain rfl : last = char := Option.some.inj (isLast.symm.trans member)
  exact solid

/-- What a text ends with does not depend on what is before. -/
theorem EndsSolid.append {after : List Char} (ends : EndsSolid after) (before : List Char) :
    EndsSolid (before ++ after) := by
  obtain ⟨last, isLast, solid⟩ := ends
  exact ⟨last, by rw [List.getLast?_append, isLast, Option.some_or], solid⟩

/-- Texts that are joined end as the last of them does. -/
theorem endsSolid_intercalate {parts : List (List Char)} (nonempty : parts ≠ [])
    (ends : ∀ part ∈ parts, EndsSolid part) : EndsSolid ([' '].intercalate parts) := by
  induction parts with
  | nil => exact absurd rfl nonempty
  | cons part rest ih =>
    cases rest with
    | nil => simpa using ends part List.mem_cons_self
    | cons next others =>
      rw [List.intercalate_cons_cons]
      exact (ih (List.cons_ne_nil next others) fun other member =>
        ends other (List.mem_cons_of_mem _ member)).append _

/-- A character of texts that are joined by a mark is in one of them, if it is not the mark. -/
theorem exists_mem_of_mem_intercalate {mark char : Char} {parts : List (List Char)}
    (within : char ∈ [mark].intercalate parts) (apart : char ≠ mark) :
    ∃ part ∈ parts, char ∈ part := by
  induction parts with
  | nil => exact absurd within List.not_mem_nil
  | cons part rest ih =>
    cases rest with
    | nil => exact ⟨part, List.mem_cons_self, by simpa using within⟩
    | cons next others =>
      rw [List.intercalate_cons_cons, List.append_assoc, List.mem_append, List.mem_append] at within
      rcases within with first | isMark | later
      · exact ⟨part, List.mem_cons_self, first⟩
      · exact absurd (List.mem_singleton.1 isMark) apart
      · obtain ⟨other, member, inside⟩ := ih later
        exact ⟨other, List.mem_cons_of_mem _ member, inside⟩

end PacketFilter.Text
