import Mathlib.Data.List.TakeDrop
import PacketFilter.Proofs.Text.Words

/-!
# Labels that are read back from their text

A label is written at the end of a rule, between quotes, behind the flag that announces it. It is
found there whatever it holds but a quote, as long as that flag does not occur in the text before
(`cutLabel_labelText`).
-/
namespace PacketFilter

open Text

/-- What is written of a label after the action: nothing if it is empty. -/
def labelText (label : String) : String :=
  if label = "" then "" else " --log-prefix \"" ++ label ++ "\""

/-- The characters that are written of a label. -/
theorem toList_labelText {label : String} (nonempty : label ≠ "") :
    (labelText label).toList =
      ' ' :: labelFlag ++ ' ' :: '"' :: (label.toList ++ ['"']) := by
  rw [labelText, if_neg nonempty, String.toList_append, String.toList_append]
  rfl

/-- What is written of a label starts with a blank, if there is anything. -/
theorem isBlank_of_head?_labelText {label : String} {char : Char}
    (first : char ∈ (labelText label).toList.head?) : isBlank char = true := by
  by_cases empty : label = ""
  · simp [labelText, empty] at first
  · rw [toList_labelText empty] at first
    exact isBlank_of_head?_space _ char first

/-- The flag that announces a label is a single word. -/
theorem solid_labelFlag : Solid labelFlag := by decide

/-- The flag that announces a label is a word of its text. -/
theorem words_labelFlag (rest : List Char) :
    words (' ' :: labelFlag ++ ' ' :: rest) = labelFlag :: words (' ' :: rest) := by
  have space : AllBlank [' '] := List.forall_mem_singleton.2 (by decide)
  exact (words_blanks_append space _).trans
    (solid_labelFlag.words_append (isBlank_of_head?_space rest))

/-- What holds no blanks starts a text already if it does so once blanks follow. -/
theorem isPrefix_of_isPrefix_append {pattern text rest : List Char}
    (plain : ∀ char ∈ pattern, isBlank char = false)
    (blank : ∀ char ∈ rest.head?, isBlank char = true) (starts : pattern <+: text ++ rest) :
    pattern <+: text := by
  induction text generalizing pattern with
  | nil =>
    cases pattern with
    | nil => exact List.nil_prefix
    | cons char others =>
      -- The text is used up, so the next character would be the blank that follows it.
      obtain ⟨after, same⟩ := starts
      have isBlank : isBlank char = true := by
        refine blank char ?_
        rw [← List.nil_append rest, ← same]
        rfl
      rw [plain char List.mem_cons_self] at isBlank
      exact Bool.noConfusion isBlank
  | cons item items ih =>
    cases pattern with
    | nil => exact List.nil_prefix
    | cons char others =>
      obtain ⟨rfl, within⟩ := List.cons_prefix_cons.1 starts
      have shorter := ih (fun other member => plain other (List.mem_cons_of_mem _ member)) within
      exact List.cons_prefix_cons.2 ⟨rfl, shorter⟩

/-- No label is written at the start of a text that does not start with the flag. -/
theorem labelHere?_of_not_isPrefix {text : List Char} (absent : ¬ labelFlag <+: text) :
    labelHere? text = none := by
  have notThere : ¬ labelFlag.isPrefixOf text = true :=
    fun starts => absent (List.isPrefixOf_iff_prefix.1 starts)
  rw [labelHere?, afterStart?, if_neg notThere]

/-- A label is found behind the flag, up to the quote that closes it. -/
theorem labelHere?_labelFlag {label : List Char} (unquoted : '"' ∉ label) (back : List Char) :
    labelHere? (labelFlag ++ ' ' :: '"' :: (label ++ '"' :: back)) = some (label, back) := by
  have inner : (label ++ '"' :: back).span (· != '"') = (label, '"' :: back) := by
    have all : ∀ char ∈ label, (char != '"') = true := fun char member => by
      rw [bne_iff_ne]
      rintro rfl
      exact unquoted member
    rw [List.span_eq_takeWhile_dropWhile, List.takeWhile_append_of_pos all,
      List.dropWhile_append_of_pos all]
    simp
  have quoted : readLabel? ('"' :: (label ++ '"' :: back)) = some (label, back) := by
    rw [readLabel?, inner]
    rfl
  have after : afterStart? labelFlag (labelFlag ++ ' ' :: '"' :: (label ++ '"' :: back)) =
      some (' ' :: '"' :: (label ++ '"' :: back)) := by
    rw [afterStart?, if_pos (List.isPrefixOf_iff_prefix.2 (List.prefix_append _ _)),
      List.drop_left]
  have opening : trimStart (' ' :: '"' :: (label ++ '"' :: back)) =
      '"' :: (label ++ '"' :: back) := by
    rw [trimStart, List.dropWhile_cons_of_pos (by decide), List.dropWhile_cons_of_neg (by decide)]
  rw [labelHere?, after]
  dsimp only
  rw [if_pos (by decide), opening, quoted]

/-- A label that is written at the start of a text is cut out there. -/
theorem cutLabel_of_labelHere? {text label after : List Char}
    (found : labelHere? text = some (label, after)) :
    cutLabel text = (' ' :: after, some label) := by
  cases text with
  | nil =>
    have nothing : labelHere? [] = none := by decide
    rw [nothing] at found
    cases found
  | cons char rest => rw [cutLabel, found]

/-- If no label is written at the start of a text, one is looked for behind the first character. -/
theorem cutLabel_cons_of_not_isPrefix {char : Char} {rest : List Char}
    (absent : ¬ labelFlag <+: char :: rest) :
    cutLabel (char :: rest) = (char :: (cutLabel rest).1, (cutLabel rest).2) := by
  rw [cutLabel, labelHere?_of_not_isPrefix absent]

/-- Text without the flag is passed over. -/
theorem cutLabel_append {text rest : List Char} (absent : ¬ labelFlag <:+: text)
    (blank : ∀ char ∈ rest.head?, isBlank char = true) :
    cutLabel (text ++ rest) = (text ++ (cutLabel rest).1, (cutLabel rest).2) := by
  induction text with
  | nil => rfl
  | cons char others ih =>
    have notHere : ¬ labelFlag <+: char :: (others ++ rest) := fun starts =>
      absent (isPrefix_of_isPrefix_append solid_labelFlag.plain blank starts).isInfix
    have later := ih fun within => absent (List.infix_cons within)
    rw [List.cons_append, cutLabel_cons_of_not_isPrefix notHere, later, List.cons_append]

/-- Without the flag that announces a label nothing is cut out of a text. -/
theorem cutLabel_of_noLabel {text : List Char} (absent : ¬ labelFlag <:+: text) :
    cutLabel text = (text, none) := by
  have nothing : cutLabel [] = ([], none) := rfl
  have passed : cutLabel (text ++ []) = (text ++ (cutLabel []).1, (cutLabel []).2) :=
    cutLabel_append absent fun _ first => by cases first
  rwa [List.append_nil, nothing, List.append_nil] at passed

/-- What is left of a text that starts with a blank starts with one. -/
theorem isBlank_of_head?_cutLabel {text : List Char}
    (blank : ∀ char ∈ text.head?, isBlank char = true) :
    ∀ char ∈ (cutLabel text).1.head?, isBlank char = true := by
  cases text with
  | nil => exact blank
  | cons first rest =>
    rw [cutLabel]
    cases labelHere? (first :: rest) with
    | none => exact blank
    | some found => exact isBlank_of_head?_space _

/-- A label between quotes is cut out as it was written, with what announces it. -/
theorem cutLabel_quoted {label : List Char} (unquoted : '"' ∉ label) (back : List Char) :
    cutLabel (' ' :: labelFlag ++ ' ' :: '"' :: (label ++ '"' :: back)) =
      (' ' :: ' ' :: back, some label) := by
  have notHere : ¬ labelFlag <+: ' ' :: (labelFlag ++ ' ' :: '"' :: (label ++ '"' :: back)) :=
    fun starts => absurd (List.cons_prefix_cons.1 starts).1 (by decide)
  rw [List.cons_append, cutLabel_cons_of_not_isPrefix notHere,
    cutLabel_of_labelHere? (labelHere?_labelFlag unquoted back)]

/-- A label is cut out as it was written, and no word is left of it. -/
theorem cutLabel_labelText {label : String} (unquoted : '"' ∉ label.toList) :
    words (cutLabel (labelText label).toList).1 = [] ∧
      (cutLabel (labelText label).toList).2.getD [] = label.toList := by
  by_cases empty : label = ""
  · simp [labelText, empty, cutLabel, words, split]
  · rw [toList_labelText empty, cutLabel_quoted unquoted]
    have spaces : words [' ', ' '] = [] := by decide
    exact ⟨spaces, rfl⟩

end PacketFilter
