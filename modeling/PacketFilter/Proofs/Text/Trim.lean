import Mathlib.Data.List.TakeWhile
import PacketFilter.Command.Parser

/-!
# Blanks around a line

Trimming takes away the blanks at both ends and nothing else, and blanks at either end never change
what is left. A comment does not matter to it, so the command of a line is that of the trimmed line
(`Command.parse_trim`).
-/
namespace PacketFilter

namespace Text

/-- A text of blanks only. -/
def AllBlank (text : List Char) : Prop := ∀ char ∈ text, isBlank char = true

/-- A text that starts and ends with characters that are not blank, or has none. -/
structure Trimmed (text : List Char) : Prop where
  /-- The first character is not blank. -/
  first : ∀ char ∈ text.head?, isBlank char = false
  /-- The last character is not blank. -/
  last : ∀ char ∈ text.getLast?, isBlank char = false

/-- Blanks have nothing left without the blanks at their start. -/
theorem AllBlank.trimStart_eq_nil {text : List Char} (blank : AllBlank text) :
    trimStart text = [] := List.dropWhile_eq_nil_iff.2 blank

/-- Blanks in reverse are blanks. -/
theorem AllBlank.reverse {text : List Char} (blank : AllBlank text) : AllBlank text.reverse :=
  fun char within => blank char (List.mem_reverse.1 within)

/-- Blanks at the start do not change what is left. -/
theorem trim_append_left {blanks : List Char} (blank : AllBlank blanks) (text : List Char) :
    trim (blanks ++ text) = trim text := by
  rw [trim, trimStart, List.dropWhile_append_of_pos blank, trim, trimStart]

/-- Blanks at the end do not change what is left without those at the end. -/
theorem trimEnd_append {blanks : List Char} (blank : AllBlank blanks) (text : List Char) :
    trimEnd (text ++ blanks) = trimEnd text := by
  rw [trimEnd, List.reverse_append, trimStart, List.dropWhile_append_of_pos blank.reverse, trimEnd,
    trimStart]

/-- Blanks at the end do not change what is left. -/
theorem trim_append_right {blanks : List Char} (blank : AllBlank blanks) (text : List Char) :
    trim (text ++ blanks) = trim text := by
  rw [trim, trim, trimStart, trimStart, List.dropWhile_append]
  split
  · next empty =>
    have onlyBlanks : text.dropWhile isBlank = [] := List.isEmpty_iff.1 empty
    have nothing : blanks.dropWhile isBlank = [] := blank.trimStart_eq_nil
    rw [onlyBlanks, nothing]
  · exact trimEnd_append blank _

/-- What is left without the blanks at the start does not start with a blank. -/
theorem not_blank_of_head?_trimStart {text : List Char} {char : Char}
    (first : (trimStart text).head? = some char) : isBlank char = false := by
  have head := List.head?_dropWhile_not isBlank text
  rw [trimStart] at first
  rwa [first] at head

/-- A text is what is left of it without the blanks at its end, and these blanks. -/
theorem exists_trimEnd_append (text : List Char) :
    ∃ blanks, AllBlank blanks ∧ text = trimEnd text ++ blanks := by
  refine ⟨(text.reverse.takeWhile isBlank).reverse, ?_, ?_⟩
  · intro char within
    exact List.mem_takeWhile_imp (List.mem_reverse.1 within)
  · rw [trimEnd, trimStart, ← List.reverse_append, List.takeWhile_append_dropWhile,
      List.reverse_reverse]

/-- A text is what is left of it between the blanks at either end. -/
theorem exists_append_trim_append (text : List Char) :
    ∃ before after, AllBlank before ∧ AllBlank after ∧ text = before ++ trim text ++ after := by
  obtain ⟨after, blank, same⟩ := exists_trimEnd_append (trimStart text)
  refine ⟨text.takeWhile isBlank, after, fun char => List.mem_takeWhile_imp, blank, ?_⟩
  rw [List.append_assoc, trim, ← same, trimStart, List.takeWhile_append_dropWhile]

/-- What is left of a text is trimmed. -/
theorem trimmed_trim (text : List Char) : Trimmed (trim text) := by
  refine ⟨fun char first => ?_, fun char last => ?_⟩
  · obtain ⟨blanks, -, same⟩ := exists_trimEnd_append (trimStart text)
    have head : (trimStart text).head? = some char := by
      rw [same, List.head?_append]
      exact Option.or_eq_some_iff.2 (.inl first)
    exact not_blank_of_head?_trimStart head
  · rw [trim, trimEnd, List.getLast?_reverse] at last
    exact not_blank_of_head?_trimStart last

/-- A text that does not start with a blank is left as it is. -/
theorem trimStart_of_not_blank {text : List Char}
    (first : ∀ char ∈ text.head?, isBlank char = false) : trimStart text = text := by
  cases text with
  | nil => rfl
  | cons char rest => exact List.dropWhile_cons_of_neg (by simp [first char rfl])

/-- A trimmed text is left as it is. -/
theorem trim_of_trimmed {text : List Char} (trimmed : Trimmed text) : trim text = text := by
  have last : ∀ char ∈ text.reverse.head?, isBlank char = false := by simpa using trimmed.last
  rw [trim, trimStart_of_not_blank trimmed.first, trimEnd, trimStart_of_not_blank last,
    List.reverse_reverse]

/-- What is not blank at the end of a text is kept with all that is before it, but for the blanks at
the start. -/
theorem trim_append_of_trimmed {text : List Char} (trimmed : Trimmed text) (nonempty : text ≠ [])
    (front : List Char) : trim (front ++ text) = trimStart front ++ text := by
  have blank : AllBlank (front.takeWhile isBlank) := fun _ => List.mem_takeWhile_imp
  have whole : front ++ text = front.takeWhile isBlank ++ (trimStart front ++ text) := by
    rw [← List.append_assoc, trimStart, List.takeWhile_append_dropWhile]
  rw [whole, trim_append_left blank]
  refine trim_of_trimmed ⟨fun char first => ?_, fun char last => ?_⟩
  · cases start : trimStart front with
    | nil =>
      rw [start, List.nil_append] at first
      exact trimmed.first char first
    | cons other others =>
      rw [start] at first
      exact not_blank_of_head?_trimStart (start ▸ first : (trimStart front).head? = some char)
  · rw [List.getLast?_append, List.getLast?_eq_some_getLast nonempty, Option.some_or,
      ← List.getLast?_eq_some_getLast nonempty] at last
    exact trimmed.last char last

end Text

open Text

/-- A line without its comment is trimmed. -/
theorem trimmed_stripComment (line : String) : Trimmed (stripComment line).toList := by
  rw [stripComment, String.toList_ofList]
  exact trimmed_trim _

/-- A line without its comment holds no comment. -/
theorem not_comment_mem_stripComment (line : String) : '#' ∉ (stripComment line).toList := by
  intro member
  obtain ⟨before, after, -, -, same⟩ :=
    exists_append_trim_append (line.toList.takeWhile (· != '#'))
  rw [stripComment, String.toList_ofList] at member
  have inside : '#' ∈ line.toList.takeWhile (· != '#') := by
    rw [same]
    exact List.mem_append_left _ (List.mem_append_right _ member)
  exact absurd (List.mem_takeWhile_imp inside) (by decide)

/-- Nothing is stripped from a trimmed line that holds no comment. -/
theorem stripComment_of_trimmed {line : String} (trimmed : Trimmed line.toList)
    (noComment : '#' ∉ line.toList) : stripComment line = line := by
  have whole : line.toList.takeWhile (· != '#') = line.toList := by
    refine List.takeWhile_eq_self_iff.2 fun char member => ?_
    rw [bne_iff_ne]
    rintro rfl
    exact noComment member
  rw [stripComment, whole, trim_of_trimmed trimmed, String.ofList_toList]

/-- Nothing is left to strip from a line without its comment. -/
theorem stripComment_stripComment (line : String) :
    stripComment (stripComment line) = stripComment line :=
  stripComment_of_trimmed (trimmed_stripComment line) (not_comment_mem_stripComment line)

/-- What follows the mark of a comment is cut off with it. -/
theorem stripComment_append_comment (line comment : String) :
    stripComment (line ++ "#" ++ comment) = stripComment line := by
  have mark : (line ++ "#" ++ comment).toList = line.toList ++ '#' :: comment.toList := by
    simp
  have stopped : ('#' :: comment.toList).takeWhile (· != '#') = [] :=
    List.takeWhile_cons_of_neg (by decide)
  have same : (line ++ "#" ++ comment).toList.takeWhile (· != '#') =
      line.toList.takeWhile (· != '#') := by
    rw [mark, List.takeWhile_append, stopped, List.append_nil]
    split
    · next whole => exact ((List.takeWhile_prefix _).eq_of_length whole).symm
    · rfl
  rw [stripComment, same, stripComment]

/-- What stands before a line, and a space, is not cut off with the comment of the line. -/
theorem stripComment_append_line {lead : String} (noComment : '#' ∉ lead.toList)
    (line : String) : stripComment (lead ++ " " ++ line) =
      String.ofList (trim (lead.toList ++ ' ' :: line.toList.takeWhile (· != '#'))) := by
  have plain : ∀ char ∈ lead.toList ++ [' '], (char != '#') = true := by
    intro char member
    rw [bne_iff_ne]
    rintro rfl
    simp [noComment] at member
  have chars : (lead ++ " " ++ line).toList = (lead.toList ++ [' ']) ++ line.toList := by
    simp
  rw [stripComment, chars, List.takeWhile_append_of_pos plain, List.append_assoc,
    List.singleton_append]

/-- If a line is more than a comment, it stays as it is without one behind all that stands before
it. -/
theorem exists_stripComment_append_line {line : String} (nonempty : stripComment line ≠ "") :
    ∃ blanks, AllBlank blanks ∧ ∀ lead : String, '#' ∉ lead.toList →
      stripComment (lead ++ " " ++ line) =
        String.ofList (trimStart (lead.toList ++ ' ' :: blanks)) ++ stripComment line := by
  obtain ⟨before, after, blankBefore, blankAfter, same⟩ :=
    exists_append_trim_append (line.toList.takeWhile (· != '#'))
  have some : trim (line.toList.takeWhile (· != '#')) ≠ [] := fun nothing =>
    nonempty (by rw [stripComment, nothing])
  refine ⟨before, blankBefore, fun lead noComment => ?_⟩
  have shape : lead.toList ++ ' ' :: line.toList.takeWhile (· != '#') =
      ((lead.toList ++ ' ' :: before) ++ trim (line.toList.takeWhile (· != '#'))) ++ after := by
    conv => lhs; rw [same]
    simp only [List.append_assoc, List.cons_append]
  rw [stripComment_append_line noComment, shape, trim_append_right blankAfter,
    trim_append_of_trimmed (trimmed_trim _) some, String.ofList_append]
  rfl

/-- The comment of a line is cut off in the same way once the line is trimmed. -/
theorem stripComment_trim (line : String) :
    stripComment (String.ofList (trim line.toList)) = stripComment line := by
  obtain ⟨before, after, blankBefore, blankAfter, same⟩ := exists_append_trim_append line.toList
  have noMark {blanks : List Char} : AllBlank blanks → ∀ char ∈ blanks, (char != '#') = true := by
    intro blank char within
    rw [bne_iff_ne]
    rintro rfl
    exact absurd (blank '#' within) (by decide)
  have inner : trim ((trim line.toList ++ after).takeWhile (· != '#')) =
      trim ((trim line.toList).takeWhile (· != '#')) := by
    rw [List.takeWhile_append]
    split
    · next whole =>
      rw [List.takeWhile_eq_self_iff.2 (noMark blankAfter), trim_append_right blankAfter,
        (List.takeWhile_prefix _).eq_of_length whole]
    · rfl
  rw [stripComment, stripComment, String.toList_ofList]
  conv => rhs; rw [same]
  rw [List.append_assoc, List.takeWhile_append_of_pos (noMark blankBefore),
    trim_append_left blankBefore, inner]

/-- A line holds the same command once it is trimmed. -/
theorem Command.parse_trim (line : String) :
    Command.parse (String.ofList (trim line.toList)) = Command.parse line := by
  rw [Command.parse, stripComment_trim, Command.parse]

end PacketFilter
