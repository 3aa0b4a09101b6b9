import Mathlib.Data.List.Basic
import PacketFilter.Text

/-!
# Cutting a text into lines

A text is the sequence of its full lines, each with its line end; only the last one may lack it.
Full lines are cut off one by one, so a text that is ended can be continued without touching its
lines (`linesWith_append`), and leaving out full lines leaves out just these lines
(`lines_keep`).
-/
namespace PacketFilter.Text

variable {α : Type}

/-- The items whose marks are set. -/
def marked (marks : List Bool) (items : List α) : List α :=
  ((items.zip marks).filter Prod.snd).map Prod.fst

/-- Nothing is marked where there is nothing. -/
@[simp] theorem marked_nil (marks : List Bool) : marked marks ([] : List α) = [] := rfl

/-- An item is there exactly if its mark is set. -/
@[simp] theorem marked_cons_cons (mark : Bool) (marks : List Bool) (item : α) (items : List α) :
    marked (mark :: marks) (item :: items) =
      if mark then item :: marked marks items else marked marks items := by
  cases mark <;> simp [marked]

/-- The images of marked items are the marked images. -/
theorem marked_map {β : Type} (image : α → β) (marks : List Bool) (items : List α) :
    marked marks (items.map image) = (marked marks items).map image := by
  induction items generalizing marks with
  | nil => rfl
  | cons item rest ih =>
    cases marks with
    | nil => rfl
    | cons mark marks => cases mark <;> simp [ih]

/-- The marked items occur in order. -/
theorem marked_sublist (marks : List Bool) (items : List α) :
    (marked marks items).Sublist items := by
  induction items generalizing marks with
  | nil => exact .refl []
  | cons item rest ih =>
    cases marks with
    | nil => exact List.nil_sublist _
    | cons mark marks =>
      cases mark with
      | false => simpa using (ih marks).cons item
      | true => simpa using (ih marks).cons_cons item

variable [DecidableEq α] {lineFeed carriageReturn : α}

/-- Lines that are not the last ones are ended by line feeds. -/
theorem closeLines_append (carriageReturn : α) (before : List (List α)) {after : List (List α)}
    (nonempty : after ≠ []) :
    closeLines carriageReturn (before ++ after) =
      before.map (dropReturn carriageReturn) ++ closeLines carriageReturn after := by
  induction before with
  | nil => rfl
  | cons line rest ih =>
    obtain ⟨next, others, same⟩ := List.exists_cons_of_ne_nil
      (List.append_ne_nil_of_right_ne_nil rest nonempty)
    rw [List.cons_append, same, closeLines, ← same, ih]
    rfl

/-- A line feed ends a line: what is after it is cut into lines for itself. -/
theorem linesWith_append_cons (lineFeed carriageReturn : α) (before after : List α) :
    linesWith lineFeed carriageReturn (before ++ lineFeed :: after) =
      (split (· == lineFeed) before).map (dropReturn carriageReturn) ++
        linesWith lineFeed carriageReturn after := by
  have cut := split_append_cons (· == lineFeed) before lineFeed after (by simp)
  rw [linesWith, cut, closeLines_append _ _ (split_ne_nil _ after), linesWith]

/-- A text without items has no lines. -/
@[simp] theorem linesWith_nil : linesWith lineFeed carriageReturn [] = [] := rfl

/-- A sequence without line feeds is one piece. -/
theorem split_of_not_mem {line : List α} (plain : lineFeed ∉ line) :
    split (· == lineFeed) line = [line] := by
  refine split_of_forall_not _ line fun item within => ?_
  simpa using fun same : item = lineFeed => plain (same ▸ within)

/-- Full lines are cut off one by one. -/
theorem linesWith_line_append {line : List α} (plain : lineFeed ∉ line) (after : List α) :
    linesWith lineFeed carriageReturn (line ++ lineFeed :: after) =
      dropReturn carriageReturn line :: linesWith lineFeed carriageReturn after := by
  rw [linesWith_append_cons, split_of_not_mem plain]
  rfl

/-- Without a line feed, all that is left is one line. -/
theorem linesWith_of_not_mem {line : List α} (plain : lineFeed ∉ line) (nonempty : line ≠ []) :
    linesWith lineFeed carriageReturn line = [line] := by
  rw [linesWith, split_of_not_mem plain, closeLines, if_neg (by simpa using nonempty)]

/-- Whether a sequence can be continued with a new line. -/
def Ended (lineFeed : α) (items : List α) : Prop := ∀ last ∈ items.getLast?, last = lineFeed

/-- Only the last item has to be looked at. -/
instance (lineFeed : α) (items : List α) : Decidable (Ended lineFeed items) :=
  inferInstanceAs (Decidable (∀ last ∈ items.getLast?, last = lineFeed))

/-- What follows an ended sequence is cut into lines for itself. -/
theorem linesWith_append {items : List α} (ended : Ended lineFeed items) (after : List α) :
    linesWith lineFeed carriageReturn (items ++ after) =
      linesWith lineFeed carriageReturn items ++ linesWith lineFeed carriageReturn after := by
  rcases List.eq_nil_or_concat items with rfl | ⟨before, last, rfl⟩
  · rfl
  · obtain rfl := ended last (by simp)
    have alone := linesWith_append_cons last carriageReturn before []
    have continued := linesWith_append_cons last carriageReturn before after
    rw [linesWith_nil, List.append_nil] at alone
    rw [List.concat_eq_append, List.append_assoc, List.singleton_append, continued, alone]

/-- What follows an ended text is cut into lines for itself. -/
theorem lines_append {front : String} (ended : Ended '\n' front.toList) (back : String) :
    lines (front ++ back) = lines front ++ lines back := by
  rw [lines, String.toList_append, linesWith_append ended, List.map_append, lines, lines]

/-- A text that is written line by line is cut into these lines. -/
theorem lines_join {texts : List String} (single : ∀ text ∈ texts, '\n' ∉ text.toList)
    (noReturn : ∀ text ∈ texts, text.toList.getLast? ≠ some '\r') :
    lines (String.join (texts.map (· ++ "\n"))) = texts := by
  induction texts with
  | nil => rfl
  | cons text rest ih =>
    have others := ih (fun other within => single other (List.mem_cons_of_mem _ within))
      fun other within => noReturn other (List.mem_cons_of_mem _ within)
    have chars : (String.join ((text :: rest).map (· ++ "\n"))).toList =
        text.toList ++ '\n' :: (String.join (rest.map (· ++ "\n"))).toList := by
      simp [String.toList_append]
    rw [lines] at others ⊢
    rw [chars, linesWith_line_append (single text List.mem_cons_self), dropReturn,
      if_neg (noReturn text List.mem_cons_self), List.map_cons, others, String.ofList_toList]

/-! ## Full lines -/

/-- Pieces with the line feeds that ended them: all but the last one. -/
def rejoin (lineFeed : α) : List (List α) → List (List α)
  | [] => []
  | [last] => if last.isEmpty then [] else [last]
  | line :: next :: rest => (line ++ [lineFeed]) :: rejoin lineFeed (next :: rest)

/-- The lines of a sequence with their line ends. -/
def fullLines (lineFeed : α) (items : List α) : List (List α) :=
  rejoin lineFeed (split (· == lineFeed) items)

/-- A line without its line end, if it has one. -/
def withoutEnd (lineFeed carriageReturn : α) (line : List α) : List α :=
  if line.getLast? = some lineFeed then dropReturn carriageReturn line.dropLast else line

/-- Full lines in a row, of which only the last may lack its line end. -/
inductive FullLines (lineFeed : α) : List (List α) → Prop where
  /-- There are no lines. -/
  | none : FullLines lineFeed []
  /-- The last line lacks its line end. -/
  | unended {line : List α} (plain : lineFeed ∉ line) (nonempty : line ≠ []) :
      FullLines lineFeed [line]
  /-- A line with its end comes before others. -/
  | ended {line : List α} {rest : List (List α)} (plain : lineFeed ∉ line)
      (others : FullLines lineFeed rest) : FullLines lineFeed ((line ++ [lineFeed]) :: rest)

omit [DecidableEq α] in
/-- Leaving out full lines leaves full lines. -/
theorem FullLines.of_sublist {lines kept : List (List α)} (full : FullLines lineFeed lines)
    (sub : kept.Sublist lines) : FullLines lineFeed kept := by
  induction full generalizing kept with
  | none =>
    obtain rfl := List.sublist_nil.1 sub
    exact .none
  | unended plain nonempty =>
    rcases List.sublist_singleton.1 sub with rfl | rfl
    · exact .none
    · exact .unended plain nonempty
  | ended plain others ih =>
    cases sub with
    | cons _ sub => exact ih sub
    | cons_cons _ sub => exact .ended plain (ih sub)

/-- The lines of full lines in a row are these lines without their ends. -/
theorem FullLines.linesWith_flatten (carriageReturn : α) {lines : List (List α)}
    (full : FullLines lineFeed lines) :
    linesWith lineFeed carriageReturn lines.flatten =
      lines.map (withoutEnd lineFeed carriageReturn) := by
  induction full with
  | none => rfl
  | @unended line plain nonempty =>
    have noEnd : line.getLast? ≠ some lineFeed :=
      fun last => plain (List.mem_of_getLast? last)
    simp [linesWith_of_not_mem plain nonempty, withoutEnd, noEnd]
  | ended plain others ih =>
    simp [linesWith_line_append plain, ih, withoutEnd]

omit [DecidableEq α] in
/-- Pieces without line feeds become full lines. -/
theorem fullLines_rejoin {pieces : List (List α)} (plain : ∀ piece ∈ pieces, lineFeed ∉ piece) :
    FullLines lineFeed (rejoin lineFeed pieces) := by
  induction pieces with
  | nil => exact .none
  | cons piece rest ih =>
    have others := ih fun other within => plain other (List.mem_cons_of_mem _ within)
    have first := plain piece List.mem_cons_self
    cases rest with
    | nil =>
      cases piece with
      | nil => exact .none
      | cons item items => exact .unended first (by simp)
    | cons next later => exact .ended first others

omit [DecidableEq α] in
/-- An item before the first piece is an item before the first line. -/
theorem flatten_rejoin_cons (lineFeed item : α) (piece : List α) (pieces : List (List α)) :
    (rejoin lineFeed ((item :: piece) :: pieces)).flatten =
      item :: (rejoin lineFeed (piece :: pieces)).flatten := by
  cases pieces with
  | nil => cases piece <;> simp [rejoin]
  | cons next later => simp [rejoin]

/-- The full lines of a sequence make up the sequence. -/
theorem flatten_fullLines (lineFeed : α) (items : List α) :
    (fullLines lineFeed items).flatten = items := by
  induction items with
  | nil => rfl
  | cons item rest ih =>
    rw [fullLines] at ih ⊢
    obtain ⟨piece, pieces, cut⟩ := List.exists_cons_of_ne_nil
      (split_ne_nil (· == lineFeed) rest)
    rw [cut] at ih
    by_cases isEnd : item = lineFeed
    · have ended : split (· == lineFeed) (item :: rest) = [] :: piece :: pieces := by
        simp [split, isEnd, cut]
      rw [ended, rejoin, List.flatten_cons, ih, isEnd]
      rfl
    · have goesOn : split (· == lineFeed) (item :: rest) = (item :: piece) :: pieces := by
        simp [split, isEnd, cut]
      rw [goesOn, flatten_rejoin_cons, ih]

/-- The full lines of a sequence are full lines. -/
theorem fullLines_full (lineFeed : α) (items : List α) :
    FullLines lineFeed (fullLines lineFeed items) :=
  fullLines_rejoin fun piece within inside => by
    simpa using not_separator_of_mem_split _ items piece within lineFeed inside

/-- The lines of a sequence are its full lines without their ends. -/
theorem linesWith_eq_map_fullLines (lineFeed carriageReturn : α) (items : List α) :
    linesWith lineFeed carriageReturn items =
      (fullLines lineFeed items).map (withoutEnd lineFeed carriageReturn) := by
  have cut := (fullLines_full lineFeed items).linesWith_flatten carriageReturn
  rwa [flatten_fullLines] at cut

/-- A text without the lines that are not marked. The others keep their line ends. -/
def keep (marks : List Bool) (text : String) : String :=
  String.ofList (marked marks (fullLines '\n' text.toList)).flatten

/-- What is kept of a text are its marked lines. -/
theorem lines_keep (marks : List Bool) (text : String) :
    lines (keep marks text) = marked marks (lines text) := by
  have kept := (fullLines_full '\n' text.toList).of_sublist (marked_sublist marks _)
  rw [lines, keep, String.toList_ofList, kept.linesWith_flatten, lines,
    linesWith_eq_map_fullLines, marked_map, marked_map]

end PacketFilter.Text
