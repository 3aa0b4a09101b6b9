import PacketFilter.Proofs.Text.Lines
import PacketFilter.Proofs.Text.Utf8

/-!
# Lines of bytes

A line feed and a carriage return are single bytes that occur in no other character, so cutting the
bytes of a text into lines gives the bytes of its lines (`linesWith_toUTF8`). Bytes are a text
exactly if each of their lines is one, so where bytes are no text there is a first line that is
none (`exists_first_unreadable`), and reading line by line stops just there.
-/
namespace PacketFilter

namespace Text

open ByteSource (lineFeed carriageReturn)

/-- The bytes of characters in a row. -/
def encode (chars : List Char) : List UInt8 := chars.flatMap String.utf8EncodeChar

/-- The bytes of a text are those of its characters. -/
theorem toList_toUTF8_ofList (chars : List Char) :
    (String.ofList chars).toUTF8.toList = encode chars := by
  rw [toList_toUTF8, String.toList_ofList, encode]

/-- The bytes of one character come before those of the others. -/
theorem encode_cons (char : Char) (rest : List Char) :
    encode (char :: rest) = String.utf8EncodeChar char ++ encode rest :=
  List.flatMap_cons

/-- Bytes of characters and of others after them are bytes of all of them. -/
theorem encode_append (before after : List Char) :
    encode (before ++ after) = encode before ++ encode after :=
  List.flatMap_append

/-- Only a line feed has the byte of a line feed. -/
theorem lineFeed_not_mem_utf8EncodeChar {char : Char} (other : char ≠ '\n') :
    lineFeed ∉ String.utf8EncodeChar char := by
  intro within
  have number := toNat_of_mem_utf8EncodeChar within (by decide)
  exact other (Char.toNat_inj.1 number)

/-- The pieces between the line feeds among the bytes are the bytes of those in the text. -/
theorem split_encode (chars : List Char) :
    split (· == lineFeed) (encode chars) = (split (· == '\n') chars).map encode := by
  induction chars with
  | nil => rfl
  | cons char rest ih =>
    obtain ⟨piece, pieces, cut⟩ := List.exists_cons_of_ne_nil (split_ne_nil (· == '\n') rest)
    rw [cut, List.map_cons] at ih
    by_cases isEnd : char = '\n'
    · have ended : split (· == '\n') (char :: rest) = [] :: piece :: pieces := by
        simp [split, isEnd, cut]
      have byte : encode (char :: rest) = [] ++ lineFeed :: encode rest := by
        rw [encode_cons, isEnd]
        rfl
      rw [ended, byte, split_append_cons _ _ _ _ (by simp), ih]
      rfl
    · have goesOn : split (· == '\n') (char :: rest) = (char :: piece) :: pieces := by
        simp [split, isEnd, cut]
      have plain : ∀ byte ∈ String.utf8EncodeChar char, (byte == lineFeed) = false := by
        intro byte within
        have differs : byte ≠ lineFeed := fun same =>
          lineFeed_not_mem_utf8EncodeChar isEnd (same ▸ within)
        simpa using differs
      rw [goesOn, encode_cons, split_plain_append plain ih, List.map_cons, encode_cons]

/-- A line loses the byte of its carriage return exactly if it loses the carriage return. -/
theorem dropReturn_encode (line : List Char) :
    dropReturn carriageReturn (encode line) = encode (dropReturn '\r' line) := by
  by_cases last : line.getLast? = some '\r'
  · obtain ⟨before, rfl⟩ := List.getLast?_eq_some_iff.1 last
    have byte : encode ['\r'] = [carriageReturn] := rfl
    rw [dropReturn, dropReturn, encode_append, byte, List.getLast?_concat, if_pos rfl,
      List.dropLast_concat, if_pos last, List.dropLast_concat]
  · have lastByte : (encode line).getLast? ≠ some carriageReturn := by
      intro same
      rw [← toList_toUTF8_ofList] at same
      have char : (String.ofList line).toList.getLast? = some '\r' :=
        getLast?_of_byte_getLast? rfl (by decide) same
      rw [String.toList_ofList] at char
      exact last char
    rw [dropReturn, if_neg lastByte, dropReturn, if_neg last]

/-- Pieces of bytes are closed to lines as the pieces of the text are. -/
theorem closeLines_encode (pieces : List (List Char)) :
    closeLines carriageReturn (pieces.map encode) = (closeLines '\r' pieces).map encode := by
  induction pieces with
  | nil => rfl
  | cons piece rest ih =>
    cases rest with
    | nil =>
      cases piece with
      | nil => rfl
      | cons char chars =>
        have nonempty : encode (char :: chars) ≠ [] := by
          rw [encode_cons]
          refine List.append_ne_nil_of_left_ne_nil ?_ _
          rw [← List.length_pos_iff, String.length_utf8EncodeChar]
          exact char.utf8Size_pos
        rw [List.map_singleton, closeLines, if_neg (by simpa using nonempty)]
        rfl
    | cons next others =>
      rw [List.map_cons, List.map_cons, closeLines, ← List.map_cons, ih, dropReturn_encode,
        closeLines, List.map_cons]

/-- The bytes of texts are those of their characters. -/
theorem map_encode (texts : List (List Char)) :
    texts.map encode = (texts.map String.ofList).map fun text => text.toUTF8.toList := by
  rw [List.map_map]
  exact List.map_congr_left fun chars _ => (toList_toUTF8_ofList chars).symm

/-- The lines of the bytes of a text are the bytes of its lines. -/
theorem linesWith_toUTF8 (text : String) :
    linesWith lineFeed carriageReturn text.toUTF8.toList =
      (lines text).map fun line => line.toUTF8.toList := by
  have bytes : text.toUTF8.toList = encode text.toList := toList_toUTF8 text
  rw [bytes, linesWith, split_encode, closeLines_encode, lines, ← map_encode, linesWith]

/-- The ended lines of the bytes of a text are the bytes of its ended lines. -/
theorem endedLinesWith_encode (chars : List Char) :
    endedLinesWith lineFeed carriageReturn (encode chars) =
      (endedLinesWith '\n' '\r' chars).map encode := by
  rw [endedLinesWith, split_encode, ← List.map_dropLast, List.map_map, endedLinesWith,
    List.map_map]
  exact List.map_congr_left fun line _ => dropReturn_encode line

/-- A line that is not ended is not among the ended lines of a sequence. -/
theorem endedLinesWith_append {α : Type} [DecidableEq α] {lineFeed : α} (carriageReturn : α)
    {ended unended : List α} (isEnded : Ended lineFeed ended) (plain : lineFeed ∉ unended) :
    endedLinesWith lineFeed carriageReturn (ended ++ unended) =
      linesWith lineFeed carriageReturn ended := by
  rcases List.eq_nil_or_concat ended with rfl | ⟨before, last, rfl⟩
  · rw [endedLinesWith, List.nil_append, split_of_not_mem plain]
    rfl
  · obtain rfl := isEnded last (by simp)
    rw [List.concat_eq_append, List.append_assoc, List.singleton_append, endedLinesWith,
      split_append_cons _ _ _ _ (by simp), split_of_not_mem plain, List.dropLast_concat,
      linesWith_append_cons, linesWith_nil, List.append_nil]

/-- A sequence is cut into one piece more than it has line feeds. -/
theorem length_split {α : Type} [DecidableEq α] (lineFeed : α) (items : List α) :
    (split (· == lineFeed) items).length = items.count lineFeed + 1 := by
  induction items with
  | nil => rfl
  | cons item rest ih =>
    obtain ⟨piece, pieces, cut⟩ := List.exists_cons_of_ne_nil (split_ne_nil (· == lineFeed) rest)
    rw [cut, List.length_cons] at ih
    by_cases isEnd : item = lineFeed
    · simp [split, isEnd, cut, ih]
    · simp [split, isEnd, cut, ih]

/-- There is one ended line for each line feed. -/
theorem length_endedLinesWith {α : Type} [DecidableEq α] (lineFeed carriageReturn : α)
    (items : List α) :
    (endedLinesWith lineFeed carriageReturn items).length = items.count lineFeed := by
  rw [endedLinesWith, List.length_map, List.length_dropLast, length_split, Nat.add_sub_cancel]

/-- The bytes of a text hold as many line feeds as the text. -/
theorem count_toUTF8 (text : String) :
    text.toUTF8.toList.count lineFeed = text.toList.count '\n' := by
  have cut := congrArg List.length (split_encode text.toList)
  rw [List.length_map, length_split, length_split, encode, ← toList_toUTF8] at cut
  exact Nat.add_right_cancel cut

/-- An ended text has one line for each line feed. -/
theorem length_lines {text : String} (isEnded : Ended '\n' text.toList) :
    (lines text).length = text.toList.count '\n' := by
  have all := endedLinesWith_append '\r' isEnded List.not_mem_nil
  rw [List.append_nil] at all
  rw [lines, List.length_map, ← all, length_endedLinesWith]

/-- A line is what is left without its line end, and that line end. -/
theorem exists_withoutEnd_append {α : Type} [DecidableEq α] (lineFeed carriageReturn : α)
    (line : List α) :
    ∃ ending ∈ [[], [lineFeed], [carriageReturn, lineFeed]],
      line = withoutEnd lineFeed carriageReturn line ++ ending := by
  by_cases isEnded : line.getLast? = some lineFeed
  · obtain ⟨before, rfl⟩ := List.getLast?_eq_some_iff.1 isEnded
    rw [withoutEnd, if_pos isEnded, List.dropLast_concat]
    by_cases returned : before.getLast? = some carriageReturn
    · obtain ⟨start, rfl⟩ := List.getLast?_eq_some_iff.1 returned
      refine ⟨[carriageReturn, lineFeed], by simp, ?_⟩
      rw [dropReturn, if_pos returned, List.dropLast_concat, List.append_assoc,
        List.singleton_append]
    · exact ⟨[lineFeed], by simp, by rw [dropReturn, if_neg returned]⟩
  · exact ⟨[], by simp, by rw [withoutEnd, if_neg isEnded, List.append_nil]⟩

end Text

namespace ByteSource

open Text

/-- Bytes are decoded to a text exactly if they are its bytes. -/
theorem decode?_eq_some_iff {bytes : List UInt8} {text : String} :
    decode? bytes = some text ↔ text.toUTF8.toList = bytes := by
  constructor
  · intro decoded
    rw [decode?, String.fromUTF8?] at decoded
    split at decoded
    · next valid =>
      obtain rfl := Option.some.inj decoded
      rw [toList_eq_data, String.toUTF8_eq_toByteArray]
      exact List.toList_data_toByteArray
    · cases decoded
  · rintro rfl
    exact decode?_toUTF8 text

/-- Two texts in a row are a text. -/
theorem decode?_append {before after : List UInt8} {first second : String}
    (decodedFirst : decode? before = some first) (decodedSecond : decode? after = some second) :
    decode? (before ++ after) = some (first ++ second) := by
  rw [decode?_eq_some_iff] at *
  rw [toList_toUTF8, String.toList_append, List.flatMap_append, ← toList_toUTF8,
    ← toList_toUTF8, decodedFirst, decodedSecond]

/-- Texts in a row are a text. -/
theorem exists_decode?_flatten {lines : List (List UInt8)}
    (readable : ∀ line ∈ lines, decode? line ≠ none) :
    ∃ text, decode? lines.flatten = some text := by
  induction lines with
  | nil => exact ⟨"", rfl⟩
  | cons line rest ih =>
    obtain ⟨later, decodedLater⟩ := ih fun other within =>
      readable other (List.mem_cons_of_mem _ within)
    obtain ⟨first, decodedFirst⟩ := Option.ne_none_iff_exists'.1 (readable line List.mem_cons_self)
    exact ⟨first ++ later, decode?_append decodedFirst decodedLater⟩

/-- What is no text is none without its line end either. -/
theorem decode?_withoutEnd_eq_none {line : List UInt8} (unreadable : decode? line = none) :
    decode? (withoutEnd lineFeed carriageReturn line) = none := by
  obtain ⟨ending, isEnding, whole⟩ := exists_withoutEnd_append lineFeed carriageReturn line
  have decodedEnding : ∃ text, decode? ending = some text := by
    simp only [List.mem_cons, List.not_mem_nil, or_false] at isEnding
    rcases isEnding with rfl | rfl | rfl
    · exact ⟨"", decode?_eq_some_iff.2 (toList_toUTF8 _)⟩
    · exact ⟨"\n", decode?_eq_some_iff.2 (toList_toUTF8 _)⟩
    · exact ⟨"\r\n", decode?_eq_some_iff.2 (toList_toUTF8 _)⟩
  obtain ⟨text, decodedEnding⟩ := decodedEnding
  by_contra readable
  obtain ⟨start, decodedStart⟩ := Option.ne_none_iff_exists'.1 readable
  have decoded := decode?_append decodedStart decodedEnding
  rw [← whole, unreadable] at decoded
  cases decoded

/-- Bytes that are no text have a first line that is none. -/
theorem exists_first_unreadable {bytes : List UInt8} (unreadable : decode? bytes = none) :
    ∃ before line after, fullLines lineFeed bytes = before ++ line :: after ∧
      (∀ earlier ∈ before, decode? earlier ≠ none) ∧ decode? line = none := by
  cases first : (fullLines lineFeed bytes).find? fun line => (decode? line).isNone with
  | none =>
    have readable : ∀ line ∈ fullLines lineFeed bytes, decode? line ≠ none := by
      simpa using List.find?_eq_none.1 first
    obtain ⟨text, decoded⟩ := exists_decode?_flatten readable
    rw [flatten_fullLines, unreadable] at decoded
    cases decoded
  | some line =>
    obtain ⟨isNone, before, after, whole, readable⟩ := List.find?_eq_some_iff_append.1 first
    refine ⟨before, line, after, whole, fun earlier within => ?_, by simpa using isNone⟩
    simpa [Option.isSome_iff_ne_none] using readable earlier within

/-! ## Reading lines -/

/-- The bytes of texts are read as these texts. -/
theorem decodeLines_map_toUTF8 (texts : List String) :
    decodeLines (texts.map fun text => text.toUTF8.toList) = (texts, false) := by
  induction texts with
  | nil => rfl
  | cons text rest ih => rw [List.map_cons, decodeLines, decode?_toUTF8, ih]

/-- If all lines before can be read, the lines after them are read as well as they can be alone. -/
theorem decodeLines_append {before : List (List UInt8)} (after : List (List UInt8))
    (whole : (decodeLines before).2 = false) :
    decodeLines (before ++ after) =
      ((decodeLines before).1 ++ (decodeLines after).1, (decodeLines after).2) := by
  induction before with
  | nil => rfl
  | cons line rest ih =>
    cases decoded : decode? line with
    | none => simp [decodeLines, decoded] at whole
    | some text =>
      have others : (decodeLines rest).2 = false := by simpa [decodeLines, decoded] using whole
      simp [decodeLines, decoded, ih others]

/-- If a line before cannot be read, nothing after it matters. -/
theorem decodeLines_append_of_stopped {before : List (List UInt8)} (after : List (List UInt8))
    (stopped : (decodeLines before).2 = true) :
    decodeLines (before ++ after) = decodeLines before := by
  induction before with
  | nil => simp [decodeLines] at stopped
  | cons line rest ih =>
    cases decoded : decode? line with
    | none => simp [decodeLines, decoded]
    | some text =>
      have later : (decodeLines rest).2 = true := by simpa [decodeLines, decoded] using stopped
      simp [decodeLines, decoded, ih later]

/-- A source that delivers a text and ends is read as the lines of the text. -/
theorem lines_toUTF8 (text : String) :
    (ByteSource.mk text.toUTF8.toList none).lines = (Text.lines text, none) := by
  simp only [lines, rawLines, linesWith_toUTF8, decodeLines_map_toUTF8, Bool.false_eq_true,
    if_false]

/-- Full lines that make up a text are the bytes of its lines, with their line ends. -/
theorem map_withoutEnd_eq_lines {full : List (List UInt8)} {text : String}
    (isFull : FullLines lineFeed full) (decoded : decode? full.flatten = some text) :
    full.map (withoutEnd lineFeed carriageReturn) =
      (Text.lines text).map fun line => line.toUTF8.toList := by
  rw [← isFull.linesWith_flatten, ← decode?_eq_some_iff.1 decoded, linesWith_toUTF8]

/-- Full lines that make up a text are as many as its lines. -/
theorem length_lines_of_decode? {full : List (List UInt8)} {text : String}
    (isFull : FullLines lineFeed full) (decoded : decode? full.flatten = some text) :
    (Text.lines text).length = full.length := by
  simpa using (congrArg List.length (map_withoutEnd_eq_lines isFull decoded)).symm

/-- A source is read up to the first line that is no text. -/
theorem lines_of_unreadable {bytes line : List UInt8} {before after : List (List UInt8)}
    {text : String} (whole : fullLines lineFeed bytes = before ++ line :: after)
    (isFull : FullLines lineFeed before) (decoded : decode? before.flatten = some text)
    (unreadable : decode? line = none) :
    (ByteSource.mk bytes none).lines = (Text.lines text, some .notText) := by
  have stops : decodeLines ((line :: after).map (withoutEnd lineFeed carriageReturn)) =
      ([], true) := by
    rw [List.map_cons, decodeLines, decode?_withoutEnd_eq_none unreadable]
  have texts : decodeLines (linesWith lineFeed carriageReturn bytes) = (Text.lines text, true) := by
    rw [linesWith_eq_map_fullLines, whole, List.map_append,
      map_withoutEnd_eq_lines isFull decoded,
      decodeLines_append _ (by rw [decodeLines_map_toUTF8]), stops, decodeLines_map_toUTF8,
      List.append_nil]
  simp only [lines, rawLines, texts, if_true]

/-- A source that fails loses the line that is not ended. -/
theorem lines_of_fault {ended unended : String} (fault : Fault)
    (isEnded : Ended '\n' ended.toList) (plain : '\n' ∉ unended.toList) :
    (ByteSource.mk (ended ++ unended).toUTF8.toList (some fault)).lines =
      (Text.lines ended, some fault) := by
  have bytes : (ended ++ unended).toUTF8.toList = encode (ended.toList ++ unended.toList) := by
    rw [toList_toUTF8, String.toList_append, encode]
  have arrive : endedLinesWith lineFeed carriageReturn (ended ++ unended).toUTF8.toList =
      (Text.lines ended).map fun line => line.toUTF8.toList := by
    rw [bytes, endedLinesWith_encode, endedLinesWith_append '\r' isEnded plain, map_encode,
      Text.lines]
  simp only [lines, rawLines, arrive, decodeLines_map_toUTF8, Bool.false_eq_true, if_false]

end ByteSource

end PacketFilter
