import Mathlib.Data.List.DropRight
import PacketFilter.Proofs.History
import PacketFilter.Proofs.Loading
import PacketFilter.Proofs.Text.ByteLines

/-!
# Loading from a source

A source that delivers a text loads as the text does. A source that stops early, because a line is
no text or because the device fails, loads as the text of the lines before, and the failure names
the line after them (`loadSource_of_bytes`). What was loaded before the failure stays.
-/
namespace PacketFilter

open Text

/-- A sequence is an ended part and a last line that is not ended. -/
theorem Text.exists_ended_append {α : Type} [DecidableEq α] (lineFeed : α) (items : List α) :
    ∃ ended unended, items = ended ++ unended ∧ Ended lineFeed ended ∧ lineFeed ∉ unended := by
  refine ⟨items.rdropWhile (· != lineFeed), items.rtakeWhile (· != lineFeed),
    List.rdropWhile_append_rtakeWhile.symm, ?_, ?_⟩
  · intro last isLast
    have nonempty : items.rdropWhile (· != lineFeed) ≠ [] := by
      intro empty
      rw [empty] at isLast
      cases isLast
    have stops := List.rdropWhile_last_not (· != lineFeed) items nonempty
    rw [List.getLast?_eq_some_getLast nonempty] at isLast
    obtain rfl := Option.some.inj isLast
    simpa using stops
  · intro within
    simpa using List.mem_rtakeWhile_imp within

namespace Table

open ByteSource (decode? lineFeed)

variable (table : Table)

/-- A source whose lines are those of a text, and that ends, loads as the text does. -/
theorem loadSource_of_lines {source : ByteSource} {text : String}
    (read : source.lines = (Text.lines text, none)) :
    table.loadSource source = ((table.loadText text).1, .ok (table.loadText text).2) := by
  simp only [loadSource, read, loadText]

/-- A source whose lines are those of a text, and that stops then, leaves what the text does and
fails at the next line. -/
theorem loadSource_of_lines_of_fault {source : ByteSource} {text : String} {fault : Fault}
    (read : source.lines = (Text.lines text, some fault)) :
    table.loadSource source =
      ((table.loadText text).1, .error ⟨(Text.lines text).length + 1, fault⟩) := by
  simp only [loadSource, read, loadText]

/-- Bytes that are a text load as the text does. Bytes that are no text have a first line that is
none: the lines before it are loaded, and it is the line that cannot be read. If the source fails
after the bytes of a text, the ended lines of the text are loaded, one for each line feed, and the
line after them cannot be read. The established flows stay in any case. -/
theorem loadSource_of_bytes (table : Table) :
    (∀ bytes text, decode? bytes = some text →
      table.loadSource ⟨bytes, none⟩ = ((table.loadText text).1, .ok (table.loadText text).2)) ∧
    (∀ bytes, decode? bytes = none → ∃ before line after text,
      fullLines lineFeed bytes = before ++ line :: after ∧
      (∀ earlier ∈ before, decode? earlier ≠ none) ∧ decode? line = none ∧
      decode? before.flatten = some text ∧
      table.loadSource ⟨bytes, none⟩ =
        ((table.loadText text).1, .error ⟨before.length + 1, .notText⟩)) ∧
    (∀ bytes text fault, decode? bytes = some text → ∃ ended unended,
      text = ended ++ unended ∧ Ended '\n' ended.toList ∧ '\n' ∉ unended.toList ∧
      (Text.lines ended).length = bytes.count lineFeed ∧
      table.loadSource ⟨bytes, some fault⟩ =
        ((table.loadText ended).1, .error ⟨bytes.count lineFeed + 1, fault⟩)) ∧
    ∀ source, (table.loadSource source).1.tracker = table.tracker := by
  refine ⟨fun bytes text decoded => ?_, fun bytes unreadable => ?_,
    fun bytes text fault decoded => ?_, fun source => ?_⟩
  · obtain rfl := ByteSource.decode?_eq_some_iff.1 decoded
    exact table.loadSource_of_lines (ByteSource.lines_toUTF8 text)
  · obtain ⟨before, line, after, whole, readable, stops⟩ :=
      ByteSource.exists_first_unreadable unreadable
    obtain ⟨text, decoded⟩ := ByteSource.exists_decode?_flatten readable
    have isFull : FullLines lineFeed before := by
      refine (fullLines_full lineFeed bytes).of_sublist ?_
      rw [whole]
      exact List.sublist_append_left before _
    have read := ByteSource.lines_of_unreadable whole isFull decoded stops
    refine ⟨before, line, after, text, whole, readable, stops, decoded, ?_⟩
    rw [table.loadSource_of_lines_of_fault read, ByteSource.length_lines_of_decode? isFull decoded]
  · obtain rfl := ByteSource.decode?_eq_some_iff.1 decoded
    obtain ⟨ended, unended, whole, isEnded, plain⟩ := exists_ended_append '\n' text.toList
    have parts : text = String.ofList ended ++ String.ofList unended := by
      rw [← String.ofList_append, ← whole, String.ofList_toList]
    have endedText : Ended '\n' (String.ofList ended).toList := by rwa [String.toList_ofList]
    have plainText : '\n' ∉ (String.ofList unended).toList := by rwa [String.toList_ofList]
    have counted : (Text.lines (String.ofList ended)).length =
        text.toUTF8.toList.count lineFeed := by
      rw [length_lines endedText, count_toUTF8, whole, List.count_append,
        List.count_eq_zero_of_not_mem plain, String.toList_ofList, Nat.add_zero]
    refine ⟨_, _, parts, endedText, plainText, counted, ?_⟩
    have read := ByteSource.lines_of_fault fault endedText plainText
    rw [← parts] at read
    rw [table.loadSource_of_lines_of_fault read, counted]
  · exact (sameBesideChains_loadSource table source).tracker

/-- Two commands, of which the second is on a line that is not ended. -/
def twoCommands : String := "-N WEB\r\n-N API"

/-- Two commands load from a source as from a text. If a byte that is no text follows them, or the
source fails after them, the line of the second is lost. -/
theorem loadSource_twoCommands :
    (decode? twoCommands.toUTF8.toList = some twoCommands ∧
      (empty .standard).loadSource ⟨twoCommands.toUTF8.toList, none⟩ =
        (((empty .standard).loadText twoCommands).1,
          .ok ((empty .standard).loadText twoCommands).2)) ∧
    (decode? (twoCommands.toUTF8.toList ++ [0xFF]) = none ∧ ∃ before line after text,
      fullLines lineFeed (twoCommands.toUTF8.toList ++ [0xFF]) = before ++ line :: after ∧
      (∀ earlier ∈ before, decode? earlier ≠ none) ∧ decode? line = none ∧
      decode? before.flatten = some text ∧
      (empty .standard).loadSource ⟨twoCommands.toUTF8.toList ++ [0xFF], none⟩ =
        (((empty .standard).loadText text).1, .error ⟨before.length + 1, .notText⟩)) ∧
    ∃ ended unended, twoCommands = ended ++ unended ∧ Ended '\n' ended.toList ∧
      '\n' ∉ unended.toList ∧
      (Text.lines ended).length = twoCommands.toUTF8.toList.count lineFeed ∧
      (empty .standard).loadSource ⟨twoCommands.toUTF8.toList, some (.device "gone")⟩ =
        (((empty .standard).loadText ended).1,
          .error ⟨twoCommands.toUTF8.toList.count lineFeed + 1, .device "gone"⟩) := by
  have isText : decode? twoCommands.toUTF8.toList = some twoCommands := by decide +kernel
  have isNone : decode? (twoCommands.toUTF8.toList ++ [0xFF]) = none := by decide +kernel
  exact ⟨⟨isText, (loadSource_of_bytes _).1 _ _ isText⟩,
    ⟨isNone, (loadSource_of_bytes _).2.1 _ isNone⟩,
    (loadSource_of_bytes _).2.2.1 _ _ (.device "gone") isText⟩

end Table

end PacketFilter
