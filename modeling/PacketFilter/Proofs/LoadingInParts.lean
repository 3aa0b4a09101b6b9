import PacketFilter.Proofs.FirstVerb
import PacketFilter.Proofs.Loading

/-!
# Loading a text in parts

A text whose first part is ended loads as its parts do one after the other. The report on the whole
is that on the first part, followed by that on the second one with its lines counted on
(`Table.loadText_in_parts`). Lines without a verb are passed over, so they can stand between any two
lines of a text: only the numbers of the lines behind them are others.
-/
namespace PacketFilter

open Text

/-- A skipped line behind so many others. -/
def SkippedLine.later (entry : SkippedLine) (count : Nat) : SkippedLine :=
  { entry with line := entry.line + count }

namespace LoadReport

/-- The report on lines behind so many others. -/
def later (report : LoadReport) (count : Nat) : LoadReport :=
  { report with skipped := report.skipped.map (·.later count) }

/-- The report on lines of which those behind a place are moved on. -/
def parted (report : LoadReport) (place count : Nat) : LoadReport :=
  { report with
    skipped := report.skipped.map fun entry =>
      if entry.line ≤ place then entry else entry.later count }

/-- A line before others is moved on together with them. -/
theorem later_precededBy (report : LoadReport) (number count : Nat) (text : String)
    (outcome : LineOutcome) :
    (report.precededBy number text outcome).later count =
      (report.later count).precededBy (number + count) text outcome := by
  cases outcome <;> rfl

/-- Two reports in a row are parted between them, if the place is behind all lines of the first one
and before all of the second. -/
theorem parted_followedBy {first second : LoadReport} {place : Nat}
    (before : ∀ entry ∈ first.skipped, entry.line ≤ place)
    (behind : ∀ entry ∈ second.skipped, place < entry.line) (count : Nat) :
    (first.followedBy second).parted place count = first.followedBy (second.later count) := by
  have kept : first.skipped.map (fun entry =>
      if entry.line ≤ place then entry else entry.later count) = first.skipped :=
    (List.map_congr_left fun entry within => if_pos (before entry within)).trans (List.map_id _)
  have moved : second.skipped.map (fun entry =>
      if entry.line ≤ place then entry else entry.later count) =
        second.skipped.map (·.later count) :=
    List.map_congr_left fun entry within => if_neg (Nat.not_le.2 (behind entry within))
  rw [parted, followedBy, List.map_append, kept, moved]
  rfl

end LoadReport

namespace Table

variable (table : Table)

/-- Lines behind others come to the same, with other numbers. -/
theorem loadLines_add (number count : Nat) (lines : List String) :
    table.loadLines (number + count) lines =
      ((table.loadLines number lines).1, (table.loadLines number lines).2.later count) := by
  induction lines generalizing table number with
  | nil => rfl
  | cons line rest ih =>
    rw [loadLines_cons, loadLines_cons, Nat.add_right_comm, ih, LoadReport.later_precededBy]

/-- Lines without a verb are passed over, and nothing is told of them. -/
theorem loadLines_of_noVerb {lines : List String}
    (free : ∀ line ∈ lines, NoVerb (wordsOf (stripComment line))) (number : Nat) :
    table.loadLines number lines = (table, .empty) := by
  induction lines generalizing number with
  | nil => rfl
  | cons line rest ih =>
    obtain ⟨first, others⟩ := List.forall_mem_cons.1 free
    have passed : table.loadLine line = (table, .noCommand) := by
      rw [loadLine, Command.parse_of_noVerb first]
    rw [loadLines_cons, passed, ih others]
    rfl

/-- The numbers of skipped lines are numbers of lines. -/
theorem mem_skipped_bounds {number : Nat} {lines : List String} {entry : SkippedLine}
    (skipped : entry ∈ (table.loadLines number lines).2.skipped) :
    number ≤ entry.line ∧ entry.line < number + lines.length := by
  obtain ⟨index, within, counted, -⟩ := (table.mem_skipped_loadLines_iff number lines entry).1 skipped
  obtain ⟨inside, -⟩ := List.getElem?_eq_some_iff.1 within
  omega

/-- Lines without a verb between other lines move the lines behind them, and that is all. -/
theorem loadLines_insert {added : List String}
    (free : ∀ line ∈ added, NoVerb (wordsOf (stripComment line))) (before after : List String) :
    table.loadLines 1 (before ++ added ++ after) =
      ((table.loadLines 1 (before ++ after)).1,
        (table.loadLines 1 (before ++ after)).2.parted before.length added.length) := by
  have reached : (table.afterLines before).afterLines added = table.afterLines before := by
    rw [← loadLines_fst _ 1, loadLines_of_noVerb _ free]
  have inFront : ∀ entry ∈ (table.loadLines 1 before).2.skipped, entry.line ≤ before.length := by
    intro entry skipped
    have bounds := table.mem_skipped_bounds skipped
    omega
  have inBack : ∀ entry ∈ ((table.afterLines before).loadLines (1 + before.length) after).2.skipped,
      before.length < entry.line := by
    intro entry skipped
    have bounds := mem_skipped_bounds _ skipped
    omega
  rw [List.append_assoc, loadLines_append, loadLines_append _ _ added, reached,
    loadLines_of_noVerb _ free, LoadReport.empty_followedBy, loadLines_add _ (1 + before.length),
    loadLines_append _ _ before after, LoadReport.parted_followedBy inFront inBack]

/-- Loading a text whose first part is ended is loading the parts one after the other: the counts are
added up, and the skipped lines of the second part are behind those of the first one, with as much
higher numbers as the first part has lines. Lines without a verb, which blank lines and mere comments
are, may stand anywhere among the lines of a text: the table and the counts are the same, and the
lines behind them have higher numbers. -/
theorem loadText_in_parts (table : Table) :
    (∀ {front : String}, Ended '\n' front.toList → ∀ back : String,
      Text.lines (front ++ back) = Text.lines front ++ Text.lines back ∧
        table.loadText (front ++ back) =
          (((table.loadText front).1.loadText back).1,
            (table.loadText front).2.followedBy
              (((table.loadText front).1.loadText back).2.later (Text.lines front).length))) ∧
    ∀ {text other : String} {before added after : List String},
      Text.lines text = before ++ after → Text.lines other = before ++ added ++ after →
      (∀ line ∈ added, NoVerb (wordsOf (stripComment line))) →
      table.loadText other =
        ((table.loadText text).1, (table.loadText text).2.parted before.length added.length) := by
  refine ⟨fun {front} ended back => ⟨lines_append ended back, ?_⟩,
    fun {text other before added after} lines longer free => ?_⟩
  · simp only [loadText, lines_append ended, loadLines_append, loadLines_add, loadLines_fst]
  · rw [loadText, longer, table.loadLines_insert free, loadText, lines]

/-- A command on an ended line. -/
def firstPart : String := "-N WEB\n"

/-- A line that holds no command, and one whose command is refused and that is not ended. -/
def secondPart : String := "-A web\r\n-A API -j DROP"

/-- Both parts with three lines between them: a blank one, a comment, and one without a verb. -/
def paddedText : String := "-N WEB\n \t\r\n# -N API\niptables -t filter\n-A web\r\n-A API -j DROP"

/-- The lines of the second part are the second and the third of both parts, and the fifth and the
sixth if three lines without a verb stand before them. -/
theorem loadText_paddedText :
    (empty .standard).loadText (firstPart ++ secondPart) =
        ((((empty .standard).loadText firstPart).1.loadText secondPart).1,
          ⟨1, 0, [⟨2, "-A web", .parse (.invalidChainName "web")⟩,
            ⟨3, "-A API -j DROP", .reference (.unknownChain "API")⟩]⟩) ∧
      (empty .standard).loadText paddedText =
        (((empty .standard).loadText (firstPart ++ secondPart)).1,
          ⟨1, 0, [⟨5, "-A web", .parse (.invalidChainName "web")⟩,
            ⟨6, "-A API -j DROP", .reference (.unknownChain "API")⟩]⟩) := by
  obtain ⟨inParts, padded⟩ := loadText_in_parts (empty .standard)
  have ended : Ended '\n' firstPart.toList := by decide +kernel
  have lines : Text.lines (firstPart ++ secondPart) =
      ["-N WEB"] ++ ["-A web", "-A API -j DROP"] := by
    decide +kernel
  have longer : Text.lines paddedText = ["-N WEB"] ++
      [" \t", "# -N API", "iptables -t filter"] ++ ["-A web", "-A API -j DROP"] := by
    decide +kernel
  have free : ∀ line ∈ [" \t", "# -N API", "iptables -t filter"],
      ∀ word ∈ wordsOf (stripComment line), Verb.ofWord? word = none := by
    decide +kernel
  have report : ((empty .standard).loadText (firstPart ++ secondPart)).2 =
      ⟨1, 0, [⟨2, "-A web", .parse (.invalidChainName "web")⟩,
        ⟨3, "-A API -j DROP", .reference (.unknownChain "API")⟩]⟩ := by
    decide +kernel
  constructor
  · have together := (inParts ended secondPart).2
    rw [← report, together]
  · have apart := padded lines longer fun line within word member =>
      Verb.ofWord?_eq_none_iff.1 (free line within word member)
    rw [apart, report]
    rfl

end Table

end PacketFilter
