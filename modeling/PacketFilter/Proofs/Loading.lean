import PacketFilter.Proofs.Text.Lines
import PacketFilter.Table.Load

/-!
# What loading does with each line

Lines are carried out one after the other, so loading lines and then others is loading all of them
(`loadLines_append`). A line whose command is not carried out leaves the table as it was, whatever
the reason, so the lines that are carried out make up a text that loads without a complaint and
comes to the same table. `CarriesOutAll` says what lines do by what their commands do to the table,
and `LoadAccount` what the report tells of every single line.
-/
namespace PacketFilter

namespace LineOutcome

/-- Whether a command was carried out. -/
def isApplied : LineOutcome → Bool
  | applied => true
  | _ => false

/-- Whether a command had no effect. -/
def isUnchanged : LineOutcome → Bool
  | unchanged _ => true
  | _ => false

/-- Why a line was skipped, if it was. -/
def reason? : LineOutcome → Option SkipReason
  | malformed error => some (.parse error)
  | refused _ error => some (.reference error)
  | _ => none

end LineOutcome

namespace LoadReport

/-- The report on lines and on others after them. -/
def followedBy (first second : LoadReport) : LoadReport :=
  ⟨first.applied + second.applied, first.unchanged + second.unchanged,
    first.skipped ++ second.skipped⟩

/-- Nothing before a report does not change it. -/
@[simp] theorem empty_followedBy (report : LoadReport) : empty.followedBy report = report := by
  simp [followedBy, empty]

/-- A line before a report is a line before all reports that follow it. -/
theorem followedBy_precededBy (first second : LoadReport) (number : Nat) (text : String)
    (outcome : LineOutcome) :
    (first.precededBy number text outcome).followedBy second =
      (first.followedBy second).precededBy number text outcome := by
  cases outcome <;> simp [precededBy, followedBy, Nat.add_right_comm]

/-- A line adds to the count of applied commands exactly if its own was applied. -/
theorem applied_precededBy (report : LoadReport) (number : Nat) (text : String)
    (outcome : LineOutcome) :
    (report.precededBy number text outcome).applied =
      report.applied + if outcome.isApplied then 1 else 0 := by
  cases outcome <;> rfl

/-- A line adds to the count of commands without effect exactly if its own had none. -/
theorem unchanged_precededBy (report : LoadReport) (number : Nat) (text : String)
    (outcome : LineOutcome) :
    (report.precededBy number text outcome).unchanged =
      report.unchanged + if outcome.isUnchanged then 1 else 0 := by
  cases outcome <;> rfl

/-- A line that was skipped comes first among those that were. -/
theorem skipped_precededBy (report : LoadReport) (number : Nat) (text : String)
    (outcome : LineOutcome) :
    (report.precededBy number text outcome).skipped =
      (outcome.reason?.map (SkippedLine.mk number text)).toList ++ report.skipped := by
  cases outcome <;> rfl

end LoadReport

namespace Table

/-- The table once lines are carried out in order. -/
def afterLines (table : Table) (lines : List String) : Table :=
  lines.foldl (fun reached line => (reached.loadLine line).1) table

/-- What becomes of each line when all are carried out in order. -/
def lineOutcomes (table : Table) : List String → List LineOutcome
  | [] => []
  | line :: rest => (table.loadLine line).2 :: (table.loadLine line).1.lineOutcomes rest

/-- A line has to be skipped in a table, for a reason: it holds no command although it starts one,
or the table refuses its command. -/
def Skips (table : Table) (line : String) : SkipReason → Prop
  | .parse error => Command.parse line = .error error
  | .reference error =>
    ∃ command, Command.parse line = .ok (some command) ∧ table.apply command = .error error

/-- What becomes of a line in a table, and the table that it leaves: only a command that the table
takes changes it. -/
inductive CarriesOut (table : Table) (line : String) : LineOutcome → Table → Prop
  /-- The line holds no command. -/
  | noCommand (parsed : Command.parse line = .ok none) : CarriesOut table line .noCommand table
  /-- The line starts a command and holds none. -/
  | malformed {error : ParseError} (failed : Command.parse line = .error error) :
      CarriesOut table line (.malformed error) table
  /-- The table refuses the command. -/
  | refused {command : Command} {error : TableError}
      (parsed : Command.parse line = .ok (some command))
      (failed : table.apply command = .error error) :
      CarriesOut table line (.refused command.verb error) table
  /-- The command has no effect. -/
  | unchanged {command : Command} (parsed : Command.parse line = .ok (some command))
      (ineffective : table.apply command = .ok none) :
      CarriesOut table line (.unchanged command.verb) table
  /-- The command changes the table. -/
  | applied {command : Command} {changed : Table}
      (parsed : Command.parse line = .ok (some command))
      (effective : table.apply command = .ok (some changed)) :
      CarriesOut table line .applied changed

/-- What becomes of lines, each in the table that the lines before it leave, and the table that all
of them leave. -/
inductive CarriesOutAll : Table → List String → List LineOutcome → Table → Prop
  /-- No lines leave the table as it is. -/
  | nil (table : Table) : CarriesOutAll table [] [] table
  /-- The first line is carried out in the table, the others in what it leaves. -/
  | cons {table middle after : Table} {line : String} {rest : List String}
      {outcome : LineOutcome} {outcomes : List LineOutcome}
      (first : table.CarriesOut line outcome middle)
      (later : CarriesOutAll middle rest outcomes after) :
      CarriesOutAll table (line :: rest) (outcome :: outcomes) after

/-- The table once a command is carried out, and what becomes of a line that holds it. -/
def carryOut (table : Table) (command : Command) : Table × LineOutcome :=
  match table.apply command with
  | .error error => (table, .refused command.verb error)
  | .ok none => (table, .unchanged command.verb)
  | .ok (some changed) => (changed, .applied)

variable (table : Table)

/-- A line that holds a command has it carried out. -/
theorem loadLine_of_parse {line : String} {command : Command}
    (parsed : Command.parse line = .ok (some command)) :
    table.loadLine line = table.carryOut command := by
  match applied : table.apply command with
  | .error error => simp only [loadLine, parsed, carryOut, applied]
  | .ok none => simp only [loadLine, parsed, carryOut, applied]
  | .ok (some changed) => simp only [loadLine, parsed, carryOut, applied]

/-- Loading a line is carrying it out. -/
theorem loadLine_eq_iff {line : String} {outcome : LineOutcome} {after : Table} :
    table.loadLine line = (after, outcome) ↔ table.CarriesOut line outcome after := by
  constructor
  · intro loaded
    cases parsed : Command.parse line with
    | error error =>
      obtain ⟨rfl, rfl⟩ : table = after ∧ .malformed error = outcome := by
        simpa [loadLine, parsed] using loaded
      exact .malformed parsed
    | ok held =>
      cases held with
      | none =>
        obtain ⟨rfl, rfl⟩ : table = after ∧ .noCommand = outcome := by
          simpa [loadLine, parsed] using loaded
        exact .noCommand parsed
      | some command =>
        rw [loadLine_of_parse table parsed, carryOut] at loaded
        split at loaded
        · next error failed =>
          cases loaded
          exact .refused parsed failed
        · next ineffective =>
          cases loaded
          exact .unchanged parsed ineffective
        · next changed effective =>
          cases loaded
          exact .applied parsed effective
  · intro carriedOut
    cases carriedOut with
    | noCommand parsed => simp only [loadLine, parsed]
    | malformed failed => simp only [loadLine, failed]
    | refused parsed failed => simp only [loadLine, parsed, failed]
    | unchanged parsed ineffective => simp only [loadLine, parsed, ineffective]
    | applied parsed effective => simp only [loadLine, parsed, effective]

/-- A line is carried out when it is loaded. -/
theorem carriesOut_loadLine (line : String) :
    table.CarriesOut line (table.loadLine line).2 (table.loadLine line).1 :=
  table.loadLine_eq_iff.1 (Prod.eta _).symm

/-- The first line is carried out in the table, the others in what it leaves. -/
theorem loadLines_cons (number : Nat) (line : String) (rest : List String) :
    table.loadLines number (line :: rest) =
      (((table.loadLine line).1.loadLines (number + 1) rest).1,
        ((table.loadLine line).1.loadLines (number + 1) rest).2.precededBy number line
          (table.loadLine line).2) := by
  simp only [loadLines]

/-- No lines leave the table as it was. -/
theorem afterLines_nil : table.afterLines [] = table := rfl

/-- The first line is carried out first. -/
theorem afterLines_cons (line : String) (rest : List String) :
    table.afterLines (line :: rest) = (table.loadLine line).1.afterLines rest := by
  rw [afterLines, List.foldl_cons, afterLines]

/-- Lines after others are carried out in what the others leave. -/
theorem afterLines_append (before after : List String) :
    table.afterLines (before ++ after) = (table.afterLines before).afterLines after := by
  rw [afterLines, List.foldl_append, ← afterLines, ← afterLines]

/-- Loading lines leaves what carrying them out leaves, whatever their numbers. -/
theorem loadLines_fst (number : Nat) (lines : List String) :
    (table.loadLines number lines).1 = table.afterLines lines := by
  induction lines generalizing table number with
  | nil => rfl
  | cons line rest ih =>
    rw [loadLines_cons, ih, afterLines_cons]

/-- Loading lines and others after them is loading all of them. -/
theorem loadLines_append (number : Nat) (before after : List String) :
    table.loadLines number (before ++ after) =
      (((table.afterLines before).loadLines (number + before.length) after).1,
        (table.loadLines number before).2.followedBy
          ((table.afterLines before).loadLines (number + before.length) after).2) := by
  induction before generalizing table number with
  | nil =>
    rw [List.nil_append, loadLines, LoadReport.empty_followedBy]
    rfl
  | cons line rest ih =>
    have counted : number + 1 + rest.length = number + (line :: rest).length := by
      rw [List.length_cons]
      omega
    rw [List.cons_append, loadLines_cons, ih, counted, loadLines_cons, afterLines_cons,
      LoadReport.followedBy_precededBy]

/-- A line whose command is not carried out leaves the table as it was. -/
theorem loadLine_of_not_applied {line : String}
    (notApplied : (table.loadLine line).2.isApplied = false) : (table.loadLine line).1 = table := by
  obtain ⟨⟨after, outcome⟩, loaded⟩ : ∃ result, table.loadLine line = result := ⟨_, rfl⟩
  rw [loaded] at notApplied ⊢
  cases table.loadLine_eq_iff.1 loaded with
  | noCommand | malformed | refused | unchanged => rfl
  | applied => cases notApplied

/-- A line holds no command exactly if that becomes of it. -/
theorem loadLine_eq_noCommand_iff (line : String) :
    (table.loadLine line).2 = .noCommand ↔ Command.parse line = .ok none := by
  obtain ⟨⟨after, outcome⟩, loaded⟩ : ∃ result, table.loadLine line = result := ⟨_, rfl⟩
  rw [loaded]
  cases table.loadLine_eq_iff.1 loaded with
  | noCommand parsed => simp [parsed]
  | malformed failed => simp [failed]
  | refused parsed | unchanged parsed | applied parsed => simp [parsed]

/-- The reason why a line is skipped is one for which it has to be. -/
theorem reason?_loadLine_eq_some_iff {line : String} {reason : SkipReason} :
    (table.loadLine line).2.reason? = some reason ↔ table.Skips line reason := by
  obtain ⟨⟨after, outcome⟩, loaded⟩ : ∃ result, table.loadLine line = result := ⟨_, rfl⟩
  rw [loaded]
  cases table.loadLine_eq_iff.1 loaded with
  | noCommand parsed => cases reason <;> simp [parsed, Skips, LineOutcome.reason?]
  | malformed failed => cases reason <;> simp [failed, Skips, LineOutcome.reason?]
  | refused parsed applied | unchanged parsed applied | applied parsed applied =>
    cases reason <;> simp [parsed, applied, Skips, LineOutcome.reason?]

/-! ## The account of a report -/

/-- What lines leave and what becomes of them is what carrying them out in order comes to. -/
theorem carriesOutAll_iff {lines : List String} {outcomes : List LineOutcome} {after : Table} :
    table.CarriesOutAll lines outcomes after ↔
      outcomes = table.lineOutcomes lines ∧ after = table.afterLines lines := by
  constructor
  · intro carriedOut
    induction carriedOut with
    | nil => exact ⟨rfl, rfl⟩
    | @cons table middle after line rest outcome outcomes first later ih =>
      have loaded := table.loadLine_eq_iff.2 first
      rw [lineOutcomes, afterLines_cons, loaded]
      exact ⟨congrArg _ ih.1, ih.2⟩
  · rintro ⟨rfl, rfl⟩
    induction lines generalizing table with
    | nil => exact .nil table
    | cons line rest ih =>
      rw [lineOutcomes, afterLines_cons]
      exact .cons (table.carriesOut_loadLine line) (ih _)

/-- The commands that a report counts as applied are those that are carried out. -/
theorem applied_loadLines (number : Nat) (lines : List String) :
    (table.loadLines number lines).2.applied =
      (table.lineOutcomes lines).countP LineOutcome.isApplied := by
  induction lines generalizing table number with
  | nil => rfl
  | cons line rest ih =>
    rw [loadLines_cons, LoadReport.applied_precededBy, ih, lineOutcomes, List.countP_cons]

/-- The commands that a report counts as unchanged are those that have no effect. -/
theorem unchanged_loadLines (number : Nat) (lines : List String) :
    (table.loadLines number lines).2.unchanged =
      (table.lineOutcomes lines).countP LineOutcome.isUnchanged := by
  induction lines generalizing table number with
  | nil => rfl
  | cons line rest ih =>
    rw [loadLines_cons, LoadReport.unchanged_precededBy, ih, lineOutcomes, List.countP_cons]

/-- A line is counted in exactly one way if it holds a command or starts one, and else in none. -/
theorem total_loadLines (number : Nat) (lines : List String) :
    (table.loadLines number lines).2.applied + (table.loadLines number lines).2.unchanged +
        (table.loadLines number lines).2.skipped.length =
      lines.countP fun line => Command.parse line ≠ .ok none := by
  induction lines generalizing table number with
  | nil => rfl
  | cons line rest ih =>
    have others := ih (table.loadLine line).1 (number + 1)
    have held := table.loadLine_eq_noCommand_iff line
    rw [loadLines_cons, List.countP_cons, ← others]
    cases outcome : (table.loadLine line).2 with
    | noCommand =>
      have none := held.1 outcome
      simp [LoadReport.precededBy, none]
    | applied | unchanged | malformed | refused =>
      have some : Command.parse line ≠ .ok none := fun none => by simp [held.2 none] at outcome
      simp only [LoadReport.precededBy, List.length_cons, some, ne_eq, not_false_eq_true,
        decide_true, if_true]
      omega

/-- The lines that are skipped are those that have to be in the table that the lines before them
leave. Each is kept as it was read, with its number and the reason. -/
theorem mem_skipped_loadLines_iff (number : Nat) (lines : List String) (entry : SkippedLine) :
    entry ∈ (table.loadLines number lines).2.skipped ↔
      ∃ index, lines[index]? = some entry.text ∧ entry.line = number + index ∧
        (table.afterLines (lines.take index)).Skips entry.text entry.reason := by
  induction lines generalizing table number with
  | nil => simp [loadLines, LoadReport.empty]
  | cons line rest ih =>
    rw [loadLines_cons, LoadReport.skipped_precededBy, List.mem_append, ih]
    constructor
    · rintro (first | ⟨index, within, counted, skips⟩)
      · obtain ⟨reason, because, rfl⟩ : ∃ reason,
            (table.loadLine line).2.reason? = some reason ∧ ⟨number, line, reason⟩ = entry := by
          simpa using first
        exact ⟨0, rfl, rfl, table.reason?_loadLine_eq_some_iff.1 because⟩
      · refine ⟨index + 1, within, by omega, ?_⟩
        rwa [List.take_succ_cons, afterLines_cons]
    · rintro ⟨index, within, counted, skips⟩
      cases index with
      | zero =>
        obtain rfl : line = entry.text := by simpa using within
        have because := table.reason?_loadLine_eq_some_iff.2 skips
        refine .inl ?_
        rw [because, ← Nat.add_zero number, ← counted]
        exact List.mem_singleton.2 rfl
      | succ index =>
        rw [List.take_succ_cons, afterLines_cons] at skips
        exact .inr ⟨index, within, by omega, skips⟩

/-- Skipped lines are reported in order. -/
theorem skipped_loadLines_increasing (number : Nat) (lines : List String) :
    (table.loadLines number lines).2.skipped.Pairwise fun left right => left.line < right.line := by
  induction lines generalizing table number with
  | nil => exact .nil
  | cons line rest ih =>
    have others := ih (table.loadLine line).1 (number + 1)
    rw [loadLines_cons, LoadReport.skipped_precededBy]
    cases because : (table.loadLine line).2.reason? with
    | none => exact others
    | some reason =>
      refine List.pairwise_cons.2 ⟨fun entry within => ?_, others⟩
      obtain ⟨index, -, counted, -⟩ := (mem_skipped_loadLines_iff _ _ _ _).1 within
      dsimp only
      omega

/-- The lines that are carried out load as they do among the others, and nothing else is told of
them. -/
theorem loadLines_marked (number other : Nat) (lines : List String) :
    table.loadLines number
        (Text.marked ((table.lineOutcomes lines).map LineOutcome.isApplied) lines) =
      (table.afterLines lines, ⟨(table.loadLines other lines).2.applied, 0, []⟩) := by
  induction lines generalizing table number other with
  | nil => rfl
  | cons line rest ih =>
    rw [lineOutcomes, List.map_cons, Text.marked_cons_cons, afterLines_cons, loadLines_cons,
      LoadReport.applied_precededBy]
    cases carriedOut : (table.loadLine line).2.isApplied with
    | true =>
      have applied : (table.loadLine line).2 = .applied := by
        cases outcome : (table.loadLine line).2 <;> simp [outcome, LineOutcome.isApplied] at *
      rw [if_pos rfl, if_pos rfl, loadLines_cons, ih _ (number + 1) (other + 1), applied]
      rfl
    | false =>
      rw [if_neg Bool.false_ne_true, if_neg Bool.false_ne_true, Nat.add_zero,
        table.loadLine_of_not_applied carriedOut]
      have kept := ih table number (other + 1)
      exact kept

/-- What a table and a report say about lines that were carried out in order, for what became of
each line. -/
structure LoadAccount (before : Table) (lines : List String) (outcomes : List LineOutcome)
    (after : Table) (report : LoadReport) : Prop where
  /-- The outcomes and the table are those that the lines come to. -/
  carriedOut : before.CarriesOutAll lines outcomes after
  /-- The commands that changed the table are counted. -/
  applied : report.applied = outcomes.countP LineOutcome.isApplied
  /-- The commands without effect are counted. -/
  unchanged : report.unchanged = outcomes.countP LineOutcome.isUnchanged
  /-- The counts and the skipped lines are as many as the lines that start a command. -/
  total : report.applied + report.unchanged + report.skipped.length =
    lines.countP fun line => Command.parse line ≠ .ok none
  /-- A line is skipped exactly if it has to be in the table that the lines before it leave, and
  kept as it was read. -/
  skipped : ∀ entry, entry ∈ report.skipped ↔
    ∃ index earlier reached, lines[index]? = some entry.text ∧ entry.line = 1 + index ∧
      before.CarriesOutAll (lines.take index) earlier reached ∧
      reached.Skips entry.text entry.reason
  /-- Skipped lines are reported in order. -/
  increasing : report.skipped.Pairwise fun left right => left.line < right.line

/-- Loading lines accounts for each of them. -/
theorem loadAccount (lines : List String) :
    table.LoadAccount lines (table.lineOutcomes lines) (table.loadLines 1 lines).1
      (table.loadLines 1 lines).2 where
  carriedOut := table.carriesOutAll_iff.2 ⟨rfl, table.loadLines_fst 1 lines⟩
  applied := table.applied_loadLines 1 lines
  unchanged := table.unchanged_loadLines 1 lines
  total := table.total_loadLines 1 lines
  skipped := by
    intro entry
    rw [mem_skipped_loadLines_iff]
    constructor
    · rintro ⟨index, within, counted, skips⟩
      exact ⟨index, _, _, within, counted, table.carriesOutAll_iff.2 ⟨rfl, rfl⟩, skips⟩
    · rintro ⟨index, earlier, reached, within, counted, carriedOut, skips⟩
      rw [(table.carriesOutAll_iff.1 carriedOut).2] at skips
      exact ⟨index, within, counted, skips⟩
  increasing := table.skipped_loadLines_increasing 1 lines

/-- Every line of a text is accounted for, and a text without the lines that were not carried out
loads without a complaint, counts the same applied commands, and comes to the same table. -/
theorem loadText_account (table : Table) (text : String) :
    ∃ outcomes,
      table.LoadAccount (Text.lines text) outcomes (table.loadText text).1
        (table.loadText text).2 ∧
      table.loadText (Text.keep (outcomes.map LineOutcome.isApplied) text) =
        ((table.loadText text).1, ⟨(table.loadText text).2.applied, 0, []⟩) := by
  refine ⟨table.lineOutcomes (Text.lines text), table.loadAccount _, ?_⟩
  rw [loadText, loadText, Text.lines_keep, table.loadLines_marked 1 1, loadLines_fst]

end Table

end PacketFilter
