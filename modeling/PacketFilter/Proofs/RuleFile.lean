import PacketFilter.Proofs.Disk
import PacketFilter.Proofs.Loading
import PacketFilter.Proofs.Step
import PacketFilter.Proofs.Text.ByteLines
import PacketFilter.Proofs.Text.Trim

/-!
# Adding commands to a rule file

A command is added to a rule file as text behind what is there. If the file is empty or its last
line is ended, and the command is a single line, the file has one line more, which holds just that
command (`addRule_loads`). Otherwise the text may run into the last line of the file, and then
neither line is what it was (`addRule_joins_lines`).
-/
namespace PacketFilter

open Text

namespace ByteSource

/-- The bytes of a line without line feeds, and not ended by a carriage return, are one line. -/
theorem linesWith_line {text : String} (single : '\n' ∉ text.toList)
    (noReturn : text.toList.getLast? ≠ some '\r') :
    linesWith lineFeed carriageReturn (text ++ "\n").toUTF8.toList = [text.toUTF8.toList] := by
  have cut : Text.lines (String.join ([text].map (· ++ "\n"))) = [text] :=
    lines_join (by simpa using single) (by simpa using noReturn)
  have joined : String.join ([text].map (· ++ "\n")) = text ++ "\n" := String.empty_append
  rw [← joined, linesWith_toUTF8, cut, List.map_singleton]

variable {bytes : List UInt8} {text : String}

/-- A line behind bytes that are ended and can be read is one line more. -/
theorem lines_append_line (ended : Ended lineFeed bytes) (single : '\n' ∉ text.toList)
    (noReturn : text.toList.getLast? ≠ some '\r')
    (readable : (ByteSource.mk bytes none).lines.2 = none) :
    (ByteSource.mk (bytes ++ (text ++ "\n").toUTF8.toList) none).lines =
      ((ByteSource.mk bytes none).lines.1 ++ [text], none) := by
  have whole : (decodeLines (linesWith lineFeed carriageReturn bytes)).2 = false := by
    cases stopped : (decodeLines (linesWith lineFeed carriageReturn bytes)).2 with
    | false => rfl
    | true => simp [lines, rawLines, stopped] at readable
  simp only [lines, rawLines, linesWith_append ended, linesWith_line single noReturn,
    decodeLines_append _ whole, decodeLines, decode?_toUTF8, Bool.false_eq_true, if_false]

/-- Nothing behind bytes that are ended and cannot be read is read. -/
theorem lines_append_of_unreadable (ended : Ended lineFeed bytes) (after : List UInt8)
    (unreadable : (ByteSource.mk bytes none).lines.2 ≠ none) :
    (ByteSource.mk (bytes ++ after) none).lines = (ByteSource.mk bytes none).lines := by
  have stopped : (decodeLines (linesWith lineFeed carriageReturn bytes)).2 = true := by
    cases whole : (decodeLines (linesWith lineFeed carriageReturn bytes)).2 with
    | true => rfl
    | false => simp [lines, rawLines, whole] at unreadable
  simp only [lines, rawLines, linesWith_append ended, decodeLines_append_of_stopped _ stopped,
    stopped, if_true]

end ByteSource

/-- What loading bytes comes to if a line that holds a command follows them. -/
def Table.loadContinued (table : Table) (path : String) (bytes : List UInt8) (text : String)
    (command : Command) : Table × Except ProgramError LoadReport :=
  let source : ByteSource := ⟨bytes, none⟩
  match table.loadSource source with
  | (old, .error failure) => (old, .error (.loadRules path failure))
  | (old, .ok report) =>
    let (next, outcome) := old.carryOut command
    let line := source.lines.1.length + 1
    (next, .ok (report.followedBy (LoadReport.empty.precededBy line text outcome)))

/-- A file that held some bytes loads as these bytes do and then carries out the one command that
a text holds, whatever the table. -/
def ContinuedBy (bytes : List UInt8) (text : String) (disk : Disk) (path : String) : Prop :=
  ∃ command, Command.parse text = .ok (some command) ∧
    ∀ table : Table, table.loadFile disk path =
      table.loadContinued path bytes (String.ofList (trim text.toList)) command

namespace Table

/-- A line behind bytes that are ended is loaded after what they hold. -/
theorem loadSource_append_line (table : Table) (path : String) {bytes : List UInt8}
    {text : String} {command : Command} (ended : Ended ByteSource.lineFeed bytes)
    (single : '\n' ∉ text.toList) (noReturn : text.toList.getLast? ≠ some '\r')
    (parsed : Command.parse text = .ok (some command)) :
    table.loadOpened path (.ok ⟨bytes ++ (text ++ "\n").toUTF8.toList, none⟩) =
      table.loadContinued path bytes text command := by
  cases fault : (ByteSource.mk bytes none).lines.2 with
  | some wrong =>
    have same := ByteSource.lines_append_of_unreadable ended (text ++ "\n").toUTF8.toList
      (by rw [fault]; exact Option.some_ne_none wrong)
    simp only [loadOpened, loadContinued, loadSource, same, fault]
  | none =>
    have longer := ByteSource.lines_append_line ended single noReturn fault
    have numbered : 1 + (ByteSource.mk bytes none).lines.1.length =
        (ByteSource.mk bytes none).lines.1.length + 1 := Nat.add_comm _ _
    simp only [loadOpened, loadContinued, loadSource, longer, fault, loadLines_append, numbered,
      loadLine_of_parse _ parsed, loadLines_fst, loadLines]

end Table

namespace Program

/-- The line that is added for a text is the text without blanks around it, which holds a
command. -/
theorem ruleLine_eq_ok {text line : String} (made : ruleLine text = .ok line) :
    (∃ command, Command.parse text = .ok (some command)) ∧
      line = String.ofList (trim text.toList) ++ "\n" := by
  cases parsed : Command.parse text with
  | error error => simp [ruleLine, parsed] at made
  | ok held =>
    cases held with
    | none => simp [ruleLine, parsed] at made
    | some command =>
      rw [ruleLine, parsed] at made
      exact ⟨⟨command, rfl⟩, (Except.ok.inj made).symm⟩

/-- If adding a command goes well, its line was appended to the file. -/
theorem appendText_of_addRule {command file : String} {before after : Progress}
    (added : (addRule command file).Gives before () after) :
    ∃ line, ruleLine command = .ok line ∧
      before.disk.appendText file line = .ok after.disk := by
  obtain ⟨line, start, made, added⟩ := Step.gives_bind.1 added
  obtain ⟨made, same⟩ := Step.gives_ofExcept.1 made
  obtain ⟨_, changed, wrote, told⟩ := Step.gives_bind.1 added
  obtain ⟨disk, appended, reached⟩ := Step.gives_change.1 wrote
  have printed := Step.gives_print.1 told
  refine ⟨line, made, ?_⟩
  rw [printed, reached, ← same, appended]

/-- A command that is a single line is added to a rule file that is ended as one line more. -/
theorem addRule_loads {command file : String} {bytes : List UInt8} {before after : Progress}
    (holds : before.disk.HoldsFile file bytes) (ended : Ended ByteSource.lineFeed bytes)
    (single : '\n' ∉ trim command.toList)
    (added : (addRule command file).Gives before () after) :
    ContinuedBy bytes command after.disk file := by
  obtain ⟨line, made, appended⟩ := appendText_of_addRule added
  obtain ⟨⟨parsed, isCommand⟩, rfl⟩ := ruleLine_eq_ok made
  refine ⟨parsed, isCommand, fun table => ?_⟩
  have trimmed := trimmed_trim command.toList
  have noReturn : (trim command.toList).getLast? ≠ some '\r' :=
    fun last => absurd (trimmed.last '\r' last) (by decide)
  have onItsOwn : Command.parse (String.ofList (trim command.toList)) = .ok (some parsed) := by
    rw [Command.parse_trim, isCommand]
  rw [Table.loadFile, Disk.openSource_appendText holds appended]
  refine table.loadSource_append_line file ended ?_ ?_ onItsOwn
  · rwa [String.toList_ofList]
  · rwa [String.toList_ofList]

/-- A working directory with a rule file of one line. -/
def oneLine (line : String) : Progress := ⟨.ofFiles [("f.rules", line)], "", ""⟩

/-- What adding a rule to the input chain leaves. -/
def ruleAdded (line : String) : Progress :=
  ((addRule "-A INPUT -j ACCEPT" "f.rules").outcome (oneLine line)).2

/-- A rule is added to a file whose line is ended. -/
theorem addRule_to_ended :
    ContinuedBy "-N INPUT\n".toUTF8.toList "-A INPUT -j ACCEPT" (ruleAdded "-N INPUT\n").disk
      "f.rules" := by
  have holds : (oneLine "-N INPUT\n").disk.HoldsFile "f.rules" "-N INPUT\n".toUTF8.toList :=
    ⟨["f.rules"], rfl, .inr rfl⟩
  exact addRule_loads holds (by decide +kernel) (by decide +kernel) rfl

/-- The rule of `-j ACCEPT`. -/
def acceptRule : Rule := { Rule.wildcard with action := some .accept }

/-- If the last line of a file is not ended, the rule that is added becomes part of it: the chain
that the line created is gone, and one of another name is there. -/
theorem addRule_joins_lines :
    (addRule "-A INPUT -j ACCEPT" "f.rules").Gives (oneLine "-N INPUT") ()
        (ruleAdded "-N INPUT") ∧
      Command.parse "-A INPUT -j ACCEPT" = .ok (some (.append "INPUT" acceptRule)) ∧
      ((Table.empty .standard).loadFile (ruleAdded "-N INPUT").disk "f.rules").1.chains ≠
        ((Table.empty .standard).loadContinued "f.rules" "-N INPUT".toUTF8.toList
          "-A INPUT -j ACCEPT" (.append "INPUT" acceptRule)).1.chains := by
  refine ⟨rfl, by decide +kernel, fun same => ?_⟩
  have continued : (((Table.empty .standard).loadContinued "f.rules" "-N INPUT".toUTF8.toList
      "-A INPUT -j ACCEPT" (.append "INPUT" acceptRule)).1.chains.find? "INPUT").isSome = true := by
    decide +kernel
  -- The file is one line, which creates a chain under the name that both texts run together to.
  have joined : (((Table.empty .standard).loadFile (ruleAdded "-N INPUT").disk
      "f.rules").1.chains.find? "INPUT").isSome = false := by
    decide +kernel
  rw [same, continued] at joined
  exact Bool.noConfusion joined

end Program

end PacketFilter
