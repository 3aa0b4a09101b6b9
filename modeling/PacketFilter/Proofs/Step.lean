import PacketFilter.Program

/-!
# Steps of a run that go well

A run of several steps goes well exactly if each of them does, each from where the one before it
came to. What a single step gives and leaves is said once here, so that a run can be taken apart.
Only a change touches the disk; a run without one can but print (`OnlyPrints`).
-/
namespace PacketFilter.Step

variable {α β : Type} {before after : Progress}

/-- What a step comes to, and what it leaves. -/
def outcome (step : Step α) (before : Progress) : Except ProgramError α × Progress :=
  step.run.run before

/-- The second step starts where the first one has come to, unless that is an error. -/
theorem outcome_bind (step : Step α) (next : α → Step β) (before : Progress) :
    (step >>= next).outcome before =
      match step.outcome before with
      | (.ok found, between) => (next found).outcome between
      | (.error error, between) => (.error error, between) := by
  simp only [outcome]
  rw [ExceptT.run_bind, StateT.run_bind]
  rcases step.run.run before with ⟨error | found, between⟩ <;> rfl

/-- A step goes well: it gives a value, and the run has come from one state to another. -/
def Gives (step : Step α) (before : Progress) (value : α) (after : Progress) : Prop :=
  step.outcome before = (.ok value, after)

/-- Two steps go well if the first does and the second does from there. -/
theorem gives_bind {step : Step α} {next : α → Step β} {value : β} :
    (step >>= next).Gives before value after ↔
      ∃ found between, step.Gives before found between ∧
        (next found).Gives between value after := by
  rw [Gives, outcome_bind]
  constructor
  · intro gives
    match first : step.outcome before with
    | (.ok found, between) =>
      rw [first] at gives
      exact ⟨found, between, first, gives⟩
    | (.error error, between) => simp [first] at gives
  · rintro ⟨found, between, first, second⟩
    rw [first]
    exact second

/-- What may be an error is itself what comes of it, and leaves everything as it was. -/
theorem outcome_ofExcept (result : Except ProgramError α) (before : Progress) :
    outcome (MonadExcept.ofExcept result) before = (result, before) := by
  cases result <;> rfl

/-- What may be an error goes well if it is none, and leaves everything as it was. -/
theorem gives_ofExcept {result : Except ProgramError α} {value : α} :
    Gives (MonadExcept.ofExcept result) before value after ↔
      result = .ok value ∧ after = before := by
  rw [Gives, outcome_ofExcept, Prod.mk.injEq, eq_comm (a := before)]

/-- Reading from the disk comes to what is read there. -/
theorem outcome_consult (read : Disk → Except ProgramError α) (before : Progress) :
    (consult read).outcome before = (read before.disk, before) := by
  have start : outcome get before = (.ok before, before) := rfl
  rw [consult, outcome_bind, start]
  exact outcome_ofExcept _ before

/-- A change to the disk goes well if there is no fault, and leaves the changed disk. -/
theorem gives_change {edit : Disk → Except Fault Disk} {failure : Fault → ProgramError} :
    (change edit failure).Gives before () after ↔
      ∃ disk, edit before.disk = .ok disk ∧ after = { before with disk } := by
  have start : outcome get before = (.ok before, before) := rfl
  cases edited : edit before.disk with
  | error fault =>
    have run : (change edit failure).outcome before = (.error (failure fault), before) := by
      rw [change, outcome_bind, start]
      dsimp only
      rw [edited]
      rfl
    simp [Gives, run]
  | ok disk =>
    have run : (change edit failure).outcome before = (.ok (), { before with disk }) := by
      rw [change, outcome_bind, start]
      dsimp only
      rw [edited]
      rfl
    simp [Gives, run, eq_comm]

/-- Printing always goes well. -/
theorem gives_print {text : String} :
    (print text).Gives before () after ↔
      after = { before with output := before.output ++ text } :=
  ⟨fun gives => (congrArg Prod.snd gives).symm, fun same => same ▸ rfl⟩

/-- A run has come from one state to another by printing only. -/
def PrintsTo (before after : Progress) : Prop :=
  after.disk = before.disk ∧ ∃ more, after.output = before.output ++ more

/-- Nothing is printed where nothing happens. -/
theorem PrintsTo.refl (progress : Progress) : PrintsTo progress progress :=
  ⟨rfl, "", String.append_empty.symm⟩

/-- What is printed comes behind what was printed before. -/
theorem PrintsTo.trans {between : Progress} (first : PrintsTo before between)
    (second : PrintsTo between after) : PrintsTo before after := by
  obtain ⟨kept, text, printed⟩ := first
  obtain ⟨keptToo, more, printedToo⟩ := second
  exact ⟨keptToo.trans kept, text ++ more, by rw [printedToo, printed, String.append_assoc]⟩

/-- A step only prints, whatever it comes to. -/
def OnlyPrints (step : Step α) : Prop :=
  ∀ before, PrintsTo before (step.outcome before).2

/-- Two steps only print if each does. -/
theorem onlyPrints_bind {step : Step α} {next : α → Step β} (first : step.OnlyPrints)
    (second : ∀ found, (next found).OnlyPrints) : (step >>= next).OnlyPrints := by
  intro before
  have come := first before
  rw [outcome_bind]
  match ran : step.outcome before with
  | (.ok found, between) =>
    rw [ran] at come
    exact come.trans (second found between)
  | (.error error, between) =>
    rw [ran] at come
    exact come

/-- Giving a value prints nothing. -/
theorem onlyPrints_pure (value : α) : OnlyPrints (pure value) := fun before => .refl before

/-- Ending a run with an error prints nothing. -/
theorem onlyPrints_throw (error : ProgramError) : OnlyPrints (throw error : Step α) :=
  fun before => .refl before

/-- Printing only prints. -/
theorem onlyPrints_print (text : String) : (print text).OnlyPrints := fun _ => ⟨rfl, text, rfl⟩

/-- Reading from the disk prints nothing. -/
theorem onlyPrints_consult (read : Disk → Except ProgramError α) : (consult read).OnlyPrints := by
  intro before
  rw [outcome_consult]
  exact .refl before

end PacketFilter.Step
