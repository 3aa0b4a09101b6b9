import PacketFilter.Proofs.RuleText

/-!
# Why a text holds no rule

Words that are no flags, flags without an operand, and a flag that is given twice are no faults of a
rule. A text holds none only if it has less than three words, or if the first protocol that it names
and rules do not know is behind flags that could all be read (`ruleParse_eq_error_iff`).
-/
namespace PacketFilter

open Text

/-- A word that spells no flag is read as none. -/
theorem RuleFlag.ofWord?_eq_none_iff {word : String} :
    ofWord? word = none ↔ ∀ flag : RuleFlag, word ∉ flag.spellings := by
  constructor
  · intro other flag spelled
    rw [ofWord?_eq_some_iff.2 spelled] at other
    cases other
  · intro other
    cases read : ofWord? word with
    | none => rfl
    | some flag => exact absurd (ofWord?_eq_some_iff.1 read) (other flag)

/-- A flag with its operand cannot be taken into a rule only if the operand is a protocol that is
not known. -/
theorem RuleFlag.assign_eq_error_iff {flag : RuleFlag} {label operand : String} {rule : Rule}
    {error : ParseError} : flag.assign label operand rule = .error error ↔
      flag = .protocol ∧ Protocol.ofName? operand = none ∧
        error = .unsupportedProtocol operand.toUpper := by
  cases flag with
  | protocol =>
    cases known : Protocol.ofName? operand with
    | none => simp [assign, Protocol.parse, known, Except.map, eq_comm]
    | some protocol => simp [assign, Protocol.parse, known, Except.map]
  | source | destination | sourcePort | destinationPort | inInterface | outInterface | jump
  | module => simp [assign]

/-- The words behind a module flag ask for established flows. -/
def AsksEstablished (operand : String) (behind : List String) : Prop :=
  operand = "conntrack" ∧ ∃ states later, behind = "--ctstate" :: states :: later ∧
    ListsEstablished states

/-- A flag with its operand and the words behind them asks for established flows only if it is a
module flag and these words do. -/
theorem asksEstablished_eq_false_iff {flag : RuleFlag} {operand : String} {behind : List String} :
    (∀ option states later, behind = option :: states :: later →
        asksEstablished flag operand option states = false) ↔
      (flag = .module → ¬ AsksEstablished operand behind) := by
  constructor
  · rintro noState rfl ⟨rfl, states, later, rfl, named⟩
    have asked := noState "--ctstate" states later rfl
    simp [asksEstablished, namesEstablished_iff.2 named] at asked
  · rintro noState option states later rfl
    refine Bool.eq_false_iff.2 fun asked => ?_
    obtain ⟨⟨⟨isModule, isConntrack⟩, isOption⟩, named⟩ : ((flag = .module ∧
        operand = "conntrack") ∧ option = "--ctstate") ∧ namesEstablished states = true := by
      simpa [asksEstablished] using asked
    exact noState isModule
      ⟨isConntrack, states, later, by rw [isOption], namesEstablished_iff.1 named⟩

/-- Reading the words of a rule goes past some of them, and the others are left: a word that is no
flag, a flag with its operand, or a module flag and three words if these ask for established
flows. -/
inductive ReadsPast : List String → List String → Prop
  /-- Nothing has been read. -/
  | start (words : List String) : ReadsPast words words
  /-- A word is no flag. -/
  | word {word : String} {words rest : List String}
      (other : ∀ flag : RuleFlag, word ∉ flag.spellings) (later : ReadsPast words rest) :
      ReadsPast (word :: words) rest
  /-- A flag has an operand, a protocol only one that is known. -/
  | flag {word operand : String} {flag : RuleFlag} {words rest : List String}
      (spelled : word ∈ flag.spellings)
      (noState : flag = .module → ¬ AsksEstablished operand words)
      (known : flag = .protocol → Protocol.ofName? operand ≠ none)
      (later : ReadsPast words rest) : ReadsPast (word :: operand :: words) rest
  /-- A module flag asks for established flows. -/
  | established {word states : String} {words rest : List String}
      (spelled : word ∈ RuleFlag.module.spellings) (named : ListsEstablished states)
      (later : ReadsPast words rest) :
      ReadsPast (word :: "conntrack" :: "--ctstate" :: states :: words) rest

/-- What is read comes to what the words that are left come to, from some rule on. -/
theorem ReadsPast.exists_readFlags_eq {words rest : List String} (past : ReadsPast words rest)
    (label : String) (rule : Rule) :
    ∃ reached, readFlags label words rule = readFlags label rest reached := by
  induction past generalizing rule with
  | start => exact ⟨rule, rfl⟩
  | word other later ih =>
    rw [readFlags_of_ofWord?_eq_none (RuleFlag.ofWord?_eq_none_iff.2 other)]
    exact ih rule
  | @flag word operand flag words rest spelled noState known later ih =>
    rw [readFlags_operand (RuleFlag.ofWord?_eq_some_iff.2 spelled)
      (asksEstablished_eq_false_iff.2 noState)]
    cases assigned : flag.assign label operand rule with
    | ok next => exact ih next
    | error error =>
      obtain ⟨isProtocol, unknown, -⟩ := RuleFlag.assign_eq_error_iff.1 assigned
      exact absurd unknown (known isProtocol)
  | established spelled named later ih =>
    rw [readFlags_established (RuleFlag.ofWord?_eq_some_iff.2 spelled) named]
    exact ih _

/-- Words that can be read past can be read past together with those before them. -/
theorem ReadsPast.trans {words middle rest : List String} (before : ReadsPast words middle)
    (after : ReadsPast middle rest) : ReadsPast words rest := by
  induction before with
  | start => exact after
  | word other _ ih => exact .word other (ih after)
  | flag spelled noState known _ ih => exact .flag spelled noState known (ih after)
  | established spelled named _ ih => exact .established spelled named (ih after)

/-- A flag whose operand is taken can be read past. -/
theorem ReadsPast.of_assign_eq_ok {label word operand : String} {flag : RuleFlag}
    {rest : List String} {rule next : Rule} (spelled : RuleFlag.ofWord? word = some flag)
    (noState : ∀ option states later, rest = option :: states :: later →
      asksEstablished flag operand option states = false)
    (assigned : flag.assign label operand rule = .ok next) :
    ReadsPast (word :: operand :: rest) rest := by
  refine .flag (RuleFlag.ofWord?_eq_some_iff.1 spelled) (asksEstablished_eq_false_iff.1 noState)
    (fun isProtocol unknown => ?_) (.start rest)
  rw [RuleFlag.assign_eq_error_iff.2 ⟨isProtocol, unknown, rfl⟩] at assigned
  cases assigned

/-- Reading some words gets to the flag of a protocol that is not known, and the error tells of
it. -/
def UnknownProtocolIn (words : List String) (error : ParseError) : Prop :=
  ∃ word operand rest, ReadsPast words (word :: operand :: rest) ∧
    word ∈ RuleFlag.protocol.spellings ∧ Protocol.ofName? operand = none ∧
    error = .unsupportedProtocol operand.toUpper

/-- What is wrong behind words that can be read past is wrong with all of them. -/
theorem UnknownProtocolIn.behind {words rest : List String} {error : ParseError}
    (unknown : UnknownProtocolIn rest error) (past : ReadsPast words rest) :
    UnknownProtocolIn words error := by
  obtain ⟨word, operand, later, found, isFault⟩ := unknown
  exact ⟨word, operand, later, past.trans found, isFault⟩

/-- A flag whose operand is not taken is that of a protocol that is not known. -/
theorem UnknownProtocolIn.of_assign_eq_error {label word operand : String} {flag : RuleFlag}
    {rest : List String} {rule : Rule} {error : ParseError}
    (spelled : RuleFlag.ofWord? word = some flag)
    (fails : flag.assign label operand rule = .error error) :
    UnknownProtocolIn (word :: operand :: rest) error := by
  obtain ⟨rfl, unknown, rfl⟩ := RuleFlag.assign_eq_error_iff.1 fails
  exact ⟨word, operand, rest, .start _, RuleFlag.ofWord?_eq_some_iff.1 spelled, unknown, rfl⟩

/-- Words that no rule can be read from name a protocol that is not known. -/
theorem unknownProtocolIn_of_readFlags {label : String} {words : List String} {start : Rule}
    {error : ParseError} (failed : readFlags label words start = .error error) :
    UnknownProtocolIn words error := by
  fun_induction readFlags label words start with
  | case1 | case2 => cases failed
  | case3 word operand rest rule other ih =>
    exact (ih failed).behind (.word (RuleFlag.ofWord?_eq_none_iff.1 other) (.start _))
  | case4 word operand rule flag spelled option states others asked ih =>
    obtain ⟨⟨⟨rfl, rfl⟩, rfl⟩, named⟩ : ((flag = .module ∧ operand = "conntrack") ∧
        option = "--ctstate") ∧ namesEstablished states = true := by
      simpa [asksEstablished] using asked
    exact (ih failed).behind (.established (RuleFlag.ofWord?_eq_some_iff.1 spelled)
      (namesEstablished_iff.1 named) (.start _))
  | case5 word operand rule flag spelled option states others plain next assigned ih =>
    refine (ih failed).behind (.of_assign_eq_ok spelled ?_ assigned)
    rintro _ _ _ ⟨⟩
    exact Bool.eq_false_iff.2 plain
  | case7 word operand rule flag spelled others short next assigned ih =>
    refine (ih failed).behind (.of_assign_eq_ok spelled ?_ assigned)
    exact fun option states later long => absurd long (short option states later)
  | case6 word operand rule flag spelled option states others plain found assigned =>
    cases failed
    exact .of_assign_eq_error spelled assigned
  | case8 word operand rule flag spelled others short found assigned =>
    cases failed
    exact .of_assign_eq_error spelled assigned

/-- A rule cannot be read from words just if they name a protocol that is not known. -/
theorem readFlags_eq_error_iff {label : String} {words : List String} {start : Rule}
    {error : ParseError} :
    readFlags label words start = .error error ↔ UnknownProtocolIn words error := by
  refine ⟨unknownProtocolIn_of_readFlags, ?_⟩
  rintro ⟨word, operand, rest, past, spelled, unknown, rfl⟩
  obtain ⟨reached, same⟩ := past.exists_readFlags_eq label start
  have fails : RuleFlag.assign .protocol label operand reached =
      .error (.unsupportedProtocol operand.toUpper) :=
    RuleFlag.assign_eq_error_iff.2 ⟨rfl, unknown, rfl⟩
  rw [same, readFlags_operand (RuleFlag.ofWord?_eq_some_iff.2 spelled)
    fun option states _ _ => asksEstablished_of_ne (by decide) operand option states, fails]
  rfl

/-- The words of a rule that a text writes: those behind its first two, without the label. -/
def flagWords (text : String) : List String :=
  (wordsOf (String.ofList (cutLabel text.toList).1)).drop 2

/-- What is wrong with a text that holds no rule. -/
inductive RuleFault (text : String) : ParseError → Prop
  /-- It has less than three words. -/
  | tooShort (few : (wordsOf text).length < 3) : RuleFault text (.tooShort (wordsOf text).length)
  /-- It has enough words, and of all protocols that it names this is the first that is not
  known. -/
  | unsupportedProtocol {word operand : String} {rest : List String}
      (enough : 3 ≤ (wordsOf text).length)
      (past : ReadsPast (flagWords text) (word :: operand :: rest))
      (spelled : word ∈ RuleFlag.protocol.spellings)
      (unknown : operand.toUpper ∉ ["ALL", "TCP", "UDP", "ICMP"]) :
      RuleFault text (.unsupportedProtocol operand.toUpper)

/-- The protocols that are known have four names. -/
theorem Protocol.ofName?_eq_none_iff {word : String} :
    ofName? word = none ↔ word.toUpper ∉ ["ALL", "TCP", "UDP", "ICMP"] := by
  simp only [ofName?, List.mem_cons, List.not_mem_nil, or_false, not_or]
  split_ifs <;> simp_all

/-- A text holds no rule just if something is wrong with it. -/
theorem ruleParse_eq_error_iff {line : String} {error : ParseError} :
    Rule.parse line = .error error ↔ RuleFault (stripComment line) error := by
  have read : Rule.parse line = if (wordsOf (stripComment line)).length < 3 then
      .error (.tooShort (wordsOf (stripComment line)).length)
    else readFlags (String.ofList ((cutLabel (stripComment line).toList).2.getD []))
      (flagWords (stripComment line)) .wildcard := rfl
  rw [read]
  constructor
  · intro failed
    split at failed
    · next few =>
      cases failed
      exact .tooShort few
    · next enough =>
      obtain ⟨word, operand, rest, past, spelled, unknown, rfl⟩ := readFlags_eq_error_iff.1 failed
      exact .unsupportedProtocol (Nat.le_of_not_lt enough) past spelled
        (Protocol.ofName?_eq_none_iff.1 unknown)
  · intro fault
    cases fault with
    | tooShort few => rw [if_pos few]
    | unsupportedProtocol enough past spelled unknown =>
      rw [if_neg (Nat.not_lt.2 enough)]
      exact readFlags_eq_error_iff.2
        ⟨_, _, _, past, spelled, Protocol.ofName?_eq_none_iff.2 unknown, rfl⟩

end PacketFilter
