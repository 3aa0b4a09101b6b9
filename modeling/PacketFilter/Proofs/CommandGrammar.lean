import PacketFilter.Proofs.FirstVerb
import PacketFilter.Proofs.RuleFaults
import PacketFilter.Proofs.Text.Decimal

/-!
# The grammar of commands

The words of a line decide what it comes to. The first of them that spells a verb starts the
command, and the words behind it are its operands: the chain, a position or a policy, and the words
of a rule. `LineReading` says which command each line holds and which error is told of one that
holds none, where several could be; reading a line comes to just that
(`Command.parse_eq_iff_lineReading`).
-/
namespace PacketFilter

open Text

/-! ## Operands -/

/-- A chain name has at least three characters, all of them upper-case letters, digits, underscores
or dashes, and starts with a letter. -/
structure ChainName (word : String) : Prop where
  /-- It has at least three characters. -/
  long : 3 ≤ word.toList.length
  /-- The first one is a letter. -/
  first : ∀ char ∈ word.toList.head?, 'A' ≤ char ∧ char ≤ 'Z'
  /-- There are no others than these. -/
  characters : ∀ char ∈ word.toList,
    ('A' ≤ char ∧ char ≤ 'Z') ∨ ('0' ≤ char ∧ char ≤ '9') ∨ char = '_' ∨ char = '-'

/-- The words that are taken for chain names are these. -/
theorem isChainName_iff {word : String} : isChainName word = true ↔ ChainName word := by
  have nameChar (char : Char) : isNameChar char = true ↔
      ('A' ≤ char ∧ char ≤ 'Z') ∨ ('0' ≤ char ∧ char ≤ '9') ∨ char = '_' ∨ char = '-' := by
    simp [isNameChar, or_assoc]
  constructor
  · intro named
    cases chars : word.toList with
    | nil => simp [isChainName, chars] at named
    | cons first rest =>
      obtain ⟨⟨letter, long⟩, others⟩ : (('A' ≤ first ∧ first ≤ 'Z') ∧ 2 ≤ rest.length) ∧
          ∀ char ∈ rest, isNameChar char = true := by
        simpa [isChainName, chars] using named
      refine ⟨?_, ?_, ?_⟩
      · rw [chars, List.length_cons]
        omega
      · simpa [chars] using letter
      · rw [chars]
        exact List.forall_mem_cons.2
          ⟨.inl letter, fun char member => (nameChar char).1 (others char member)⟩
  · rintro ⟨long, letter, characters⟩
    cases chars : word.toList with
    | nil => simp [chars] at long
    | cons first rest =>
      rw [chars] at long letter characters
      have others : ∀ char ∈ rest, isNameChar char = true := fun char member =>
        (nameChar char).2 (characters char (List.mem_cons_of_mem _ member))
      have letter := letter first rfl
      have more : 2 ≤ rest.length := by simpa using long
      simpa [isChainName, chars, letter, more] using others

/-- A numeral is made of decimal digits and nothing else. -/
structure IsNumeral (word : String) : Prop where
  /-- It has a digit. -/
  nonempty : word.toList ≠ []
  /-- All characters are digits. -/
  digits : ∀ char ∈ word.toList, '0' ≤ char ∧ char ≤ '9'

/-- The number that a numeral denotes. -/
def numeralValue (word : String) : Nat := Nat.ofDigitChars 10 word.toList 0

/-- The words that are taken for positions are the numerals. -/
theorem isIndex_iff {word : String} : isIndex word = true ↔ IsNumeral word := by
  constructor
  · intro index
    obtain ⟨nonempty, digits⟩ : word.toList ≠ [] ∧
        ∀ char ∈ word.toList, '0' ≤ char ∧ char ≤ '9' := by
      simpa [isIndex] using index
    exact ⟨nonempty, digits⟩
  · rintro ⟨nonempty, digits⟩
    simpa [isIndex] using ⟨by simpa using nonempty, digits⟩

/-- A number is written as a numeral. -/
theorem isNumeral_toString (number : Nat) : IsNumeral (toString number) :=
  isIndex_iff.1 (isIndex_toString number)

/-- The numeral that is written for a number denotes it. -/
theorem numeralValue_toString (number : Nat) : numeralValue (toString number) = number := by
  have digits : ∀ char ∈ (toString number).toList, char.isDigit = true :=
    fun _ => isDigit_of_mem_toString
  have read := readNumeral?_toString number
  rw [readNumeral?_of_isDigit (isNumeral_toString number).nonempty digits] at read
  exact Option.some.inj read

/-- A word that is no numeral is not taken for a position. -/
theorem isIndex_eq_false {word : String} (noNumeral : ¬ IsNumeral word) : isIndex word = false :=
  Bool.eq_false_iff.2 fun index => noNumeral (isIndex_iff.1 index)

/-- A numeral is read as its number, if that is a machine word. -/
theorem readIndex_of_isNumeral {word : String} (numeral : IsNumeral word) :
    readIndex word = if numeralValue word < UInt64.size then .ok (numeralValue word)
      else .error (.invalidIndex word) := by
  have decimal : ∀ char ∈ word.toList, char.isDigit = true := fun char member =>
    isDigit_iff.2 (numeral.digits char member)
  rw [readIndex, readNumeral?_of_isDigit numeral.nonempty decimal]
  rfl

/-! ## Grammar -/

/-- The commands of a chain that hold a rule, by verb and the words behind the chain. A position is
written as a numeral; a rule is inserted first and deleted by what it says where there is none. -/
inductive RuleCommand (chain : String) : Verb → List String → (Rule → Command) → Prop
  /-- A rule is added at the end. -/
  | append {rest : List String} : RuleCommand chain .append rest (.append chain)
  /-- A rule is inserted at a position. -/
  | insert {word : String} {rest : List String} (numeral : IsNumeral word)
      (fits : numeralValue word < UInt64.size) :
      RuleCommand chain .insert (word :: rest) (.insert chain (numeralValue word))
  /-- A rule is inserted before all others. -/
  | insertFirst {rest : List String} (noNumeral : ∀ word ∈ rest.head?, ¬ IsNumeral word) :
      RuleCommand chain .insert rest (.insert chain 1)
  /-- A rule is deleted. -/
  | deleteMatching {rest : List String} (noNumeral : ∀ word ∈ rest.head?, ¬ IsNumeral word) :
      RuleCommand chain .delete rest (.deleteMatching chain)
  /-- The rule at a position is replaced. -/
  | replace {word : String} {rest : List String} (numeral : IsNumeral word)
      (fits : numeralValue word < UInt64.size) :
      RuleCommand chain .replace (word :: rest) (.replace chain (numeralValue word))

/-- What a verb with its operands comes to. A rule is read from the text that starts at the verb. Of
several faults the one that comes first is told: the chain, then the policy or the position, then
the rule. -/
inductive VerbReading (text : String) : Verb → List String → Except ParseError Command → Prop
  /-- All chains are emptied. -/
  | flushAll : VerbReading text .flush [] (.ok (.flush none))
  /-- Every other verb needs a chain. -/
  | missingChain {verb : Verb} (other : verb ≠ .flush) :
      VerbReading text verb [] (.error (.missingChain verb))
  /-- The word behind the verb is no chain name. -/
  | invalidChainName {verb : Verb} {word : String} {rest : List String}
      (invalid : ¬ ChainName word) :
      VerbReading text verb (word :: rest) (.error (.invalidChainName word))
  /-- A chain is emptied. -/
  | flush {chain : String} {rest : List String} (named : ChainName chain) :
      VerbReading text .flush (chain :: rest) (.ok (.flush (some chain)))
  /-- A chain is created. -/
  | newChain {chain : String} {rest : List String} (named : ChainName chain) :
      VerbReading text .newChain (chain :: rest) (.ok (.newChain chain))
  /-- There is no policy. -/
  | missingPolicy {chain : String} (named : ChainName chain) :
      VerbReading text .policy [chain] (.error .missingPolicy)
  /-- The word behind the chain is no policy. -/
  | invalidPolicy {chain word : String} {rest : List String} (named : ChainName chain)
      (invalid : word ≠ "ACCEPT" ∧ word ≠ "DROP") :
      VerbReading text .policy (chain :: word :: rest) (.error (.invalidPolicy word))
  /-- The policy is to accept. -/
  | acceptPolicy {chain : String} {rest : List String} (named : ChainName chain) :
      VerbReading text .policy (chain :: "ACCEPT" :: rest) (.ok (.setPolicy chain .accept))
  /-- The policy is to drop. -/
  | dropPolicy {chain : String} {rest : List String} (named : ChainName chain) :
      VerbReading text .policy (chain :: "DROP" :: rest) (.ok (.setPolicy chain .drop))
  /-- The position is beyond the machine words. -/
  | invalidIndex {verb : Verb} {chain word : String} {rest : List String}
      (named : ChainName chain) (positioned : verb ∈ [Verb.insert, .delete, .replace])
      (numeral : IsNumeral word) (large : UInt64.size ≤ numeralValue word) :
      VerbReading text verb (chain :: word :: rest) (.error (.invalidIndex word))
  /-- There is no position of the rule to replace. -/
  | missingIndex {chain : String} {rest : List String} (named : ChainName chain)
      (noNumeral : ∀ word ∈ rest.head?, ¬ IsNumeral word) :
      VerbReading text .replace (chain :: rest) (.error (.missingIndex .replace))
  /-- The rule at a position is deleted. -/
  | deleteAt {chain word : String} {rest : List String} (named : ChainName chain)
      (numeral : IsNumeral word) (fits : numeralValue word < UInt64.size) :
      VerbReading text .delete (chain :: word :: rest)
        (.ok (.deleteAt chain (numeralValue word)))
  /-- A command holds a rule, and there is one. -/
  | rule {verb : Verb} {chain : String} {rest : List String} {build : Rule → Command}
      {rule : Rule} (named : ChainName chain) (holds : RuleCommand chain verb rest build)
      (parsed : Rule.parse text = .ok rule) :
      VerbReading text verb (chain :: rest) (.ok (build rule))
  /-- A command holds a rule, and the text has none. -/
  | ruleFault {verb : Verb} {chain : String} {rest : List String} {build : Rule → Command}
      {error : ParseError} (named : ChainName chain) (holds : RuleCommand chain verb rest build)
      (fault : RuleFault text error) : VerbReading text verb (chain :: rest) (.error error)

/-- What a line comes to: its first verb with its operands, or nothing if no word spells a verb. -/
inductive LineReading (line : String) : Except ParseError (Option Command) → Prop
  /-- There is no verb. -/
  | noVerb (free : NoVerb (wordsOf (stripComment line))) : LineReading line (.ok none)
  /-- A verb starts a command. -/
  | verb {before operands : List String} {word text : String} {verb : Verb}
      {outcome : Except ParseError Command} (cut : FirstVerb line before word operands text)
      (spelled : verb.Spelled word) (reading : VerbReading text verb operands outcome) :
      LineReading line (some <$> outcome)

/-! ## Reading -/

/-- The word that names a chain is read. -/
theorem readChain_of_chainName {chain : String} (named : ChainName chain) :
    readChain chain = .ok chain := if_pos (isChainName_iff.2 named)

/-- The position behind the chain is read, if it is a machine word. -/
theorem indexOperand?_of_isNumeral {chain word : String} (numeral : IsNumeral word)
    (fits : numeralValue word < UInt64.size) (rest : List String) :
    Command.indexOperand? (chain :: word :: rest) = .ok (some (numeralValue word)) := by
  rw [Command.indexOperand?, isIndex_iff.2 numeral, if_pos rfl, readIndex_of_isNumeral numeral,
    if_pos fits]
  rfl

/-- A position that is beyond the machine words is refused. -/
theorem indexOperand?_of_large {chain word : String} (numeral : IsNumeral word)
    (large : UInt64.size ≤ numeralValue word) (rest : List String) :
    Command.indexOperand? (chain :: word :: rest) = .error (.invalidIndex word) := by
  rw [Command.indexOperand?, isIndex_iff.2 numeral, if_pos rfl, readIndex_of_isNumeral numeral,
    if_neg (Nat.not_lt.2 large)]
  rfl

/-- There is no position unless a numeral follows the chain. -/
theorem indexOperand?_of_noNumeral {rest : List String}
    (noNumeral : ∀ word ∈ rest.head?, ¬ IsNumeral word) (chain : String) :
    Command.indexOperand? (chain :: rest) = .ok none := by
  cases rest with
  | nil => rfl
  | cons word others =>
    rw [Command.indexOperand?, isIndex_eq_false (noNumeral word rfl), if_neg Bool.false_ne_true]

section Operands

variable {text chain : String} {verb : Verb} {rest operands : List String}
  {outcome : Except ParseError Command}

/-- A command that holds a rule is read once the rule is. -/
theorem RuleCommand.ofVerb_eq {build : Rule → Command} (holds : RuleCommand chain verb rest build)
    (named : ChainName chain) (behind : (wordsOf text).drop 1 = chain :: rest) :
    Command.ofVerb verb text = build <$> Rule.parse text := by
  have isChain : Command.chainOperand verb (chain :: rest) = .ok chain :=
    readChain_of_chainName named
  rw [Command.ofVerb.eq_def, behind]
  cases holds with
  | append =>
    simp only [isChain]
    cases Rule.parse text <;> rfl
  | insert numeral fits =>
    simp only [isChain, indexOperand?_of_isNumeral numeral fits]
    cases Rule.parse text <;> rfl
  | insertFirst noNumeral =>
    simp only [isChain, indexOperand?_of_noNumeral noNumeral]
    cases Rule.parse text <;> rfl
  | deleteMatching noNumeral =>
    simp only [isChain, indexOperand?_of_noNumeral noNumeral]
    cases Rule.parse text <;> rfl
  | replace numeral fits =>
    simp only [isChain, indexOperand?_of_isNumeral numeral fits]
    cases Rule.parse text <;> rfl

/-- A verb whose chain is missing or badly named is refused for that, unless it is a bare flush. -/
theorem ofVerb_of_chainOperand_eq_error {error : ParseError}
    (fails : Command.chainOperand verb ((wordsOf text).drop 1) = .error error)
    (other : verb = .flush → (wordsOf text).drop 1 ≠ []) :
    Command.ofVerb verb text = .error error := by
  rw [Command.ofVerb.eq_def]
  cases verb with
  | flush =>
    have some : ((wordsOf text).drop 1).isEmpty = false := List.isEmpty_eq_false_iff.2 (other rfl)
    simp only [some, fails]
    rfl
  | newChain | policy | append | insert | delete | replace =>
    simp only [fails]
    rfl

/-- A verb with its operands comes to what the grammar says. -/
theorem VerbReading.ofVerb_eq (behind : (wordsOf text).drop 1 = operands)
    (stripped : stripComment text = text) (reading : VerbReading text verb operands outcome) :
    Command.ofVerb verb text = outcome := by
  cases reading with
  | flushAll =>
    rw [Command.ofVerb, behind]
    rfl
  | missingChain other =>
    exact ofVerb_of_chainOperand_eq_error (by rw [behind]; rfl) fun isFlush => absurd isFlush other
  | @invalidChainName _ word rest invalid =>
    have refused : readChain word = .error (.invalidChainName word) :=
      if_neg fun named => invalid (isChainName_iff.1 named)
    refine ofVerb_of_chainOperand_eq_error (by rw [behind]; exact refused) fun _ => ?_
    rw [behind]
    exact List.cons_ne_nil _ _
  | flush named | newChain named | missingPolicy named | acceptPolicy named
  | dropPolicy named =>
    rw [Command.ofVerb, behind]
    simp only [Command.chainOperand, readChain_of_chainName named]
    rfl
  | @invalidPolicy _ word _ named invalid =>
    have refused : Verdict.parse word = .error (.invalidPolicy word) := by
      simp [Verdict.parse, Verdict.ofName?, invalid]
    rw [Command.ofVerb, behind]
    simp only [Command.chainOperand, Command.policyOperand, readChain_of_chainName named, refused]
    rfl
  | invalidIndex named positioned numeral large =>
    rw [Command.ofVerb.eq_def, behind]
    simp only [List.mem_cons, List.not_mem_nil, or_false] at positioned
    rcases positioned with rfl | rfl | rfl
    all_goals
      simp only [Command.chainOperand, readChain_of_chainName named,
        indexOperand?_of_large numeral large]
      rfl
  | missingIndex named noNumeral =>
    rw [Command.ofVerb, behind]
    simp only [Command.chainOperand, readChain_of_chainName named,
      indexOperand?_of_noNumeral noNumeral]
    rfl
  | deleteAt named numeral fits =>
    rw [Command.ofVerb, behind]
    simp only [Command.chainOperand, readChain_of_chainName named,
      indexOperand?_of_isNumeral numeral fits]
    rfl
  | rule named holds parsed =>
    rw [holds.ofVerb_eq named behind, parsed]
    rfl
  | @ruleFault _ _ _ _ error named holds fault =>
    have failed : Rule.parse text = .error error := by
      rw [ruleParse_eq_error_iff, stripped]
      exact fault
    rw [holds.ofVerb_eq named behind, failed]
    rfl

/-- The word behind a chain is no position, or it is a numeral. -/
theorem noNumeral_or_exists_numeral (rest : List String) :
    (∀ word ∈ rest.head?, ¬ IsNumeral word) ∨
      ∃ word others, rest = word :: others ∧ IsNumeral word := by
  cases rest with
  | nil => exact .inl fun _ first => by cases first
  | cons word others =>
    by_cases numeral : IsNumeral word
    · exact .inr ⟨word, others, rfl, numeral⟩
    · refine .inl fun other first => ?_
      obtain rfl : word = other := Option.some.inj first
      exact numeral

/-- A command that holds a rule comes to the command or to what is wrong with the rule. -/
theorem RuleCommand.exists_verbReading {build : Rule → Command}
    (holds : RuleCommand chain verb rest build) (named : ChainName chain)
    (stripped : stripComment text = text) :
    ∃ outcome, VerbReading text verb (chain :: rest) outcome := by
  cases parsed : Rule.parse text with
  | ok rule => exact ⟨_, .rule named holds parsed⟩
  | error error =>
    rw [ruleParse_eq_error_iff, stripped] at parsed
    exact ⟨_, .ruleFault named holds parsed⟩

/-- Every verb with its operands comes to something. -/
theorem exists_verbReading (stripped : stripComment text = text) (verb : Verb)
    (operands : List String) : ∃ outcome, VerbReading text verb operands outcome := by
  cases operands with
  | nil =>
    by_cases isFlush : verb = .flush
    · rw [isFlush]
      exact ⟨_, .flushAll⟩
    · exact ⟨_, .missingChain isFlush⟩
  | cons chain rest =>
    by_cases named : ChainName chain
    · cases verb with
      | flush => exact ⟨_, .flush named⟩
      | newChain => exact ⟨_, .newChain named⟩
      | append => exact RuleCommand.append.exists_verbReading named stripped
      | policy =>
        cases rest with
        | nil => exact ⟨_, .missingPolicy named⟩
        | cons word others =>
          by_cases accepts : word = "ACCEPT"
          · rw [accepts]
            exact ⟨_, .acceptPolicy named⟩
          by_cases drops : word = "DROP"
          · rw [drops]
            exact ⟨_, .dropPolicy named⟩
          exact ⟨_, .invalidPolicy named ⟨accepts, drops⟩⟩
      | insert =>
        rcases noNumeral_or_exists_numeral rest with noNumeral | ⟨word, others, rfl, numeral⟩
        · exact (RuleCommand.insertFirst noNumeral).exists_verbReading named stripped
        by_cases fits : numeralValue word < UInt64.size
        · exact (RuleCommand.insert numeral fits).exists_verbReading named stripped
        · exact ⟨_, .invalidIndex named (by decide) numeral (Nat.le_of_not_lt fits)⟩
      | delete =>
        rcases noNumeral_or_exists_numeral rest with noNumeral | ⟨word, others, rfl, numeral⟩
        · exact (RuleCommand.deleteMatching noNumeral).exists_verbReading named stripped
        by_cases fits : numeralValue word < UInt64.size
        · exact ⟨_, .deleteAt named numeral fits⟩
        · exact ⟨_, .invalidIndex named (by decide) numeral (Nat.le_of_not_lt fits)⟩
      | replace =>
        rcases noNumeral_or_exists_numeral rest with noNumeral | ⟨word, others, rfl, numeral⟩
        · exact ⟨_, .missingIndex named noNumeral⟩
        by_cases fits : numeralValue word < UInt64.size
        · exact (RuleCommand.replace numeral fits).exists_verbReading named stripped
        · exact ⟨_, .invalidIndex named (by decide) numeral (Nat.le_of_not_lt fits)⟩
    · exact ⟨_, .invalidChainName named⟩

end Operands

/-- What the grammar says of a line is what reading it comes to. -/
theorem LineReading.parse_eq {line : String} {outcome : Except ParseError (Option Command)}
    (reading : LineReading line outcome) : Command.parse line = outcome := by
  cases reading with
  | noVerb free => exact Command.parse_of_noVerb free
  | verb cut spelled reading =>
    have behind : (wordsOf _).drop 1 = _ := congrArg (List.drop 1) cut.wordsOf_eq
    rw [Command.parse_of_firstVerb cut spelled, reading.ofVerb_eq behind cut.stripComment_eq]

/-- The grammar says something of every line. -/
theorem exists_lineReading (line : String) : ∃ outcome, LineReading line outcome := by
  rcases noVerb_or_exists_firstVerb line with
    free | ⟨before, word, operands, text, verb, cut, spelled⟩
  · exact ⟨_, .noVerb free⟩
  · obtain ⟨outcome, reading⟩ := exists_verbReading cut.stripComment_eq verb operands
    exact ⟨_, .verb cut spelled reading⟩

/-- Reading a line comes to what the grammar says of it, and to nothing else: the command that it
holds, none if no word spells a verb, or the first of its faults. -/
theorem Command.parse_eq_iff_lineReading (line : String)
    (outcome : Except ParseError (Option Command)) :
    parse line = outcome ↔ LineReading line outcome := by
  constructor
  · intro parsed
    obtain ⟨said, reading⟩ := exists_lineReading line
    have same : said = outcome := reading.parse_eq.symm.trans parsed
    rw [← same]
    exact reading
  · exact LineReading.parse_eq

/-- Of three faults that of the chain is told. -/
example : Command.parse "-I web 99999999999999999999 -p sctp" =
    .error (.invalidChainName "web") := by
  decide +kernel

end PacketFilter
