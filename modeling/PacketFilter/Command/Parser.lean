import PacketFilter.Command
import PacketFilter.Text

/-!
# Reading commands

A line is read up to its first `#`. The first word that spells a verb starts the command; a line
without one holds no command. The operands of the verb follow it as words, and a rule is read from
the text that starts at the verb.

A rule is a row of flags, most of them with one operand; words that are no known flag are passed
over. The label of a log rule may hold blanks, so it is cut out of the text before the rest is
taken apart into words.
-/
namespace PacketFilter

open Text

/-- The part of a line before its first `#`, without blanks at either end. -/
def stripComment (line : String) : String :=
  String.ofList (trim (line.toList.takeWhile (· != '#')))

/-- The words of a text. -/
def wordsOf (text : String) : List String := (words text.toList).map String.ofList

/-- The policy that a word names. -/
def Verdict.parse (word : String) : Except ParseError Verdict :=
  match Verdict.ofName? word with
  | some verdict => .ok verdict
  | none => .error (.invalidPolicy word)

/-- The protocol that a word names. -/
def Protocol.parse (word : String) : Except ParseError Protocol :=
  match Protocol.ofName? word with
  | some protocol => .ok protocol
  | none => .error (.unsupportedProtocol word.toUpper)

/-! ## Rules -/

/-- The flag that announces the label of a log rule. -/
def labelFlag : List Char := "--log-prefix".toList

/-- The text after a given beginning. -/
def afterStart? (start text : List Char) : Option (List Char) :=
  if start.isPrefixOf text then some (text.drop start.length) else none

/-- The label that an operand writes, with the text after it: all between two quotes if it starts
with a quote that is closed, else its first word. -/
def readLabel? (operand : List Char) : Option (List Char × List Char) :=
  let asQuoted :=
    match operand with
    | '"' :: inner =>
      match inner.span (· != '"') with
      | (label, '"' :: rest) => some (label, rest)
      | _ => none
    | _ => none
  asQuoted <|>
    match operand.span (!isBlank ·) with
    | ([], _) => none
    | (label, rest) => some (label, rest)

/-- The label written at the start of a text by the label flag, blanks and an operand, with the
text after it. -/
def labelHere? (text : List Char) : Option (List Char × List Char) :=
  match afterStart? labelFlag text with
  | none => none
  | some rest =>
    match rest with
    | [] => none
    | char :: _ => if isBlank char then readLabel? (trimStart rest) else none

/-- The first label of a text, and the text with a single space in its place. -/
def cutLabel : List Char → List Char × Option (List Char)
  | [] => ([], none)
  | char :: rest =>
    match labelHere? (char :: rest) with
    | some (label, after) => (' ' :: after, some label)
    | none =>
      let (body, label) := cutLabel rest
      (char :: body, label)

/-- The action that the operand of a jump flag names. Every word that is no built-in action names
a chain. -/
def Action.ofTarget (target label : String) : Action :=
  if target = "ACCEPT" then .accept
  else if target = "DROP" then .drop
  else if target = "REJECT" then .reject
  else if target = "LOG" then .log label
  else .jump target

/-- A flag of a rule that takes one operand. -/
inductive RuleFlag where
  /-- The protocol. -/
  | protocol
  /-- The sending address. -/
  | source
  /-- The receiving address. -/
  | destination
  /-- The sending port. -/
  | sourcePort
  /-- The receiving port. -/
  | destinationPort
  /-- The incoming interface. -/
  | inInterface
  /-- The outgoing interface. -/
  | outInterface
  /-- The action. -/
  | jump
  /-- A match module. -/
  | module
  deriving DecidableEq, Repr

namespace RuleFlag

/-- The short and the long spelling of a flag. -/
def spellings : RuleFlag → List String
  | protocol => ["-p", "--protocol"]
  | source => ["-s", "--source"]
  | destination => ["-d", "--destination"]
  | sourcePort => ["--sport", "--source-port"]
  | destinationPort => ["--dport", "--destination-port"]
  | inInterface => ["-i", "--in-interface"]
  | outInterface => ["-o", "--out-interface"]
  | jump => ["-j", "--jump"]
  | module => ["-m", "--match"]

/-- All flags. -/
def all : List RuleFlag :=
  [protocol, source, destination, sourcePort, destinationPort, inInterface, outInterface, jump,
    module]

/-- The flag that a word spells. -/
def ofWord? (word : String) : Option RuleFlag := all.find? (·.spellings.contains word)

/-- The rule with one flag set to an operand. A match module alone sets nothing. -/
def assign (flag : RuleFlag) (label operand : String) (rule : Rule) : Except ParseError Rule :=
  match flag with
  | protocol => (Protocol.parse operand).map fun known => { rule with protocol := known }
  | source => .ok { rule with sourceAddress := some operand }
  | destination => .ok { rule with destinationAddress := some operand }
  | sourcePort => .ok { rule with sourcePort := some operand }
  | destinationPort => .ok { rule with destinationPort := some operand }
  | inInterface => .ok { rule with inInterface := some operand }
  | outInterface => .ok { rule with outInterface := some operand }
  | jump => .ok { rule with action := some (Action.ofTarget operand label) }
  | module => .ok rule

end RuleFlag

/-- Whether a list of connection states, separated by commas, names the established state. -/
def namesEstablished (states : String) : Bool :=
  (split (· == ',') states.toList).contains "ESTABLISHED".toList

/-- Whether a flag, its operand and the two words after them ask for established flows. -/
def asksEstablished (flag : RuleFlag) (operand option states : String) : Bool :=
  flag = .module && operand = "conntrack" && option = "--ctstate" && namesEstablished states

/-- The rule that a row of words writes, starting from a given one. A later flag overrules an
earlier one, and a flag at the very end, without an operand, is passed over. -/
def readFlags (label : String) : List String → Rule → Except ParseError Rule
  | [], rule => .ok rule
  | [_], rule => .ok rule
  | word :: operand :: rest, rule =>
    match RuleFlag.ofWord? word with
    | none => readFlags label (operand :: rest) rule
    | some flag =>
      match rest with
      | option :: states :: others =>
        if asksEstablished flag operand option states then
          readFlags label others { rule with requireEstablished := true }
        else
          match flag.assign label operand rule with
          | .ok rule => readFlags label (option :: states :: others) rule
          | .error error => .error error
      | others =>
        match flag.assign label operand rule with
        | .ok rule => readFlags label others rule
        | .error error => .error error

/-- The rule that a line writes after two words that are not looked at, the verb and the chain. -/
def Rule.parse (line : String) : Except ParseError Rule :=
  let text := stripComment line
  let count := (wordsOf text).length
  if count < 3 then .error (.tooShort count)
  else
    let (body, label) := cutLabel text.toList
    let label := String.ofList (label.getD [])
    readFlags label ((wordsOf (String.ofList body)).drop 2) .wildcard

/-! ## Commands -/

/-- The characters that a chain name is made of. -/
def isNameChar (char : Char) : Bool :=
  ('A' ≤ char && char ≤ 'Z') || ('0' ≤ char && char ≤ '9') || char = '_' || char = '-'

/-- A chain name has at least three name characters and starts with a letter. -/
def isChainName (word : String) : Bool :=
  match word.toList with
  | first :: rest => 'A' ≤ first && first ≤ 'Z' && 2 ≤ rest.length && rest.all isNameChar
  | [] => false

/-- A word that is written as a position: ASCII digits and nothing else. -/
def isIndex (word : String) : Bool :=
  !word.toList.isEmpty && word.toList.all fun char => '0' ≤ char && char ≤ '9'

/-- The position that a word writes. -/
def readIndex (word : String) : Except ParseError Nat :=
  match readNumeral? 10 word.toList with
  | some index => if index < wordLimit then .ok index else .error (.invalidIndex word)
  | none => .error (.invalidIndex word)

/-- The chain that a word names. -/
def readChain (word : String) : Except ParseError String :=
  if isChainName word then .ok word else .error (.invalidChainName word)

/-- The first verb among the words of a text, with the text from there on. The flag tells whether
a word may start at the head of the text. -/
def findVerb (atStart : Bool) : List Char → Option (Verb × List Char)
  | [] => none
  | char :: rest =>
    if isBlank char then findVerb true rest
    else
      let verb :=
        if atStart then
          Verb.ofWord? (String.ofList ((char :: rest).takeWhile (!isBlank ·)))
        else none
      match verb with
      | some verb => some (verb, char :: rest)
      | none => findVerb false rest

namespace Command

/-- The chain operand that every verb but a bare flush needs first. -/
def chainOperand (verb : Verb) : List String → Except ParseError String
  | [] => .error (.missingChain verb)
  | word :: _ => readChain word

/-- The position operand after the chain, if the word there is written as one. -/
def indexOperand? : List String → Except ParseError (Option Nat)
  | _ :: word :: _ => if isIndex word then some <$> readIndex word else .ok none
  | _ => .ok none

/-- The policy operand after the chain. -/
def policyOperand : List String → Except ParseError Verdict
  | _ :: word :: _ => Verdict.parse word
  | _ => .error .missingPolicy

/-- The command of a verb, from the text that starts at it. -/
def ofVerb (verb : Verb) (text : String) : Except ParseError Command := do
  let operands := (wordsOf text).drop 1
  match verb with
  | .flush =>
    if operands.isEmpty then .ok (.flush none)
    else .ok (.flush (some (← chainOperand verb operands)))
  | .newChain => .ok (.newChain (← chainOperand verb operands))
  | .policy =>
    let chain ← chainOperand verb operands
    .ok (.setPolicy chain (← policyOperand operands))
  | .append =>
    let chain ← chainOperand verb operands
    .ok (.append chain (← Rule.parse text))
  | .insert =>
    let chain ← chainOperand verb operands
    let position ← indexOperand? operands
    .ok (.insert chain (position.getD 1) (← Rule.parse text))
  | .delete =>
    let chain ← chainOperand verb operands
    match ← indexOperand? operands with
    | some position => .ok (.deleteAt chain position)
    | none => .ok (.deleteMatching chain (← Rule.parse text))
  | .replace =>
    let chain ← chainOperand verb operands
    match ← indexOperand? operands with
    | some position => .ok (.replace chain position (← Rule.parse text))
    | none => .error (.missingIndex verb)

/-- The command of a line, if it holds one. -/
def parse (line : String) : Except ParseError (Option Command) :=
  match findVerb true (stripComment line).toList with
  | none => .ok none
  | some (verb, text) => some <$> ofVerb verb (String.ofList text)

end Command

end PacketFilter
