import PacketFilter.Address
import PacketFilter.Packet

/-!
# The command line

The words of a command line name a task, with options that say what it is about.
-/
namespace PacketFilter

/-! ## Tasks

What the program can be asked to do, and the files that it may touch in doing so. -/

/-- The protocol of a packet that is described on the command line. -/
inductive PacketKind where
  /-- A TCP packet. -/
  | tcp
  /-- A UDP packet. -/
  | udp
  /-- An ICMP packet. -/
  | icmp
  deriving DecidableEq, Repr

/-- The packet kind that a word names. -/
def PacketKind.ofName? (word : String) : Option PacketKind :=
  if word = "tcp" then some .tcp
  else if word = "udp" then some .udp
  else if word = "icmp" then some .icmp
  else none

/-- The packet of a kind between two hosts. -/
def PacketKind.packet (kind : PacketKind) (source : Address) (sourcePort : UInt16)
    (destination : Address) (destinationPort : UInt16) : Packet :=
  match kind with
  | tcp => .betweenPorts .tcp source sourcePort destination destinationPort
  | udp => .betweenPorts .udp source sourcePort destination destinationPort
  | icmp => .betweenHosts source destination

/-- What the program is asked to do. -/
inductive Task where
  /-- Decide on the packets of a file. -/
  | simulate (rules packets : String) (chain : Option String) (output : String)
      (expected : Option String) (metrics : Bool)
  /-- Add a command to a rule file. -/
  | addRule (command file : String)
  /-- List the chains of a rule file and the lines that were skipped. -/
  | check (rules : String)
  /-- Decide on one packet. -/
  | eval (rules : String) (chain : Option String) (packet : Packet)
  deriving DecidableEq, Repr

/-- A task with the configuration to use. -/
structure Invocation where
  /-- The configuration file, if one is named. -/
  config : Option String
  /-- What to do. -/
  task : Task
  deriving DecidableEq, Repr

/-- The files that a task may read or write. -/
def Task.paths : Task → List String
  | simulate rules packets _ output expected _ => [rules, packets, output] ++ expected.toList
  | addRule _ file => [file]
  | check rules => [rules]
  | eval rules _ _ => [rules]

/-- The files that an invocation may read or write. -/
def Invocation.paths (invocation : Invocation) : List String :=
  invocation.config.toList ++ invocation.task.paths

end PacketFilter

namespace PacketFilter.CommandLine

/-! ## Options of the command line

Every option has a long name and perhaps a letter, and some have an operand, whose kind settles
which texts it may be. -/

/-- What belongs to an option. -/
inductive Operand where
  /-- Nothing: the option is a mark. -/
  | nothing
  /-- A path, which is not empty. -/
  | path
  /-- Any text. -/
  | text
  /-- An address. -/
  | address
  /-- The name of a packet kind. -/
  | packetKind
  /-- A port. -/
  | port
  deriving DecidableEq, Repr

/-- An option that the program or a task knows. -/
structure Spec where
  /-- The name after two dashes. -/
  name : String
  /-- The letter after one dash. -/
  letter : Option Char
  /-- What belongs to it. -/
  operand : Operand
  deriving DecidableEq, Repr

/-- The value that is given to an option. -/
inductive Value where
  /-- A mark is set. -/
  | mark
  /-- A path or another text. -/
  | text (text : String)
  /-- An address. -/
  | address (address : Address)
  /-- A packet kind. -/
  | packetKind (kind : PacketKind)
  /-- A port. -/
  | port (port : UInt16)
  deriving DecidableEq, Repr

/-- An option as it was given. -/
structure Given where
  /-- Its long name. -/
  name : String
  /-- Its value. -/
  value : Value
  deriving DecidableEq, Repr

/-- The configuration file, which may be named anywhere. -/
def configSpec : Spec := ⟨"config", none, .path⟩

/-- Help, which may be asked for anywhere. -/
def helpSpec : Spec := ⟨"help", some 'h', .nothing⟩

/-- The version, which may be asked for before the task. -/
def versionSpec : Spec := ⟨"version", some 'V', .nothing⟩

/-- The rule file. -/
def rulesSpec : Spec := ⟨"rules", some 'r', .path⟩

/-- The rule file where none is named. -/
def standardRules : String := "iptsim.rules"

/-- The options of the program. -/
def programSpecs : List Spec := [configSpec, helpSpec, versionSpec]

/-- The names of the tasks with their options. -/
def taskSpecs : List (String × List Spec) :=
  [("simulate",
    [rulesSpec, ⟨"packets", some 'p', .path⟩, ⟨"chain", none, .text⟩, ⟨"output", some 'o', .path⟩,
      ⟨"expect", none, .path⟩, ⟨"metrics", none, .nothing⟩]),
   ("add-rule", [⟨"command", some 'c', .text⟩, ⟨"file", some 'f', .path⟩]),
   ("check", [rulesSpec]),
   ("eval",
    [rulesSpec, ⟨"chain", none, .text⟩, ⟨"src", none, .address⟩, ⟨"dst", none, .address⟩,
      ⟨"proto", none, .packetKind⟩, ⟨"sport", none, .port⟩, ⟨"dport", none, .port⟩])]

/-! ### Operands -/

/-- A number without its sign, with whether the sign is a minus. -/
def unsigned : List Char → Bool × List Char
  | '+' :: digits => (false, digits)
  | '-' :: digits => (true, digits)
  | digits => (false, digits)

/-- A port operand: a whole number in range with an optional sign and any leading zeros. -/
def readPort (operand : String) : Option UInt16 := do
  let (negative, digits) := unsigned operand.toList
  let value ← Text.readNumeral? 10 digits
  if value < UInt16.size && !(negative && 0 < value) then some value.toUInt16 else none

/-- The value that an operand writes, if it is one that belongs to the option. -/
def Operand.read? (expected : Operand) (operand : String) : Option Value :=
  match expected with
  | nothing => none
  | path => if operand = "" then none else some (.text operand)
  | text => some (.text operand)
  | address => (Address.ofText? operand).map .address
  | packetKind => (PacketKind.ofName? operand).map .packetKind
  | port => (readPort operand).map .port

end PacketFilter.CommandLine

namespace PacketFilter

/-! ## The command line

The first words are options of the program, then comes the name of a task, then the options of
the task. An option has a long name and perhaps a letter; its operand is joined to it or is the
next word, unless that word looks like an option. Every option is given at most once, except that
the configuration may be named before and after the task, where the latter counts. Words are taken
in order, and the first that is wrong or asks for help or for the version settles the matter. -/

/-- Why a command line is not carried out. -/
inductive Refusal where
  /-- It asks for help. -/
  | help
  /-- It asks for the version. -/
  | version
  /-- It is not understood. -/
  | misuse
  deriving DecidableEq, Repr

namespace CommandLine

/-! ### Words -/

/-- An option word: the option it names and the operand joined to it. -/
structure OptionWord where
  /-- The option. -/
  spec : Spec
  /-- The operand joined to it, if there is one. -/
  operand : Option String

/-- What a word is. -/
inductive Word where
  /-- Two dashes, after which no options come. -/
  | endOfOptions
  /-- An option that is known, or one that is not. -/
  | option (word : Option OptionWord)
  /-- Anything else. -/
  | plain

/-- The text after an equals sign, or after nothing. -/
def afterEquals : List Char → Option String
  | '=' :: operand => some (String.ofList operand)
  | _ => none

/-- The operand joined to the letter of an option. A mark takes none, whatever follows its
letter. -/
def joinedOperand (spec : Spec) (rest : List Char) : Option String :=
  if rest.isEmpty || spec.operand = .nothing then none
  else afterEquals rest <|> some (String.ofList rest)

/-- What a word is where the given options are known. -/
def classify (specs : List Spec) (word : String) : Word :=
  match word.toList with
  | ['-', '-'] => .endOfOptions
  | '-' :: '-' :: rest =>
    let (name, operand) := rest.span (· != '=')
    .option ((specs.find? (·.name.toList = name)).map fun spec => ⟨spec, afterEquals operand⟩)
  | '-' :: letter :: rest =>
    .option
      ((specs.find? (·.letter = some letter)).map fun spec => ⟨spec, joinedOperand spec rest⟩)
  | _ => .plain

/-- The options given so far with one more, which must be the first of its name and have a value
that belongs to it. -/
def give (given : List Given) (spec : Spec) (value : Option Value) :
    Except Refusal (List Given) :=
  match value with
  | none => .error .misuse
  | some value =>
    if given.any (·.name = spec.name) then .error .misuse else .ok (given ++ [⟨spec.name, value⟩])

/-- Take in the options at the start of the words after those given so far, with the words from
the first on that is none. Options are taken one by one, so that a request for help or for the
version counts only if the options before it are in order. After the mark that ends options
nothing may follow. -/
def readOptions (specs : List Spec) (given : List Given) :
    List String → Except Refusal (List Given × List String)
  | [] => .ok (given, [])
  | word :: rest =>
    match classify specs word with
    | .plain => .ok (given, word :: rest)
    | .endOfOptions => if rest.isEmpty then .ok (given, []) else .error .misuse
    | .option none => .error .misuse
    | .option (some ⟨spec, joined⟩) =>
      if spec.operand = .nothing then
        if joined.isSome then .error .misuse
        else if spec = helpSpec then .error .help
        else if spec = versionSpec then .error .version
        else do readOptions specs (← give given spec (some .mark)) rest
      else
        match joined, rest with
        | some operand, rest =>
          do readOptions specs (← give given spec (spec.operand.read? operand)) rest
        | none, operand :: others =>
          match classify [] operand with
          | .plain =>
            do readOptions specs (← give given spec (spec.operand.read? operand)) others
          | _ => .error .misuse
        | none, [] => .error .misuse

/-! ### Tasks -/

/-- The value of an option, if it was given. -/
def value? (given : List Given) (name : String) : Option Value :=
  (given.find? (·.name = name)).map (·.value)

/-- The text given to an option. -/
def text? (given : List Given) (name : String) : Option String :=
  match value? given name with
  | some (.text text) => some text
  | _ => none

/-- The address given to an option. -/
def address? (given : List Given) (name : String) : Option Address :=
  match value? given name with
  | some (.address address) => some address
  | _ => none

/-- The packet kind given to an option. -/
def packetKind? (given : List Given) (name : String) : Option PacketKind :=
  match value? given name with
  | some (.packetKind kind) => some kind
  | _ => none

/-- The port given to an option. -/
def port? (given : List Given) (name : String) : Option UInt16 :=
  match value? given name with
  | some (.port port) => some port
  | _ => none

/-- The task of a name and options, unless an option is missing that must be given. -/
def task? (name : String) (given : List Given) : Option Task :=
  let rules := (text? given "rules").getD standardRules
  match name with
  | "simulate" => do
    let packets ← text? given "packets"
    some (.simulate rules packets (text? given "chain") ((text? given "output").getD "output.txt")
      (text? given "expect") (value? given "metrics").isSome)
  | "add-rule" => do
    let command ← text? given "command"
    some (.addRule command ((text? given "file").getD standardRules))
  | "check" => some (.check rules)
  | "eval" => do
    let source ← address? given "src"
    let destination ← address? given "dst"
    let kind := (packetKind? given "proto").getD .tcp
    some (.eval rules (text? given "chain")
      (kind.packet source ((port? given "sport").getD 0) destination
        ((port? given "dport").getD 0)))
  | _ => none

/-- What a request for help comes to: it names at most one topic, a task or help itself. -/
def helpRefusal : List String → Refusal
  | [] => .help
  | [topic] =>
    if topic = helpSpec.name || (taskSpecs.lookup topic).isSome then .help else .misuse
  | _ => .misuse

/-- The invocation that the words of a command line make. -/
def read (words : List String) : Except Refusal Invocation := do
  let (before, rest) ← readOptions programSpecs [] words
  match rest with
  | [] => .error .misuse
  | name :: rest =>
    if name = helpSpec.name then .error (helpRefusal rest)
    else
      match taskSpecs.lookup name with
      | none => .error .misuse
      | some specs =>
        let (given, rest) ← readOptions (configSpec :: helpSpec :: specs) [] rest
        match task? name given, rest with
        | some task, [] => .ok ⟨text? given configSpec.name <|> text? before configSpec.name, task⟩
        | _, _ => .error .misuse

end CommandLine

end PacketFilter
