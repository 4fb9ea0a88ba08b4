import AbiProbe.Bindings.Request
import AbiProbe.Bindings.Source
import AbiProbe.CommandLine.Scan
import AbiProbe.Config.Layers
import AbiProbe.Probe.Query

/-! # What a command line asks for

A command line names a subcommand and gives its options and operands. Together they say what to
find out and how (`AbiProbe.CommandLine.Invocation.ofWords`).
-/

namespace AbiProbe.CommandLine

/-- What is to be found out and written. -/
inductive Task
  /-- One question, answered by one line. -/
  | query (query : Query)
  /-- The layouts of types, as a table or as JSON. -/
  | layout (types : List String) (json : Bool)
  /-- Declarations, as source text or as JSON, to a file or to the standard output. -/
  | bindings (requests : List Request) (visibility : String) (output : Option String)
    (json : Bool)
deriving DecidableEq, Repr

/-- A whole command line. -/
structure Invocation where
  subcommand : Subcommand
  /-- How many times more of the log was asked for, up to 255. -/
  verbosity : Nat
  /-- What is said of the probe. -/
  overrides : Overrides
  task : Task
deriving DecidableEq, Repr

namespace Scanned

/-- The values of an option in order. -/
def values (scanned : Scanned) (option : OptionName) : List String :=
  scanned.occurrences.filterMap fun occurrence =>
    if occurrence.option = option then occurrence.value else none

/-- The value of an option that is given at most once. -/
def value? (scanned : Scanned) (option : OptionName) : Option String :=
  (scanned.values option).head?

/-- How many times an option is given. -/
def count (scanned : Scanned) (option : OptionName) : Nat :=
  scanned.occurrences.countP fun occurrence => occurrence.option = option

/-- Whether an option is given. -/
def has (scanned : Scanned) (option : OptionName) : Bool :=
  scanned.occurrences.any fun occurrence => occurrence.option = option

/-- The first operand. -/
def operand (scanned : Scanned) : String :=
  scanned.operands.head?.getD ""

/-- What the options say of the probe. -/
def overrides (scanned : Scanned) : Overrides where
  headers := scanned.values .header
  includeDirs := scanned.values .includeDir
  compiler := scanned.value? .compiler
  cflags := scanned.values .cflag
  workDir := scanned.value? .workDir
  config := scanned.value? .config

end Scanned

/-! ## Entries of bindings -/

/-- A declaration that a command line asks for. -/
inductive Entry
  | type (name : String)
  | signedConstant (name : String)
  | unsignedConstant (name : String)
deriving DecidableEq, Repr

/-- The request of an entry. -/
def Entry.request : Entry → Request
  | type name => .typeAlias name
  | signedConstant name => .signedConstant name
  | unsignedConstant name => .unsignedConstant name

/-- The requests of entries, added one after the other. -/
def requestsOf (entries : List Entry) : List Request :=
  entries.foldl (fun requests entry => requests ++ [entry.request]) []

namespace Scanned

/-- The indices of the values of an option in order, if the occurrence at a place has the index
that a function gives to the place. -/
def indicesOf (scanned : Scanned) (index : Nat → Nat) (option : OptionName) : List Nat :=
  scanned.occurrences.zipIdx.filterMap fun (occurrence, place) =>
    if occurrence.option = option then occurrence.value.map fun _ => index place else none

/-- The entries that the values of an option make, each with its index. -/
def collect (scanned : Scanned) (index : Nat → Nat) (option : OptionName)
    (make : String → Entry) : List (Nat × Entry) :=
  (scanned.indicesOf index option).zip ((scanned.values option).map make)

/-- The entries of a command line. They are collected option by option, so it is their indices
that tell their order. -/
def entriesBy (scanned : Scanned) (index : Nat → Nat) : List Entry :=
  let indexed := scanned.collect index .aliasType .type ++
    scanned.collect index .signedConst .signedConstant ++
    scanned.collect index .unsignedConst .unsignedConstant
  (indexed.mergeSort fun first second => first.1 ≤ second.1).map Prod.snd

/-- The index of the value of the occurrence at a place, as if every earlier occurrence had a
value: an option and its value count one each, and the first index is one. Entries are only put in
the order of their indices. -/
def argumentIndex (place : Nat) : Nat := 2 * place + 2

/-- The requests of a command line. -/
def requests (scanned : Scanned) : List Request :=
  requestsOf (scanned.entriesBy argumentIndex)

end Scanned

/-- What a scanned command line asks for. -/
def Task.ofScanned (subcommand : Subcommand) (scanned : Scanned) : Task :=
  match subcommand with
  | .sizeOf => .query (.size scanned.operand)
  | .alignOf => .query (.alignment scanned.operand)
  | .signed => .query (.signedness scanned.operand)
  | .defined => .query (.definedness scanned.operand)
  | .rustType => .query (.primitive scanned.operand)
  | .constant =>
      if scanned.has .unsigned then .query (.unsignedConstant scanned.operand)
      else .query (.signedConstant scanned.operand)
  | .layout => .layout scanned.operands (scanned.has .json)
  | .bindings =>
      .bindings scanned.requests
        ((scanned.value? .visibility).getD EmissionStyle.standard.visibility)
        (scanned.value? .output) (scanned.has .json)

namespace Invocation

/-- The greatest verbosity that is told apart. -/
def greatestVerbosity : Nat := 255

/-- The command line of a subcommand and what was scanned after it. -/
def ofScanned (subcommand : Subcommand) (scanned : Scanned) : Invocation where
  subcommand := subcommand
  verbosity := min (scanned.count .verbose) greatestVerbosity
  overrides := scanned.overrides
  task := Task.ofScanned subcommand scanned

/-- Whether a word may follow a word that asks for help. -/
def isHelpTopic (word : String) : Bool :=
  word = "help" || (Subcommand.ofName? word).isSome

/-- What comes of words that ask for help on others. -/
def helpOn : List String → UsageError
  | [] => .displayHelp
  | [topic] => if isHelpTopic topic then .displayHelp else .invalidSubcommand
  | _ => .invalidSubcommand

/-- What comes of words in front of which no subcommand may stand any more. -/
def afterEscape : List String → UsageError
  | [] => .displayHelpOnMissing
  | word :: _ => if isHelpTopic word then .unknownArgument else .invalidSubcommand

/-- What comes of a command line that does not start with a subcommand. -/
def misuse (first : String) (rest : List String) : UsageError :=
  match Word.ofText first with
  | .escape => afterEscape rest
  | .long "help" none => .displayHelp
  | .long "help" (some _) => .tooManyValues
  | .long _ _ => .unknownArgument
  | .cluster ('h' :: _) => .displayHelp
  | .cluster _ => .unknownArgument
  | .plain "help" => helpOn rest
  | .plain _ => .invalidSubcommand

/-- Reads a command line. -/
def ofWords : List String → Except UsageError Invocation
  | [] => .error .displayHelpOnMissing
  | first :: rest =>
      match Subcommand.ofName? first with
      | some subcommand => do return ofScanned subcommand (← scan subcommand rest)
      | none => .error (misuse first rest)

end Invocation

end AbiProbe.CommandLine
