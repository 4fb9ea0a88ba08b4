import AbiProbe.CommandLine.Option

/-! # Scanning a command line

The words after a subcommand are options, their values and operands in any order
(`AbiProbe.CommandLine.scan`). An option whose value is a word of its own waits for it. Its value
is looked at only once the option is settled: when another option or an operand follows, or at
the end. The first fault met in this order is the one reported.
-/

namespace AbiProbe.CommandLine

/-- Why a command line is not carried out. -/
inductive UsageError
  | unknownArgument
  | missingRequiredArgument
  | invalidSubcommand
  /-- A value is missing, or a path is empty. -/
  | invalidValue
  /-- An option without value was given one. -/
  | tooManyValues
  /-- An option that may be given once was given twice. -/
  | argumentConflict
  /-- Help was asked for. -/
  | displayHelp
  /-- Nothing was asked for. -/
  | displayHelpOnMissing
deriving DecidableEq, Repr

namespace UsageError

/-- The name of a usage error. -/
def name : UsageError → String
  | unknownArgument => "UnknownArgument"
  | missingRequiredArgument => "MissingRequiredArgument"
  | invalidSubcommand => "InvalidSubcommand"
  | invalidValue => "InvalidValue"
  | tooManyValues => "TooManyValues"
  | argumentConflict => "ArgumentConflict"
  | displayHelp => "DisplayHelp"
  | displayHelpOnMissing => "DisplayHelpOnMissingArgumentOrSubcommand"

/-- The exit code of a program that was used this way. Asking for help is no fault. -/
def exitCode : UsageError → UInt8
  | displayHelp => 0
  | _ => 2

end UsageError

/-! ## Words -/

/-- The form of a word before it is known which options there are. -/
inductive Word
  /-- Two dashes: operands follow. -/
  | escape
  /-- Two dashes and a name, with a value after an equals sign. -/
  | long (name : String) (value : Option String)
  /-- One dash and letters. -/
  | cluster (letters : List Char)
  /-- Anything else; a single dash is such a word. -/
  | plain (text : String)
deriving DecidableEq, Repr

/-- A text up to an equals sign, and the text after it. -/
def splitAtEquals (text : List Char) : String × Option String :=
  (String.ofList (text.takeWhile (· ≠ '=')),
    match text.dropWhile (· ≠ '=') with
    | [] => none
    | _ :: value => some (String.ofList value))

/-- The form of a word. -/
def Word.ofText (text : String) : Word :=
  match text.toList with
  | ['-', '-'] => escape
  | '-' :: '-' :: rest => long (splitAtEquals rest).1 (splitAtEquals rest).2
  | '-' :: letter :: letters => cluster (letter :: letters)
  | _ => plain text

/-! ## Occurrences -/

/-- An option on the command line, with its value if it takes one. -/
structure Occurrence where
  option : OptionName
  value : Option String
deriving DecidableEq, Repr

/-- How far a command line has been read. -/
structure Progress where
  /-- The settled options in order. -/
  occurrences : List Occurrence
  /-- The option that is not settled yet, with its value unless it waits for it. -/
  pending : Option Occurrence
  /-- The operands in order. -/
  operands : List String
  /-- Whether only operands follow. -/
  operandsOnly : Bool
deriving DecidableEq, Repr

namespace Progress

/-- Nothing read. -/
def start : Progress :=
  ⟨[], none, [], false⟩

/-- The fault of one more occurrence after others, if it has one. -/
def fault? (before : List Occurrence) (occurrence : Occurrence) : Option UsageError :=
  if occurrence.option.takesValue && occurrence.value.isNone then some .invalidValue
  else if !occurrence.option.isRepeatable &&
      before.any (fun other => other.option = occurrence.option) then
    some .argumentConflict
  else if occurrence.option.isPath && occurrence.value = some "" then some .invalidValue
  else none

/-- Adds an occurrence, unless it has a fault. -/
def record (progress : Progress) (occurrence : Occurrence) : Except UsageError Progress :=
  match fault? progress.occurrences occurrence with
  | some error => .error error
  | none => .ok { progress with occurrences := progress.occurrences ++ [occurrence] }

/-- Settles the pending option, if there is one. -/
def settle (progress : Progress) : Except UsageError Progress :=
  match progress.pending with
  | none => .ok progress
  | some occurrence => { progress with pending := none }.record occurrence

/-- Leaves an option pending that waits for its value. -/
def await (progress : Progress) (option : OptionName) : Except UsageError Progress := do
  let progress ← progress.settle
  return { progress with pending := some ⟨option, none⟩ }

/-- Reads an option with its value in the same word. -/
def attach (progress : Progress) (option : OptionName) (value : String) :
    Except UsageError Progress := do
  (← progress.settle).record ⟨option, some value⟩

/-- Reads an option that takes no value. -/
def raise (progress : Progress) (option : OptionName) : Except UsageError Progress := do
  let progress ← progress.settle
  if option = .help then .error .displayHelp else progress.record ⟨option, none⟩

/-- The option that waits for its value. -/
def awaiting? (progress : Progress) : Option OptionName :=
  match progress.pending with
  | some ⟨option, none⟩ => some option
  | _ => none

/-- Gives the pending option its value. -/
def supply (progress : Progress) (option : OptionName) (value : String) : Progress :=
  { progress with pending := some ⟨option, some value⟩ }

/-- Reads an operand. -/
def operand (progress : Progress) (subcommand : Subcommand) (text : String) :
    Except UsageError Progress :=
  if subcommand.takesOperand progress.operands.length then do
    let progress ← progress.settle
    return { progress with operands := progress.operands ++ [text] }
  else .error .unknownArgument

/-- Reads an option by its long name. -/
def long (progress : Progress) (subcommand : Subcommand) (name : String)
    (value : Option String) : Except UsageError Progress :=
  match subcommand.optionOfLong? name with
  | none => .error .unknownArgument
  | some option =>
      match option.takesValue, value with
      | true, some value => progress.attach option value
      | true, none => progress.await option
      | false, some _ => .error .tooManyValues
      | false, none => progress.raise option

/-- A value behind its letter, without the equals sign that may stand between them. -/
def valueBehindLetter : List Char → String
  | '=' :: value => String.ofList value
  | value => String.ofList value

/-- Reads options by their letters. One that takes a value takes the rest of the letters. -/
def cluster (subcommand : Subcommand) : Progress → List Char → Except UsageError Progress
  | progress, [] => .ok progress
  | progress, letter :: rest =>
      match subcommand.optionOfLetter? letter with
      | none => .error .unknownArgument
      | some option =>
          if option.takesValue then
            if rest.isEmpty then progress.await option
            else progress.attach option (valueBehindLetter rest)
          else do cluster subcommand (← progress.raise option) rest

/-- Reads a word by its form. -/
def form (progress : Progress) (subcommand : Subcommand) :
    Word → Except UsageError Progress
  | .escape => .ok { progress with operandsOnly := true }
  | .long name value => progress.long subcommand name value
  | .cluster letters => cluster subcommand progress letters
  | .plain text =>
      match progress.awaiting? with
      | some option => .ok (progress.supply option text)
      | none => progress.operand subcommand text

/-- Reads a word: an operand where only operands follow, the value of an option that takes any
word, or what its form says. -/
def word (subcommand : Subcommand) (progress : Progress) (text : String) :
    Except UsageError Progress :=
  if progress.operandsOnly then progress.operand subcommand text
  else
    match progress.awaiting? with
    | some option =>
        if option.takesAnyWord then .ok (progress.supply option text)
        else progress.form subcommand (.ofText text)
    | none => progress.form subcommand (.ofText text)

/-- Settles what is pending at the end of the line and checks that nothing is missing. -/
def finish (progress : Progress) (subcommand : Subcommand) : Except UsageError Progress := do
  let progress ← progress.settle
  if subcommand.needsOperand && progress.operands.isEmpty then .error .missingRequiredArgument
  else return progress

end Progress

/-- The options and operands of a command line. -/
structure Scanned where
  occurrences : List Occurrence
  operands : List String
deriving DecidableEq, Repr

/-- Scans the words after a subcommand. -/
def scan (subcommand : Subcommand) (words : List String) : Except UsageError Scanned := do
  let progress ← words.foldlM (Progress.word subcommand) Progress.start
  let progress ← progress.finish subcommand
  return ⟨progress.occurrences, progress.operands⟩

end AbiProbe.CommandLine
