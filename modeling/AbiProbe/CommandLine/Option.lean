/-! # Subcommands and their options

Every subcommand takes the options of the probe; some take options of their own
(`AbiProbe.CommandLine.Subcommand.options`). An option has a long name, a letter or both, and
takes one value or none.
-/

namespace AbiProbe.CommandLine

/-- What a command line asks for, by the word that says so. -/
inductive Subcommand
  | sizeOf
  | alignOf
  | signed
  | defined
  | rustType
  | constant
  | layout
  | bindings
deriving DecidableEq, Repr

/-- The options of the command line. -/
inductive OptionName
  /-- A header of the probe. -/
  | header
  /-- A directory to look for headers in. -/
  | includeDir
  /-- The compiler command. -/
  | compiler
  /-- A flag of the compiler. -/
  | cflag
  | workDir
  | config
  /-- More of the log. -/
  | verbose
  /-- A constant is read as unsigned. -/
  | unsigned
  /-- The result is written as JSON. -/
  | json
  /-- A type to declare an alias of. -/
  | aliasType
  /-- A constant to declare as signed. -/
  | signedConst
  /-- A constant to declare as unsigned. -/
  | unsignedConst
  /-- The visibility of declarations. -/
  | visibility
  /-- The file the result is written to. -/
  | output
  | help
deriving DecidableEq, Repr

namespace OptionName

/-- The name of an option after two dashes. -/
def long? : OptionName → Option String
  | header => some "header"
  | includeDir => some "include"
  | compiler => some "cc"
  | cflag => some "cflag"
  | workDir => some "work-dir"
  | config => some "config"
  | verbose => none
  | unsigned => some "unsigned"
  | json => some "json"
  | aliasType => some "type"
  | signedConst => some "const"
  | unsignedConst => some "unsigned-const"
  | visibility => some "visibility"
  | output => some "output"
  | help => some "help"

/-- The letter of an option after one dash. -/
def letter? : OptionName → Option Char
  | header => some 'H'
  | includeDir => some 'I'
  | verbose => some 'v'
  | aliasType => some 't'
  | signedConst => some 'c'
  | output => some 'o'
  | help => some 'h'
  | compiler | cflag | workDir | config | unsigned | json | unsignedConst | visibility => none

/-- Whether an option takes a value. -/
def takesValue : OptionName → Bool
  | verbose | unsigned | json | help => false
  | _ => true

/-- Whether an option may be given more than once. -/
def isRepeatable : OptionName → Bool
  | header | includeDir | cflag | verbose | aliasType | signedConst | unsignedConst => true
  | _ => false

/-- Whether the value of an option is a path, which cannot be empty. -/
def isPath : OptionName → Bool
  | includeDir | workDir | config | output => true
  | _ => false

/-- Whether the next word is the value of an option whatever it starts with. -/
def takesAnyWord : OptionName → Bool
  | cflag => true
  | _ => false

/-- The options of the probe, which every subcommand takes. -/
def shared : List OptionName :=
  [header, includeDir, compiler, cflag, workDir, config, verbose, help]

end OptionName

namespace Subcommand

/-- The subcommands in their listed order. -/
def all : List Subcommand :=
  [sizeOf, alignOf, signed, defined, rustType, constant, layout, bindings]

/-- The word that names a subcommand. -/
def name : Subcommand → String
  | sizeOf => "size-of"
  | alignOf => "align-of"
  | signed => "signed"
  | defined => "defined"
  | rustType => "rust-type"
  | constant => "constant"
  | layout => "layout"
  | bindings => "bindings"

/-- The subcommand a word names. -/
def ofName? (word : String) : Option Subcommand :=
  all.find? fun subcommand => subcommand.name = word

/-- The options a subcommand takes. -/
def options : Subcommand → List OptionName
  | constant => OptionName.shared ++ [.unsigned]
  | layout => OptionName.shared ++ [.json]
  | bindings =>
      OptionName.shared ++
        [.aliasType, .signedConst, .unsignedConst, .visibility, .output, .json]
  | _ => OptionName.shared

/-- The option of a subcommand with a given long name. -/
def optionOfLong? (subcommand : Subcommand) (name : String) : Option OptionName :=
  subcommand.options.find? fun option => option.long? = some name

/-- The option of a subcommand with a given letter. -/
def optionOfLetter? (subcommand : Subcommand) (letter : Char) : Option OptionName :=
  subcommand.options.find? fun option => option.letter? = some letter

/-- How many operands a subcommand takes at most; `none` for any number. -/
def operandLimit : Subcommand → Option Nat
  | layout => none
  | bindings => some 0
  | _ => some 1

/-- Whether a subcommand needs an operand. -/
def needsOperand : Subcommand → Bool
  | bindings => false
  | _ => true

/-- Whether a subcommand takes one more operand after some. -/
def takesOperand (subcommand : Subcommand) (given : Nat) : Bool :=
  match subcommand.operandLimit with
  | none => true
  | some limit => given < limit

end Subcommand

end AbiProbe.CommandLine
