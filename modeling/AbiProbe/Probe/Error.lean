import AbiProbe.Toolchain.Output

/-! # Why a probe has no answer

A question goes unanswered when a command cannot be started, when its program does not compile
or run, or when the program prints something else than a value of the expected type. Some names
are refused before any program is written.
-/

namespace AbiProbe

/-- Why a probe has no answer. -/
inductive ProbeError
  /-- A command could not be started. -/
  | system (error : SystemError)
  /-- The program did not compile. -/
  | compile (output : Output)
  /-- The program compiled and did not run to success. -/
  | run (compiled ran : Output)
  /-- The name is no identifier the question can be asked of. -/
  | invalidIdentifier (name : String)
  /-- The program printed no value of the expected type. -/
  | unexpectedOutput (printed expected : String)
  /-- No primitive has the representation of the type. -/
  | unrepresentable (cType : String)
deriving DecidableEq, Repr

namespace ProbeError

open Text

/-- An error as it is told to the user. -/
def message : ProbeError → String
  | system error => "I/O error: " ++ error.message
  | compile output => "compilation failed with output: " ++ output.diagnostic
  | run _ ran => "probe program failed with output: " ++ ran.diagnostic
  | invalidIdentifier name => "not a C identifier: " ++ quote name
  | unexpectedOutput printed expected =>
      "unexpected output from probe program (expected " ++ expected ++ "): " ++ quote printed
  | unrepresentable cType => "no Rust primitive matches C type `" ++ cType ++ "`"

/-- An error in the words of a diagnostic. -/
def diagnostic : ProbeError → String
  | system error => Diagnostic.variant "Io" error.diagnostic
  | compile output => "Compile" ++ output.diagnostic
  | run compiled ran =>
      "Run " ++ Diagnostic.fields
        [Diagnostic.field "compile" compiled.diagnostic, Diagnostic.field "run" ran.diagnostic]
  | invalidIdentifier name => Diagnostic.variant "InvalidIdentifier" (quote name)
  | unexpectedOutput printed expected =>
      "UnexpectedOutput " ++ Diagnostic.fields
        [Diagnostic.field "output" (quote printed), Diagnostic.field "expected" expected]
  | unrepresentable cType => Diagnostic.variant "Unrepresentable" (quote cType)

end ProbeError

end AbiProbe
