import AbiProbe.Probe.Error

/-! # The trial of a program

A trial compiles a program and runs it if it compiled. What it says is the text a successful run
printed (`AbiProbe.Trial.printed`).
-/

namespace AbiProbe

/-- What compiling a program and running it left behind. -/
structure Trial where
  /-- The output of the compiler. -/
  compiled : Output
  /-- The output of the program, unless it was not run. -/
  ran : Option Output
deriving DecidableEq, Repr

namespace Trial

/-- The text a successful run printed, decoded lossily; any failure with its outputs. -/
def printed (trial : Trial) : Except ProbeError String :=
  match trial.ran with
  | none => .error (.compile trial.compiled)
  | some ran =>
      if ran.status.isSuccess then .ok (Text.Utf8.decodeLossy ran.stdout)
      else .error (.run trial.compiled ran)

open Text in
/-- A trial in the words of a diagnostic. -/
def diagnostic (trial : Trial) : String :=
  "CompileRunOutput " ++ Diagnostic.fields
    [Diagnostic.field "compile_output" trial.compiled.diagnostic,
      Diagnostic.field "run_output" ((trial.ran.map Output.diagnostic).getD "None")]

end Trial

end AbiProbe
