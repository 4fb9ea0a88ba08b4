import AbiProbe.Text.Diagnostic
import AbiProbe.Text.Utf8
import AbiProbe.Toolchain.ExitStatus
import AbiProbe.Toolchain.Scratch

/-! # What a command leaves behind

A command that was started leaves its exit status and the bytes of its two output streams. A
toolchain is known by what compiling a source and running the resulting program leave, and by the
scratch directories in which that is done.
-/

namespace AbiProbe

/-- The exit status and the captured streams of a command. -/
structure Output where
  /-- How the command ended. -/
  status : ExitStatus
  /-- The bytes of the standard output. -/
  stdout : List UInt8
  /-- The bytes of the standard error. -/
  stderr : List UInt8
deriving DecidableEq, Repr

open Text in
/-- An output in the words of a diagnostic, with its streams decoded lossily. -/
def Output.diagnostic (output : Output) : String :=
  Diagnostic.fields
    [Diagnostic.field "status" output.status.text,
      Diagnostic.field "stdout" (quote (Utf8.decodeLossy output.stdout)),
      Diagnostic.field "stderr" (quote (Utf8.decodeLossy output.stderr))]

/-- What starting a command gives: its output, or the reason why it could not be started. -/
abbrev CommandResult := Except SystemError Output

/-- A command to be started: a program and its arguments. -/
structure Command where
  program : String
  arguments : List String
deriving DecidableEq, Repr

/-- The command that compiles a source file to a program with the compiler nobody configured. -/
def Command.plainCompile (source program : String) : Command :=
  ⟨"cc", [source, "-o", program]⟩

/-- A C toolchain, by what it does with a source text. -/
structure Toolchain where
  /-- Compiles a source to a program. -/
  compile : String → CommandResult
  /-- Runs the program made from a source. -/
  run : String → CommandResult
  /-- The command that compiles a source file to a program, by their paths. -/
  command : (source program : String) → Command := Command.plainCompile
  /-- The directories in which sources are compiled. -/
  scratch : ScratchSpace := .free "/tmp/cprobe"

end AbiProbe
