import AbiProbe.Toolchain.Output

/-! # Log records

A record is one message of the program about its own doings, with a level and the part of the
program it comes from (`AbiProbe.Log.Record`).
-/

namespace AbiProbe.Log

/-- How much detail a record goes into. -/
inductive Level
  | error
  | warn
  | info
  | debug
  | trace
deriving DecidableEq, Repr

namespace Level

/-- The levels by increasing detail. -/
def all : List Level :=
  [error, warn, info, debug, trace]

/-- The name of a level. -/
def name : Level → String
  | error => "ERROR"
  | warn => "WARN"
  | info => "INFO"
  | debug => "DEBUG"
  | trace => "TRACE"

/-- The detail of a level; the least detail is one. -/
def detail : Level → Nat
  | error => 1
  | warn => 2
  | info => 3
  | debug => 4
  | trace => 5

end Level

/-- The part of the program a record comes from. -/
inductive Target
  /-- Putting the configuration together. -/
  | loader
  /-- Making a probe of a configuration. -/
  | config
  /-- Asking questions. -/
  | probe
  /-- Generating bindings. -/
  | bindings
deriving DecidableEq, Repr

/-- The path by which filters know a target. -/
def Target.path : Target → String
  | loader => "cprobe::commands::probe_loader"
  | config => "cprobe_lib::config"
  | probe => "cprobe_lib::probe"
  | bindings => "cprobe_lib::bindings"

/-- A message with its level and its target. -/
structure Record where
  level : Level
  target : Target
  message : String
deriving DecidableEq, Repr

/-- The written form of one character of a message. Characters that control a terminal, line
ends apart, are written by their code points. -/
def shownForm (c : Char) : List Char :=
  if c = '\x1b' then "\\x1b".toList
  else if c = '\x07' then "\\x07".toList
  else if c = '\x08' then "\\x08".toList
  else if c = '\x0c' then "\\x0c".toList
  else if c = '\x7f' then "\\x7f".toList
  else if 0x80 ≤ c.toNat ∧ c.toNat ≤ 0x9f then Text.codePointForm c
  else [c]

/-- A record as it is written to the log. -/
def Record.text (record : Record) : String :=
  String.ofList (record.level.name.toList.leftpad 5 ' ') ++ " " ++
    String.ofList (record.message.toList.flatMap shownForm) ++ "\n"

namespace Record

/-- The program of a question. -/
def posed (source : String) : Record :=
  ⟨.trace, .probe, "probe source:\n" ++ source⟩

/-- How the compiler ended on the source in a scratch directory. -/
def compiled (scratch : String) (status : ExitStatus) : Record :=
  ⟨.debug, .probe,
    "compiled " ++ ScratchSpace.sourcePath scratch ++ " (" ++ status.text ++ ")"⟩

/-- How the program in a scratch directory ended. -/
def ran (scratch : String) (status : ExitStatus) : Record :=
  ⟨.debug, .probe, "ran " ++ ScratchSpace.programPath scratch ++ " (" ++ status.text ++ ")"⟩

/-- A part of an answer is left open, because its program did not compile. -/
def leftUnknown (compiled : Output) : Record :=
  ⟨.debug, .probe, "probe did not compile, treating as unknown: " ++
    Text.Utf8.decodeLossy compiled.stderr⟩

end Record

end AbiProbe.Log
