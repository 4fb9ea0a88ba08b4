import AbiProbe.CommandLine.Invocation
import AbiProbe.Sink
import AbiProbe.TypeLayout.Json
import AbiProbe.TypeLayout.Table

/-! # Carrying out a command line

A run loads the configuration, asks the probe and writes the result
(`AbiProbe.CommandLine.run`). What it tells to its log on the way depends on the log filter it is
given. Nothing is written to the standard output or to a file before all of the result is known;
writing it may fail after a part of it. What the program leaves behind is read off what it did
(`AbiProbe.CommandLine.Report`).
-/

namespace AbiProbe.CommandLine

/-- The machine a program runs on. Its standard error takes everything. -/
structure Host where
  /-- The files it can reach. -/
  files : FileTree
  /-- The compiler variables of its environment. -/
  env : CompilerEnv
  /-- The log filter of its environment. -/
  logFilter : Option String
  /-- The directory for temporary files. -/
  tempDir : String
  /-- The commands that exist. -/
  commands : List String
  /-- The locations of the files that are programs. -/
  programs : List Location
  /-- What the compilers do, and where. -/
  toolchain : Toolchain
  /-- What the standard output takes. -/
  stdout : Sink
  /-- What the file at a location takes. -/
  storage : Location → Sink
  /-- What the runtime writes of a breakdown, given its message. -/
  crashNote : String → String

namespace Host

/-- A file that is no program. -/
def notExecutable : SystemError := .numbered 13

/-- A word of a command with a NUL character in it. -/
def nulInWord : SystemError :=
  .refused "InvalidInput" "nul byte found in provided data"

/-- The number of bytes from which on a word of a command is too long. -/
def wordLimit : Nat := 131072

/-- Why a program cannot be found, if it cannot. A name with a slash in it is a path; any other is
looked up among the commands, beside which every directory holds itself and its parent. -/
def searchFault? (host : Host) (program : String) : Option SystemError :=
  if program.toList.contains '/' then
    match host.files.resolve program with
    | .error reason => some reason
    | .ok (location, _) =>
        if host.programs.contains location then none else some notExecutable
  else if FileTree.nameLimit < program.utf8ByteSize then some .nameTooLong
  else if program = "." ∨ program = ".." then some notExecutable
  else if host.commands.contains program then none
  else some .notFound

/-- Why a command cannot be started, if it cannot. -/
def startFault? (host : Host) (command : Command) : Option SystemError :=
  let words := command.program :: command.arguments
  if words.any (fun word => word.toList.contains '\x00') then some nulInWord
  else
    match host.searchFault? command.program with
    | some reason => some reason
    | none =>
        if words.any (fun word => wordLimit ≤ word.utf8ByteSize) then some .wordsTooLong
        else none

/-- The toolchain of a configuration: that of the host, if its compiler can be started. The paths
of a source and a program are never at fault. -/
def toolchainFor (host : Host) (config : Config) : Toolchain :=
  { host.toolchain with
    command := config.compileCommand
    compile := fun source =>
      match host.startFault? (config.compileCommand "" "") with
      | some reason => .error reason
      | none => host.toolchain.compile source }

/-- What takes what is written to the file at a location. -/
def sinkAt (host : Host) (location : Location) : Sink :=
  match host.files.node? location with
  | some (.device .stdout) => host.stdout
  | _ => host.storage location

/-- What happens when a file is opened for writing and takes some bytes. -/
def receive (host : Host) (location : Location) (bytes : List UInt8) : List Event :=
  match host.files.node? location with
  | some (.device .stdout) => [.printed bytes]
  | some (.device .null) => []
  | _ => [.wrote location bytes]

end Host

/-! ## Failures -/

/-- Why a run fails. -/
inductive Failure
  /-- There is nothing to declare. -/
  | nothingRequested
  /-- The configuration cannot be loaded. -/
  | config (error : ConfigError)
  /-- There is no work directory. -/
  | workDir (error : WorkDirError)
  /-- A question has no answer. -/
  | query (error : ProbeError)
  /-- A requested declaration cannot be made. -/
  | probe (error : ProbeError)
  /-- A type has no layout. -/
  | layout (cType : String) (error : ProbeError)
  /-- The result cannot be written. -/
  | output (path : String) (reason : SystemError)
  /-- The program breaks down. -/
  | breakdown (reason : Breakdown)
deriving Repr

namespace Failure

/-- A failure as it is told to the user. -/
def message : Failure → String
  | nothingRequested => "nothing to generate: pass --type, --const or --unsigned-const"
  | config error => error.message
  | workDir error => "bad work directory: " ++ error.message
  | query error => Query.failureMessage error
  | probe error => error.message
  | layout cType error => cType ++ ": " ++ error.message
  | output path reason => "failed to write '" ++ path ++ "': " ++ reason.message
  | breakdown reason => reason.message

/-- The exit code of a run that fails. -/
def exitCode : Failure → UInt8
  | breakdown _ => 101
  | _ => 1

/-- What is written to the standard error about a failure: a line of the program, or what the
runtime makes of a breakdown. -/
def account (host : Host) : Failure → String
  | breakdown reason => host.crashNote reason.message
  | failure => "error: " ++ failure.message ++ "\n"

end Failure

/-! ## Tasks -/

/-- The layouts of types in order, up to the first that has none. -/
def layoutsOf (probe : Probe) (types : List String) : Inquiry Failure (List TypeLayout) :=
  types.mapM fun cType => (probe.layoutOf cType).mapError (.layout cType)

/-- Layouts as text: a table, or a JSON array. -/
def layoutsText (json : Bool) (layouts : List TypeLayout) : Except Failure String :=
  if json then .ok ((Json.Value.array (layouts.map TypeLayout.toJson)).pretty ++ "\n")
  else (TypeLayout.table layouts).mapError .breakdown

/-- The comment above generated declarations. -/
def generatedComment : String := "Generated by cprobe. Do not edit."

/-- The style of generated declarations of a visibility. -/
def generatedStyle (visibility : String) : EmissionStyle :=
  { EmissionStyle.standard with visibility, headerComment := some generatedComment }

/-- Bindings as text: declarations, or a JSON object. -/
def bindingsText (visibility : String) (json : Bool) (bindings : Bindings) : String :=
  if json then bindings.toJson.pretty ++ "\n"
  else bindings.render (generatedStyle visibility)

namespace Task

/-- Whether a task asks for nothing. -/
def isVoid : Task → Bool
  | bindings [] _ _ _ => true
  | _ => false

/-- Asks a probe for the result of a task, as text. -/
def result (probe : Probe) : Task → Inquiry Failure String
  | query question => do
      let line ← (probe.answer question).mapError .query
      return line ++ "\n"
  | layout types json => do
      let layouts ← layoutsOf probe types
      Inquiry.settled (layoutsText json layouts)
  | bindings requests visibility _ json => do
      let bindings ← (probe.generate requests).mapError .probe
      return bindingsText visibility json bindings

/-- The file the result of a task is written to; the standard output if there is none. -/
def output? : Task → Option String
  | bindings _ _ output _ => output
  | _ => none

end Task

/-! ## Runs -/

/-- Loads a configuration and makes a probe of it. -/
def openProbe (host : Host) (log : Log.Filter) (overrides : Overrides) :
    Inquiry Failure Probe := do
  let config ← Inquiry.settled
    ((Config.resolve host.files host.env overrides).mapError .config)
  Inquiry.tell log ⟨.debug, .loader, "probe config: " ++ config.diagnostic⟩
  Inquiry.tell log ⟨.debug, .config,
    "probe using " ++ config.compiler ++ " in " ++ config.workDir.getD host.tempDir⟩
  Inquiry.settled
    ((config.toProbe host.files host.tempDir (host.toolchainFor config) log).mapError .workDir)

/-- Writes a text to the standard output. -/
def print (host : Host) (text : String) : Inquiry Failure Unit :=
  let bytes := Text.Utf8.encode text
  ⟨[.printed (host.stdout.taken bytes)],
    (host.stdout.verdict bytes).mapError fun reason => .breakdown (.unprintable reason)⟩

/-- Writes a text to the file a path leads to. What the file held is lost when it is opened. -/
def writeFile (host : Host) (path text : String) : Inquiry Failure Unit :=
  let bytes := Text.Utf8.encode text
  match host.files.openFile path with
  | .error reason => Inquiry.settled (.error (.output path reason))
  | .ok location =>
      let sink := host.sinkAt location
      ⟨host.receive location (sink.taken bytes), (sink.verdict bytes).mapError (.output path)⟩

/-- Writes a result to a file or to the standard output. -/
def deliver (host : Host) (output : Option String) (text : String) : Inquiry Failure Unit :=
  match output with
  | none => print host text
  | some path => writeFile host path text

/-- Carries out what a command line asks for, with a log. -/
def run (host : Host) (log : Log.Filter) (overrides : Overrides) (task : Task) :
    Inquiry Failure Unit :=
  if task.isVoid then Inquiry.settled (.error .nothingRequested)
  else do
    let probe ← openProbe host log overrides
    let text ← task.result probe
    deliver host task.output? text

/-! ## Reports -/

/-- What a program did from its start to its end, and how it ended. -/
structure Report where
  exitCode : UInt8
  /-- What it did, in order. -/
  journal : List Event
  /-- The files it found. -/
  found : FileTree

/-- The end of a run: a failure is told on the standard error. -/
def conclude (host : Host) (inquiry : Inquiry Failure Unit) : Report :=
  match inquiry.outcome with
  | .ok () => ⟨0, inquiry.journal, host.files⟩
  | .error failure =>
      ⟨failure.exitCode, inquiry.journal ++ [.complained (failure.account host)], host.files⟩

/-- A command that was started, and the source it compiled. -/
structure CompileStart where
  command : Command
  source : String
deriving DecidableEq, Repr

end AbiProbe.CommandLine

namespace AbiProbe

namespace Event

open CommandLine (CompileStart)

/-- The bytes an event writes to the standard output. -/
def output : Event → List UInt8
  | printed bytes => bytes
  | _ => []

/-- The text an event writes to the standard error apart from the log. -/
def complaint : Event → String
  | complained text => text
  | _ => ""

/-- The text an event writes to the standard error. -/
def said : Event → String
  | logged record => record.text
  | event => event.complaint

/-- The start of a compiler in an event. -/
def compileStart? : Event → Option CompileStart
  | compiled command source (.ok _) => some ⟨command, source⟩
  | _ => none

end Event

/-- The files of a tree after an event. -/
def FileTree.after (tree : FileTree) : Event → FileTree
  | .wrote location content => tree.put location content
  | _ => tree

end AbiProbe

namespace AbiProbe.CommandLine

/-- The compilers a journal started, in order. -/
def compilesIn (journal : List Event) : List CompileStart :=
  journal.filterMap Event.compileStart?

namespace Report

/-- The bytes on the standard output. -/
def stdout (report : Report) : List UInt8 :=
  report.journal.flatMap Event.output

/-- The text on the standard error. -/
def stderr (report : Report) : String :=
  String.join (report.journal.map Event.said)

/-- The text on the standard error without what is of the log. -/
def complaints (report : Report) : String :=
  String.join (report.journal.map Event.complaint)

/-- The compilers that were started, in order. -/
def compiles (report : Report) : List CompileStart :=
  compilesIn report.journal

/-- The files the program leaves. -/
def files (report : Report) : FileTree :=
  report.journal.foldl FileTree.after report.found

end Report

/-- Starts the program with the words of a command line. -/
def execute (host : Host) (words : List String) : Except UsageError Report := do
  let invocation ← Invocation.ofWords words
  let log := Log.Filter.ofRun invocation.verbosity host.logFilter
  return conclude host (run host log invocation.overrides invocation.task)

end AbiProbe.CommandLine
