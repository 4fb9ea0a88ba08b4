import AbiProbe.FileTree
import AbiProbe.Header
import AbiProbe.Identifier
import AbiProbe.Probe.Aspect
import AbiProbe.Probe.Inquiry
import AbiProbe.Probe.Trial
import AbiProbe.Text.Line

/-! # Probes

A probe asks a C toolchain about the names its headers declare. It writes a program that prints
one aspect of a name, compiles it and runs it in a scratch directory of its work directory, and
reads back what the program printed (`AbiProbe.Probe.ask`). What it does it tells to its log on
the way.
-/

namespace AbiProbe

/-- Asks a toolchain about the names that some headers declare. -/
structure Probe where
  /-- The headers every program includes. -/
  includes : IncludeList
  /-- The directory in which scratch directories are made. -/
  workDir : String
  /-- The toolchain. -/
  toolchain : Toolchain
  /-- What its log shows. -/
  log : Log.Filter := .silent

/-- Why a directory cannot be a work directory. -/
inductive WorkDirError
  /-- Nothing can be learned of the path. -/
  | inaccessible (reason : SystemError)
  /-- The path leads to something else. -/
  | notDirectory (path : String)
deriving DecidableEq, Repr

namespace WorkDirError

/-- An error as it is told to the user. -/
def message : WorkDirError → String
  | inaccessible reason => "could not query metadata of work directory: " ++ reason.message
  | notDirectory path => path ++ " is not a directory"

open Text in
/-- An error in the words of a diagnostic. -/
def diagnostic : WorkDirError → String
  | inaccessible reason =>
      Diagnostic.variant "WorkDirMetadataInaccessible" reason.diagnostic
  | notDirectory path => Diagnostic.variant "WorkDirNotADirectory" (quote path)

end WorkDirError

namespace Probe

/-- The probe for some headers in a work directory, which must be a directory. -/
def inDirectory (files : FileTree) (headers : List String) (workDir : String)
    (toolchain : Toolchain) (log : Log.Filter := .silent) : Except WorkDirError Probe :=
  match files.resolve workDir with
  | .error reason => .error (.inaccessible reason)
  | .ok (_, .directory) => .ok ⟨IncludeList.ofHeaders headers, workDir, toolchain, log⟩
  | .ok _ => .error (.notDirectory workDir)

open Text in
/-- A probe in the words of a diagnostic. -/
def diagnostic (probe : Probe) : String :=
  let headers := "\x7b" ++ Diagnostic.separated (probe.includes.operands.map quote) ++ "\x7d"
  "Probe " ++ Diagnostic.fields
    [Diagnostic.field "headers" headers, Diagnostic.field "work_dir" (quote probe.workDir), ".."]

/-- A line of statements inside a function. -/
def indented (line : String) : String :=
  "    " ++ line ++ "\n"

/-- The program that includes the headers of the probe and some more, and runs statements. -/
def mainSource (probe : Probe) (extraHeaders : List String) (body : String) : String :=
  (probe.includes.append extraHeaders).lines ++ "\nint main(void) \x7b\n" ++
    String.join ((Text.linesOf body).map indented) ++ "\x7d\n"

/-- The program that prints an aspect of a name. -/
def sourceFor (probe : Probe) (aspect : Aspect) (name : String) : String :=
  probe.mainSource aspect.headers (aspect.body name)

/-! ## Trials in a scratch directory -/

/-- Makes the scratch directory for a source, which gives its path. -/
def makeScratch (probe : Probe) (source : String) : Except ScratchFault String :=
  probe.toolchain.scratch.make probe.workDir source

/-- Removes the scratch directory of a source. -/
def removeScratch (probe : Probe) (source : String) : Except SystemError Unit :=
  probe.toolchain.scratch.remove probe.workDir source

/-- Something done in a scratch directory with a source in it, given the path of the directory.
The directory is removed however that ends. Why it could not be removed is told only where there
is no earlier failure to tell of. -/
def inScratch {α : Type} (probe : Probe) (source : String)
    (inside : String → Inquiry SystemError α) : Inquiry SystemError α :=
  match probe.makeScratch source with
  | .error (.unmade reason) => Inquiry.settled (.error reason)
  | .error (.unwritten reason) =>
      ⟨[.scratchOpened source, .scratchClosed (probe.removeScratch source)], .error reason⟩
  | .ok path =>
      ⟨.scratchOpened source ::
          ((inside path).journal ++ [.scratchClosed (probe.removeScratch source)]),
        (inside path).outcome.bind fun answer => (probe.removeScratch source).map fun _ => answer⟩

/-- Starts the compiler on the source in a scratch directory. -/
def compileSource (probe : Probe) (path source : String) : Inquiry SystemError Output := do
  let command := probe.toolchain.command (ScratchSpace.sourcePath path)
    (ScratchSpace.programPath path)
  Inquiry.note (.compiled command source (probe.toolchain.compile source))
  let compiled ← Inquiry.settled (probe.toolchain.compile source)
  Inquiry.tell probe.log (.compiled path compiled.status)
  return compiled

/-- Starts the program in a scratch directory, made from a source. -/
def runProgram (probe : Probe) (path source : String) : Inquiry SystemError Output := do
  Inquiry.note (.ran source (probe.toolchain.run source))
  let ran ← Inquiry.settled (probe.toolchain.run source)
  Inquiry.tell probe.log (.ran path ran.status)
  return ran

/-- Compiles a source and forgets the program. -/
def checkCompile (probe : Probe) (source : String) : Inquiry SystemError Output :=
  probe.inScratch source fun path => probe.compileSource path source

/-- Compiles a source in a scratch directory and runs the program there if it compiled. -/
def tryOut (probe : Probe) (source path : String) : Inquiry SystemError Trial := do
  let compiled ← probe.compileSource path source
  if compiled.status.isSuccess then
    let ran ← probe.runProgram path source
    return ⟨compiled, some ran⟩
  else
    return ⟨compiled, none⟩

/-- Compiles a source and runs the program if it compiled. -/
def checkRun (probe : Probe) (source : String) : Inquiry SystemError Trial :=
  probe.inScratch source (probe.tryOut source)

/-! ## Questions -/

/-- Reads the value of an aspect from what its program printed, without the blanks around it. -/
def readAnswer (aspect : Aspect) (printed : String) :
    Except ProbeError aspect.answer.Value :=
  let text := Text.trim printed.toList
  match aspect.answer.read? text with
  | some value => .ok value
  | none => .error (.unexpectedOutput (String.ofList text) aspect.answer.name)

/-- Writes the program of an aspect, tries it and reads its answer. -/
def pose (probe : Probe) (aspect : Aspect) (name : String) :
    Inquiry ProbeError aspect.answer.Value := do
  let source := probe.sourceFor aspect name
  Inquiry.tell probe.log (.posed source)
  let trial ← (probe.checkRun source).mapError .system
  let printed ← Inquiry.settled trial.printed
  Inquiry.settled (readAnswer aspect printed)

/-- Asks for an aspect of a name. Only an identifier can be asked to be a defined macro. -/
def ask (probe : Probe) (aspect : Aspect) (name : String) :
    Inquiry ProbeError aspect.answer.Value :=
  if aspect = .definedness ∧ !Identifier.isIdentifier name then
    Inquiry.settled (.error (.invalidIdentifier name))
  else probe.pose aspect name

/-- The size of a type in bytes. -/
def sizeOf (probe : Probe) (cType : String) : Inquiry ProbeError UInt64 :=
  probe.ask .size cType

/-- The alignment of a type in bytes. -/
def alignOf (probe : Probe) (cType : String) : Inquiry ProbeError UInt64 :=
  probe.ask .alignment cType

/-- Whether an arithmetic type has negative values. -/
def isSigned (probe : Probe) (cType : String) : Inquiry ProbeError Bool :=
  probe.ask .signedness cType

/-- Whether an arithmetic type has fractional values. -/
def isFloatingPoint (probe : Probe) (cType : String) : Inquiry ProbeError Bool :=
  probe.ask .floatingPoint cType

/-- Whether a macro is defined. -/
def isDefinedMacro (probe : Probe) (name : String) : Inquiry ProbeError Bool :=
  probe.ask .definedness name

/-- The value of an integer constant, read as signed. -/
def signedConstant (probe : Probe) (name : String) : Inquiry ProbeError Int64 :=
  probe.ask .signedValue name

/-- The value of an integer constant, read as unsigned. -/
def unsignedConstant (probe : Probe) (name : String) : Inquiry ProbeError UInt64 :=
  probe.ask .unsignedValue name

end Probe

end AbiProbe
