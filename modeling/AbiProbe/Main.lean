import AbiProbe.CommandLine.Run
import AbiProbe.Toolchain.Script.Json

/-! # The program

Takes its command line from the words it is started with, its settings from the environment and
the responses of the toolchain, as a JSON script, from the standard input.
-/

namespace AbiProbe.Program

open CommandLine

/-- The locations a path passes through, as it is written. -/
def waypoints (current : Location) (path : String) : List Location :=
  let names := (FileTree.components path).filter fun name => name ≠ "" ∧ name ≠ "."
  let origin := if path.toList.head? = some '/' then [] else current
  (List.range (names.length + 1)).map fun count =>
    (names.take count).foldl (fun location name =>
      if name = ".." then location.dropLast else location ++ [name]) origin

/-- The absolute path of a location. -/
def pathOf (location : Location) : String :=
  "/" ++ "/".intercalate location

/-- What stands at a location of the machine. -/
def inspect (location : Location) : IO (Option Node) := do
  try
    let path ← IO.FS.realPath (pathOf location)
    match (← path.metadata).type with
    | .dir => return some .directory
    | .file => return some (.file (← IO.FS.readBinFile path).toList)
    | _ => return some (.device .null)
  catch _ => return none

/-- The file tree with what stands on the way of some paths. -/
def survey (current : Location) (paths : List String) : IO FileTree := do
  let mut entries := []
  for location in (paths.flatMap (waypoints current)).eraseDups do
    match ← inspect location with
    | some node => entries := (location, node) :: entries
    | none => pure ()
  return ⟨entries, current⟩

/-- The commands a script speaks for. -/
def scriptedCommands : List String :=
  ["cc", "gcc", "clang", "ccache"]

/-- The machine an invocation runs on. -/
def hostFor (invocation : Invocation) (toolchain : Toolchain) : IO Host := do
  let current := (FileTree.components (← IO.currentDir).toString).filter (· ≠ "")
  let tempDir := (← IO.getEnv "TMPDIR").getD "/tmp"
  let env : CompilerEnv := ⟨← IO.getEnv "CC", ← IO.getEnv "CFLAGS"⟩
  let output := invocation.task.output?.toList
  let scratch := ScratchSpace.limited (pathOf current) (tempDir ++ "/scratch")
  let named := tempDir :: invocation.overrides.config.toList ++ output
  let files ← survey current named
  let configured := match Config.resolve files env invocation.overrides with
    | .ok config => config.workDir.toList ++ [config.compiler]
    | .error _ => []
  let files ← survey current (named ++ configured)
  return {
    files, env, tempDir
    logFilter := ← IO.getEnv "RUST_LOG"
    commands := scriptedCommands
    programs := []
    toolchain := { toolchain with scratch }
    stdout := .endless
    storage := fun _ => .endless
    crashNote := fun message => message ++ "\n" }

/-- Prints a report, writes its files and gives its exit code. -/
def publish (host : Host) (report : Report) : IO UInt32 := do
  for (location, node) in report.files.changesSince host.files do
    match node with
    | .file content => IO.FS.writeBinFile (pathOf location) ⟨content.toArray⟩
    | .directory => IO.FS.createDirAll (pathOf location)
    | .device _ => pure ()
  IO.eprint report.stderr
  (← IO.getStdout).write ⟨report.stdout.toArray⟩
  return report.exitCode.toUInt32

end AbiProbe.Program

open AbiProbe AbiProbe.Program in
/-- Carries out a command line. -/
def main (words : List String) : IO UInt32 := do
  match CommandLine.Invocation.ofWords words with
  | .error error =>
      IO.eprintln error.name
      return error.exitCode.toUInt32
  | .ok invocation =>
      match Toolchain.scriptOfJson (← (← IO.getStdin).readToEnd) with
      | .error fault =>
          IO.eprintln ("error: invalid script: " ++ fault.message)
          return 1
      | .ok script =>
          let host ← hostFor invocation (Toolchain.ofScript script)
          match CommandLine.execute host words with
          | .error error => return error.exitCode.toUInt32
          | .ok report => publish host report
