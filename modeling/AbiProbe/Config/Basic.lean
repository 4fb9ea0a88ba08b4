import AbiProbe.Probe.Basic

/-! # Configuration of the compiler

A configuration says which compiler is started with which arguments, which headers a probe
includes and where it works. The environment and the command line replace the compiler command
as a whole (`AbiProbe.Config.setCompiler`) and add to its flags.
-/

namespace AbiProbe

/-- How a probe compiles its programs. -/
structure Config where
  /-- The compiler to start. -/
  compiler : String
  /-- The arguments that belong to the compiler command itself. -/
  compilerArgs : List String
  /-- Further flags. -/
  cflags : List String
  /-- The directories in which headers are looked for. -/
  includeDirs : List String
  /-- The headers of the probe. -/
  headers : List String
  /-- The work directory; the directory for temporary files if there is none. -/
  workDir : Option String
deriving DecidableEq, Repr

/-- The environment variables that speak of the compiler. -/
structure CompilerEnv where
  /-- The compiler command. -/
  cc : Option String
  /-- The flags. -/
  cflags : Option String
deriving DecidableEq, Repr

namespace Config

/-- The configuration nobody changed: the compiler `cc` without any argument. -/
def standard : Config :=
  ⟨"cc", [], [], [], [], none⟩

/-- Replaces the compiler command by the words of another: the compiler and its arguments. A
blank command changes nothing. -/
def setCompiler (config : Config) (command : String) : Config :=
  match Text.wordsOf command with
  | [] => config
  | compiler :: arguments => { config with compiler, compilerArgs := arguments }

/-- The configuration with the command that a layer above gives, if it gives one. -/
def setCompiler? (config : Config) : Option String → Config
  | none => config
  | some command => config.setCompiler command

/-- The words of a variable that may be unset. -/
def wordsOf? (text : Option String) : List String :=
  (text.map Text.wordsOf).getD []

/-- The configuration under an environment: its compiler command replaces that of the
configuration, and its flags come after those of the configuration. -/
def withEnv (config : Config) (env : CompilerEnv) : Config :=
  let config := config.setCompiler? env.cc
  { config with cflags := config.cflags ++ wordsOf? env.cflags }

/-- The option that adds a directory to look for headers in. -/
def includeFlag (directory : String) : String :=
  "-I" ++ directory

/-- The command that compiles a source file to a program. -/
def compileCommand (config : Config) (source program : String) : Command where
  program := config.compiler
  arguments := config.compilerArgs ++ config.cflags ++ config.includeDirs.map includeFlag ++
    [source, "-o", program]

/-- The probe of a configuration. -/
def toProbe (config : Config) (files : FileTree) (tempDir : String) (toolchain : Toolchain)
    (log : Log.Filter := .silent) : Except WorkDirError Probe :=
  Probe.inDirectory files config.headers (config.workDir.getD tempDir) toolchain log

open Text in
/-- A configuration in the words of a diagnostic. -/
def diagnostic (config : Config) : String :=
  "ProbeConfig " ++ Diagnostic.fields
    [Diagnostic.field "compiler" (quote config.compiler),
      Diagnostic.field "compiler_args" (Diagnostic.texts config.compilerArgs),
      Diagnostic.field "cflags" (Diagnostic.texts config.cflags),
      Diagnostic.field "include_dirs" (Diagnostic.texts config.includeDirs),
      Diagnostic.field "headers" (Diagnostic.texts config.headers),
      Diagnostic.field "work_dir" (Diagnostic.optional (config.workDir.map quote))]

end Config

end AbiProbe
