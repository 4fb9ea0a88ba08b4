import AbiProbe.Config.Json

/-! # Layers of configuration

The configuration of a run is built in layers: a file or the standard configuration, then the
environment, then the options of the command line (`AbiProbe.Config.resolve`). A compiler
command of a higher layer replaces that of the layers below; lists grow at their ends.
-/

namespace AbiProbe

/-- What the command line says of the probe. -/
structure Overrides where
  headers : List String
  includeDirs : List String
  compiler : Option String
  cflags : List String
  workDir : Option String
  /-- The file that holds the lowest layer. -/
  config : Option String
deriving DecidableEq, Repr

namespace Config

/-- The lowest layer: the named file, or the standard configuration. -/
def base (files : FileTree) : Option String → Except ConfigError Config
  | none => .ok standard
  | some path => ofFile files path

/-- The configuration under the options of the command line. -/
def withOverrides (config : Config) (overrides : Overrides) : Config :=
  let config := config.setCompiler? overrides.compiler
  { config with
    cflags := config.cflags ++ overrides.cflags
    includeDirs := config.includeDirs ++ overrides.includeDirs
    headers := config.headers ++ overrides.headers
    workDir := overrides.workDir.or config.workDir }

/-- The configuration of a run. -/
def resolve (files : FileTree) (env : CompilerEnv) (overrides : Overrides) :
    Except ConfigError Config := do
  let config ← base files overrides.config
  return (config.withEnv env).withOverrides overrides

end Config

end AbiProbe
