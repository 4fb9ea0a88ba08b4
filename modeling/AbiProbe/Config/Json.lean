import AbiProbe.Config.Basic
import AbiProbe.Json.Reader

/-! # Configurations in JSON

A configuration is read from an object with any of its six members in any order, or from an
array of their values in the listed order. What is not given is as in the standard configuration;
a member of another name is a fault.
-/

namespace AbiProbe

/-- Why a configuration cannot be loaded. -/
inductive ConfigError
  /-- The file cannot be read. -/
  | unreadable (path : String) (reason : SystemError)
  /-- The text is no configuration. -/
  | invalid (fault : Json.Error)
deriving Repr

/-- An error as it is told to the user. -/
def ConfigError.message : ConfigError → String
  | unreadable path reason => "failed to read '" ++ path ++ "': " ++ reason.message
  | invalid fault => "invalid probe config: " ++ fault.message

namespace Config

/-- The members of a configuration. -/
def memberNames : List String :=
  ["compiler", "compiler_args", "cflags", "include_dirs", "headers", "work_dir"]

/-- The members met so far in an object. -/
structure Draft where
  compiler : Option String
  compilerArgs : Option (List String)
  cflags : Option (List String)
  includeDirs : Option (List String)
  headers : Option (List String)
  workDir : Option (Option String)
deriving DecidableEq, Repr

/-- No member met. -/
def Draft.empty : Draft :=
  ⟨none, none, none, none, none, none⟩

/-- The configuration of a draft; what is missing is as in the standard configuration. -/
def Draft.finish (draft : Draft) : Config where
  compiler := draft.compiler.getD standard.compiler
  compilerArgs := draft.compilerArgs.getD standard.compilerArgs
  cflags := draft.cflags.getD standard.cflags
  includeDirs := draft.includeDirs.getD standard.includeDirs
  headers := draft.headers.getD standard.headers
  workDir := draft.workDir.getD standard.workDir

/-- Reads a text. -/
def readText : Json.Reader String :=
  Json.string "a string"

/-- Reads a path. -/
def readPath : Json.Reader String :=
  Json.string "path string"

/-- Reads a list of texts. -/
def readTexts : Json.Reader (List String) :=
  Json.array readText "a sequence"

/-- Reads a list of paths. -/
def readPaths : Json.Reader (List String) :=
  Json.array readPath "a sequence"

/-- Reads a path or none. -/
def readOptionalPath : Json.Reader (Option String) :=
  Json.optional readPath

/-- Reads the member of a given key into a draft. -/
def Draft.member (draft : Draft) (key : String) (input : List Char) :
    Except Json.Error (Draft × List Char) :=
  match key with
  | "compiler" => do
      let (compiler, rest) ← Json.onceOnly key draft.compiler readText input
      return ({ draft with compiler }, rest)
  | "compiler_args" => do
      let (compilerArgs, rest) ← Json.onceOnly key draft.compilerArgs readTexts input
      return ({ draft with compilerArgs }, rest)
  | "cflags" => do
      let (cflags, rest) ← Json.onceOnly key draft.cflags readTexts input
      return ({ draft with cflags }, rest)
  | "include_dirs" => do
      let (includeDirs, rest) ← Json.onceOnly key draft.includeDirs readPaths input
      return ({ draft with includeDirs }, rest)
  | "headers" => do
      let (headers, rest) ← Json.onceOnly key draft.headers readTexts input
      return ({ draft with headers }, rest)
  | "work_dir" => do
      let (workDir, rest) ← Json.onceOnly key draft.workDir readOptionalPath input
      return ({ draft with workDir }, rest)
  | _ => .error (.unknownField key memberNames)

/-- Reads the values of a configuration as elements of an array. -/
def readElements (input : List Char) : Except Json.Error (Config × List Char) := do
  let (compiler, rest) ← Json.element? readText true input
  let first := compiler.isNone
  let (compilerArgs, rest) ← Json.element? readTexts first rest
  let (cflags, rest) ← Json.element? readTexts first rest
  let (includeDirs, rest) ← Json.element? readPaths first rest
  let (headers, rest) ← Json.element? readTexts first rest
  let (workDir, rest) ← Json.element? readOptionalPath first rest
  return (Draft.finish ⟨compiler, compilerArgs, cflags, includeDirs, headers, workDir⟩, rest)

/-- Reads a configuration. -/
def readJson : Json.Reader Config :=
  Json.record "struct ProbeConfig" Draft.member Draft.empty (fun draft => .ok draft.finish)
    readElements

/-- The configuration a JSON text describes. -/
def ofJson (text : String) : Except ConfigError Config :=
  (Json.document readJson text).mapError .invalid

/-- The configuration a file describes. -/
def ofFile (files : FileTree) (path : String) : Except ConfigError Config :=
  match files.readText path with
  | .ok text => ofJson text
  | .error reason => .error (.unreadable path reason)

end Config

end AbiProbe
