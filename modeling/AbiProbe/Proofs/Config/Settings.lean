import AbiProbe.Proofs.Config.Layers

/-! # Runs of compiler settings

A configuration may be given commands and environments any number of times and in any order
(`AbiProbe.Config.applyAll`). In the end the compiler and its arguments are those of the last
command with a word in it, the flags of all environments stand behind those of the start, and
nothing else has changed (`AbiProbe.Config.applyAll_settings`).
-/

namespace AbiProbe

/-- What may be set about the compiler. -/
inductive Setting
  /-- The compiler command. -/
  | command (text : String)
  /-- What an environment says of the compiler. -/
  | environment (env : CompilerEnv)

namespace Setting

/-- The compiler command a setting gives, if it gives one. -/
def command? : Setting → Option String
  | .command text => some text
  | .environment env => env.cc

/-- The flags a setting adds. -/
def flags : Setting → List String
  | .command _ => []
  | .environment env => Config.wordsOf? env.cflags

end Setting

namespace Config

/-- The configuration after a setting. -/
def apply (config : Config) : Setting → Config
  | .command text => config.setCompiler text
  | .environment env => config.withEnv env

/-- The configuration after a run of settings, one after the other. -/
def applyAll (config : Config) (settings : List Setting) : Config :=
  settings.foldl apply config

theorem applyAll_concat (config : Config) (settings : List Setting) (setting : Setting) :
    config.applyAll (settings ++ [setting]) = (config.applyAll settings).apply setting := by
  rw [applyAll, List.foldl_append]
  rfl

/-- A setting replaces the command and adds flags. -/
theorem apply_eq (config : Config) (setting : Setting) :
    config.apply setting =
      { config.setCompiler? setting.command? with cflags := config.cflags ++ setting.flags } := by
  cases setting with
  | command text =>
      have flags := (config.setCompiler?_frame (some text)).1
      change config.setCompiler? (some text) =
        { config.setCompiler? (some text) with cflags := config.cflags ++ [] }
      rw [List.append_nil, ← flags]
  | environment env =>
      have flags := (config.setCompiler?_frame env.cc).1
      unfold apply withEnv
      dsimp only
      rw [flags]
      rfl

/-- Commands and flags may be gathered, for neither matters to the other. -/
theorem applyAll_eq (config : Config) (settings : List Setting) :
    config.applyAll settings =
      { config.setCompilers (settings.map Setting.command?) with
        cflags := config.cflags ++ settings.flatMap Setting.flags } := by
  induction settings using List.reverseRecOn with
  | nil => simp [applyAll, setCompilers]
  | append_singleton settings setting ih =>
      rw [applyAll_concat, apply_eq, ih, setCompiler?_withFlags, List.map_append,
        List.map_singleton, setCompilers_concat, List.flatMap_append, List.flatMap_singleton,
        List.append_assoc]

theorem setCompilers_frame (config : Config) (commands : List (Option String)) :
    (config.setCompilers commands).includeDirs = config.includeDirs ∧
      (config.setCompilers commands).headers = config.headers ∧
      (config.setCompilers commands).workDir = config.workDir := by
  induction commands using List.reverseRecOn with
  | nil => exact ⟨rfl, rfl, rfl⟩
  | append_singleton commands command ih =>
      obtain ⟨-, dirs, headers, workDir⟩ :=
        (config.setCompilers commands).setCompiler?_frame command
      rw [setCompilers_concat, dirs, headers, workDir]
      exact ih

theorem setCompiler_of_spaced (config : Config) {front text compiler : String}
    {arguments : List String} (blank : ∀ c ∈ front.toList, Text.isBlank c = true)
    (spaced : Text.Spaced (compiler :: arguments) text) :
    config.setCompiler (front ++ text) =
      { config with compiler, compilerArgs := arguments } := by
  rw [setCompiler, spaced.wordsOf_eq blank]

-- The ideographic space sets words apart, and a blank command later on is no command.
example : standard.applyAll
    [.command "gcc -m64", .environment ⟨some "\u3000clang\t-m32 ", some "-O2"⟩, .command "\n"] =
      { standard with compiler := "clang", compilerArgs := ["-m32"], cflags := ["-O2"] } := by
  decide

end Config

end AbiProbe
