import AbiProbe.Config.Layers
import AbiProbe.Proofs.Text.Word
import Mathlib.Data.List.Induction

/-! # What each layer of a configuration decides

The compiler and its arguments come from one layer, the highest that gives a command with a word
in it (`AbiProbe.Config.setCompilers_command`). Flags, directories and headers of a layer come
after those of the layers below, and the work directory of the command line replaces any other.
Only the file can make the configuration fail (`AbiProbe.Config.resolve_layers`).
-/

namespace AbiProbe

namespace Config

/-- Whether a command has blanks only. -/
def isBlankCommand (command : String) : Bool :=
  command.toList.all Text.isBlank

theorem wordsOf_eq_nil_iff_isBlankCommand {command : String} :
    Text.wordsOf command = [] ↔ isBlankCommand command = true := by
  rw [Text.wordsOf_eq_nil_iff, isBlankCommand, List.all_eq_true]

/-- The last of some commands, where those not given and the blank ones do not count. -/
def lastCommand? (commands : List (Option String)) : Option String :=
  ((commands.filterMap id).filter fun command => !isBlankCommand command).getLast?

theorem lastCommand?_concat_none (commands : List (Option String)) :
    lastCommand? (commands ++ [none]) = lastCommand? commands := by
  simp [lastCommand?]

theorem lastCommand?_concat_of_blank {command : String} (blank : isBlankCommand command = true)
    (commands : List (Option String)) :
    lastCommand? (commands ++ [some command]) = lastCommand? commands := by
  simp [lastCommand?, blank]

theorem lastCommand?_concat_of_not_blank {command : String}
    (solid : isBlankCommand command = false) (commands : List (Option String)) :
    lastCommand? (commands ++ [some command]) = some command := by
  simp [lastCommand?, solid]

theorem mem_of_lastCommand? {commands : List (Option String)} {command : String}
    (last : lastCommand? commands = some command) : some command ∈ commands := by
  have counted := List.mem_of_getLast? last
  obtain ⟨given, member, rfl⟩ := List.mem_filterMap.mp (List.mem_filter.mp counted).1
  exact member

/-! ## Compiler commands -/

/-- A configuration under the commands of some layers, from the lowest to the highest. -/
def setCompilers (config : Config) (commands : List (Option String)) : Config :=
  commands.foldl setCompiler? config

/-- A command sets the compiler and its arguments, all at once or, if it is blank, not at all. -/
theorem setCompiler_eq (config : Config) (command : String) :
    (isBlankCommand command = true ∧ config.setCompiler command = config) ∨
      (isBlankCommand command = false ∧ ∃ compiler arguments,
        Text.wordsOf command = compiler :: arguments ∧
        config.setCompiler command = { config with compiler, compilerArgs := arguments }) := by
  unfold setCompiler
  cases words : Text.wordsOf command with
  | nil => exact Or.inl ⟨wordsOf_eq_nil_iff_isBlankCommand.mp words, rfl⟩
  | cons compiler arguments =>
      refine Or.inr ⟨?_, compiler, arguments, rfl, rfl⟩
      rw [← Bool.not_eq_true, ← wordsOf_eq_nil_iff_isBlankCommand, words]
      exact List.cons_ne_nil compiler arguments

theorem setCompilers_concat (config : Config) (commands : List (Option String))
    (command : Option String) :
    config.setCompilers (commands ++ [command]) =
      (config.setCompilers commands).setCompiler? command := by
  rw [setCompilers, List.foldl_append]
  rfl

/-- **The highest layer with a command decides.** After the commands of some layers, the compiler
and its arguments are the words of the last command that has any, and stay as they were where
there is none. -/
theorem setCompilers_command (config : Config) (commands : List (Option String)) :
    (∀ command, lastCommand? commands = some command →
      Text.wordsOf command =
        (config.setCompilers commands).compiler :: (config.setCompilers commands).compilerArgs) ∧
    (lastCommand? commands = none → config.setCompilers commands = config) := by
  -- The induction is from the end, since the last command is the one that counts.
  induction commands using List.reverseRecOn with
  | nil => exact ⟨fun command none => (by cases none), fun _ => rfl⟩
  | append_singleton commands command ih =>
      rw [setCompilers_concat]
      cases command with
      | none =>
          rw [lastCommand?_concat_none]
          exact ih
      | some command =>
          change (∀ other, _ → Text.wordsOf other =
            ((config.setCompilers commands).setCompiler command).compiler ::
              ((config.setCompilers commands).setCompiler command).compilerArgs) ∧
            (_ → (config.setCompilers commands).setCompiler command = config)
          rcases (config.setCompilers commands).setCompiler_eq command with
            ⟨blank, unchanged⟩ | ⟨solid, compiler, arguments, words, replaced⟩
          · rw [lastCommand?_concat_of_blank blank, unchanged]
            exact ih
          · rw [lastCommand?_concat_of_not_blank solid, replaced]
            constructor
            · intro other same
              obtain rfl : command = other := Option.some.inj same
              exact words
            · intro impossible
              cases impossible

/-- A command changes the compiler and its arguments only. -/
theorem setCompiler?_frame (config : Config) (command : Option String) :
    (config.setCompiler? command).cflags = config.cflags ∧
      (config.setCompiler? command).includeDirs = config.includeDirs ∧
      (config.setCompiler? command).headers = config.headers ∧
      (config.setCompiler? command).workDir = config.workDir := by
  cases command with
  | none => exact ⟨rfl, rfl, rfl, rfl⟩
  | some command =>
      change (config.setCompiler command).cflags = _ ∧ (config.setCompiler command).includeDirs = _ ∧
        (config.setCompiler command).headers = _ ∧ (config.setCompiler command).workDir = _
      rcases config.setCompiler_eq command with ⟨-, unchanged⟩ | ⟨-, compiler, arguments, -, replaced⟩
      · rw [unchanged]
        exact ⟨rfl, rfl, rfl, rfl⟩
      · rw [replaced]
        exact ⟨rfl, rfl, rfl, rfl⟩

/-- Flags do not matter to a command. -/
theorem setCompiler?_withFlags (config : Config) (flags : List String)
    (command : Option String) :
    { config with cflags := flags }.setCompiler? command =
      { config.setCompiler? command with cflags := flags } := by
  cases command with
  | none => rfl
  | some command =>
      unfold setCompiler? setCompiler
      dsimp only
      split <;> rfl

/-! ## Layers -/

/-- The configuration of a run in terms of its lowest layer: the commands of the layers above
come first to last, and what they add stands in the same order. -/
theorem withOverrides_withEnv (base : Config) (env : CompilerEnv) (overrides : Overrides) :
    (base.withEnv env).withOverrides overrides =
      { base.setCompilers [env.cc, overrides.compiler] with
        cflags := base.cflags ++ wordsOf? env.cflags ++ overrides.cflags
        includeDirs := base.includeDirs ++ overrides.includeDirs
        headers := base.headers ++ overrides.headers
        workDir := overrides.workDir.or base.workDir } := by
  obtain ⟨flags, dirs, headers, workDir⟩ := base.setCompiler?_frame env.cc
  obtain ⟨-, dirs', headers', workDir'⟩ :=
    (base.setCompiler? env.cc).setCompiler?_frame overrides.compiler
  unfold withOverrides withEnv
  dsimp only
  rw [setCompiler?_withFlags]
  simp only [setCompilers, List.foldl_cons, List.foldl_nil, flags, dirs, headers, workDir, dirs',
    headers', workDir']

theorem resolve_eq (files : FileTree) (env : CompilerEnv) (overrides : Overrides) :
    resolve files env overrides =
      (base files overrides.config).map fun base =>
        (base.withEnv env).withOverrides overrides := by
  unfold resolve
  cases base files overrides.config <;> rfl

theorem ofJson_of_ok {text : String} {config : Config}
    (parsed : Json.document readJson text = .ok config) : ofJson text = .ok config := by
  rw [ofJson, parsed]
  rfl

theorem ofJson_of_error {text : String} {fault : Json.Error}
    (failed : Json.document readJson text = .error fault) :
    ofJson text = .error (.invalid fault) := by
  rw [ofJson, failed]
  rfl

/-- The lowest layer fails where its file cannot be read, or holds no configuration. -/
theorem base_eq_error_iff {files : FileTree} {named : Option String} {error : ConfigError} :
    base files named = .error error ↔ ∃ path, named = some path ∧
      ((∃ reason, files.readText path = .error reason ∧ error = .unreadable path reason) ∨
        ∃ text fault, files.readText path = .ok text ∧
          Json.document readJson text = .error fault ∧ error = .invalid fault) := by
  cases named with
  | none => simp [base]
  | some path =>
      simp only [base, ofFile, Option.some.injEq, exists_eq_left']
      cases read : files.readText path with
      | error reason => simp [eq_comm]
      | ok text =>
          cases parsed : Json.document readJson text with
          | error fault => simp [ofJson_of_error parsed, parsed, eq_comm]
          | ok config => simp [ofJson_of_ok parsed, parsed]

/-- The lowest layer is the configuration a file holds, or the standard one where no file is
named. -/
theorem base_eq_ok_iff {files : FileTree} {named : Option String} {config : Config} :
    base files named = .ok config ↔
      (named = none ∧ config = standard) ∨
        ∃ path text, named = some path ∧ files.readText path = .ok text ∧
          Json.document readJson text = .ok config := by
  cases named with
  | none => simp [base, eq_comm]
  | some path =>
      simp only [base, ofFile, Option.some.injEq, reduceCtorEq, false_and, false_or]
      cases read : files.readText path with
      | error reason => simp [read]
      | ok text =>
          cases parsed : Json.document readJson text with
          | error fault => simp [ofJson_of_error parsed, parsed, read]
          | ok found => simp [ofJson_of_ok parsed, parsed, read]

/-- A command with a word leaves no influence to the layers below it. -/
theorem setCompiler_setCompiler? (config : Config) {command : String}
    (solid : isBlankCommand command = false) (lower : Option String) :
    (config.setCompiler? lower).setCompiler command = config.setCompiler command := by
  obtain ⟨flags, dirs, headers, workDir⟩ := config.setCompiler?_frame lower
  unfold setCompiler
  cases words : Text.wordsOf command with
  | nil =>
      rw [wordsOf_eq_nil_iff_isBlankCommand, solid] at words
      cases words
  | cons compiler arguments => simp only [flags, dirs, headers, workDir]

end Config

end AbiProbe
