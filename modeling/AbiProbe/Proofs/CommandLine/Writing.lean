import AbiProbe.Proofs.CommandLine.Requests

/-! # What the options of an invocation say

All that an invocation says is said by some options and operands. They are read option by option,
so what is read off them depends only on what each option is given and on the order of the
requests, and it is the invocation itself
(`AbiProbe.CommandLine.Invocation.ofScanned_occurrences`).
-/

namespace AbiProbe

/-- What a question is about. -/
def Query.subject : Query → String
  | size name | alignment name | signedness name | definedness name | primitive name
  | signedConstant name | unsignedConstant name => name

namespace CommandLine

/-! ## Writing -/

/-- The occurrences of an option among others. -/
def OptionName.among (option : OptionName) (occurrences : List Occurrence) : List Occurrence :=
  occurrences.filter fun occurrence => occurrence.option = option

/-- The occurrences that give an option some values. -/
def OptionName.giving (option : OptionName) (values : List String) : List Occurrence :=
  values.map fun value => ⟨option, some value⟩

/-- The occurrences that raise an option some times. -/
def OptionName.raised (option : OptionName) (times : Nat) : List Occurrence :=
  List.replicate times ⟨option, none⟩

/-- The options that make requests. -/
def OptionName.requests : List OptionName :=
  [aliasType, signedConst, unsignedConst]

/-- The occurrence that makes a request. -/
def requesting : Request → Occurrence
  | .typeAlias name => ⟨.aliasType, some name⟩
  | .signedConstant name => ⟨.signedConst, some name⟩
  | .unsignedConstant name => ⟨.unsignedConst, some name⟩

/-- The options that say something of the probe. -/
def occurrencesOf (overrides : Overrides) : List Occurrence :=
  OptionName.header.giving overrides.headers ++
    OptionName.includeDir.giving overrides.includeDirs ++
    OptionName.compiler.giving overrides.compiler.toList ++
    OptionName.cflag.giving overrides.cflags ++
    OptionName.workDir.giving overrides.workDir.toList ++
    OptionName.config.giving overrides.config.toList

namespace Task

/-- The subcommand a task belongs to. -/
def subcommand : Task → Subcommand
  | query (.size _) => .sizeOf
  | query (.alignment _) => .alignOf
  | query (.signedness _) => .signed
  | query (.definedness _) => .defined
  | query (.primitive _) => .rustType
  | query (.signedConstant _) | query (.unsignedConstant _) => .constant
  | layout _ _ => .layout
  | bindings _ _ _ _ => .bindings

/-- The operands of a task. -/
def operands : Task → List String
  | query question => [question.subject]
  | layout types _ => types
  | bindings _ _ _ _ => []

/-- The options of a task. -/
def occurrences : Task → List Occurrence
  | query (.unsignedConstant _) => OptionName.unsigned.raised 1
  | query _ => []
  | layout _ json => OptionName.json.raised json.toNat
  | bindings requests visibility output json =>
      requests.map requesting ++ OptionName.visibility.giving [visibility] ++
        OptionName.output.giving output.toList ++ OptionName.json.raised json.toNat

end Task

namespace Invocation

/-- The options that say all of an invocation, in one of their orders. -/
def occurrences (invocation : Invocation) : List Occurrence :=
  occurrencesOf invocation.overrides ++ OptionName.verbose.raised invocation.verbosity ++
    invocation.task.occurrences

/-- An invocation that a command line can mean. Its verbosity is how often more of the log is
asked for. -/
structure Expressible (invocation : Invocation) : Prop where
  subcommand : invocation.subcommand = invocation.task.subcommand
  includeDirs : "" ∉ invocation.overrides.includeDirs
  workDir : invocation.overrides.workDir ≠ some ""
  config : invocation.overrides.config ≠ some ""
  output : invocation.task.output? ≠ some ""
  types : ∀ types json, invocation.task = .layout types json → types ≠ []

end Invocation

/-! ## The options of an invocation -/

theorem mem_giving {option : OptionName} {values : List String} {occurrence : Occurrence} :
    occurrence ∈ option.giving values ↔ ∃ value ∈ values, occurrence = ⟨option, some value⟩ := by
  simp [OptionName.giving, eq_comm]

theorem eq_of_mem_raised {option : OptionName} {times : Nat} {occurrence : Occurrence}
    (member : occurrence ∈ option.raised times) : occurrence = ⟨option, none⟩ :=
  List.eq_of_mem_replicate member

theorem filterMap_value_giving (option : OptionName) (values : List String) :
    (option.giving values).filterMap Occurrence.value = values := by
  simp [OptionName.giving, List.filterMap_map]

theorem request?_requesting (request : Request) : (requesting request).request? = some request := by
  cases request <;> rfl

section Among

variable {option given : OptionName}

theorem among_append (first second : List Occurrence) :
    option.among (first ++ second) = option.among first ++ option.among second :=
  List.filter_append ..

theorem among_cons_same {occurrence : Occurrence} (same : occurrence.option = option)
    (others : List Occurrence) :
    option.among (occurrence :: others) = occurrence :: option.among others :=
  List.filter_cons_of_pos (decide_eq_true same)

theorem among_cons_other {occurrence : Occurrence} (other : occurrence.option ≠ option)
    (others : List Occurrence) : option.among (occurrence :: others) = option.among others :=
  List.filter_cons_of_neg (by simpa using other)

theorem any_eq_not_isEmpty_among (option : OptionName) (occurrences : List Occurrence) :
    occurrences.any (fun occurrence => occurrence.option = option) =
      !(option.among occurrences).isEmpty := by
  cases found : option.among occurrences with
  | nil => exact List.any_eq_false.mpr (List.filter_eq_nil_iff.mp found)
  | cons occurrence others =>
      have member : occurrence ∈ option.among occurrences := found ▸ List.mem_cons_self
      obtain ⟨present, same⟩ := List.mem_filter.mp member
      exact List.any_eq_true.mpr ⟨occurrence, present, same⟩

theorem among_giving (values : List String) :
    option.among (given.giving values) = if given = option then given.giving values else [] := by
  split <;> simp_all [OptionName.among, OptionName.giving]

theorem among_raised (times : Nat) :
    option.among (given.raised times) = if given = option then given.raised times else [] := by
  split <;> simp_all [OptionName.among, OptionName.raised]

theorem option_requesting_mem (request : Request) :
    (requesting request).option ∈ OptionName.requests := by
  cases request <;> simp [requesting, OptionName.requests]

theorem among_requesting (requests : List Request) (other : option ∉ OptionName.requests) :
    option.among (requests.map requesting) = [] := by
  rw [OptionName.among, List.filter_eq_nil_iff]
  intro occurrence member same
  obtain ⟨request, -, rfl⟩ := List.mem_map.mp member
  exact other (of_decide_eq_true same ▸ option_requesting_mem request)

theorem among_occurrencesOf (overrides : Overrides) (option : OptionName) :
    option.among (occurrencesOf overrides) =
      match option with
      | .header => OptionName.header.giving overrides.headers
      | .includeDir => OptionName.includeDir.giving overrides.includeDirs
      | .compiler => OptionName.compiler.giving overrides.compiler.toList
      | .cflag => OptionName.cflag.giving overrides.cflags
      | .workDir => OptionName.workDir.giving overrides.workDir.toList
      | .config => OptionName.config.giving overrides.config.toList
      | _ => [] := by
  cases option <;> simp [occurrencesOf, among_append, among_giving]

theorem among_bindings (requests : List Request) (visibility : String) (output : Option String)
    (json : Bool) (other : option ∉ OptionName.requests) :
    option.among (Task.bindings requests visibility output json).occurrences =
      match option with
      | .visibility => OptionName.visibility.giving [visibility]
      | .output => OptionName.output.giving output.toList
      | .json => OptionName.json.raised json.toNat
      | _ => [] := by
  rw [Task.occurrences, among_append, among_append, among_append,
    among_requesting requests other, among_giving, among_giving, among_raised]
  cases option <;> simp

/-- A task is told by options of its own. -/
theorem among_task (task : Task) (shared : option ∈ OptionName.shared) :
    option.among task.occurrences = [] := by
  cases task with
  | query question =>
      have noUnsigned : OptionName.unsigned ≠ option := by
        rintro rfl
        exact absurd shared (by decide)
      cases question with
      | unsignedConstant name => exact (among_raised 1).trans (if_neg noUnsigned)
      | _ => rfl
  | layout types json =>
      have noJson : OptionName.json ≠ option := by
        rintro rfl
        exact absurd shared (by decide)
      exact (among_raised _).trans (if_neg noJson)
  | bindings requests visibility output json =>
      have other : option ∉ OptionName.requests := by
        revert shared
        cases option <;> decide
      rw [among_bindings requests visibility output json other]
      cases option with
      | visibility | output | json => exact absurd shared (by decide)
      | _ => rfl

theorem among_occurrences (invocation : Invocation) (option : OptionName) :
    option.among invocation.occurrences =
      option.among (occurrencesOf invocation.overrides) ++
        option.among (OptionName.verbose.raised invocation.verbosity) ++
        option.among invocation.task.occurrences := by
  rw [Invocation.occurrences, among_append, among_append]

end Among

/-! ## Reading -/

namespace Scanned

variable {first second : Scanned}

theorem values_eq (scanned : Scanned) (option : OptionName) :
    scanned.values option = (option.among scanned.occurrences).filterMap Occurrence.value := by
  simp only [values, OptionName.among, List.filterMap_filter, decide_eq_true_eq]

theorem count_eq (scanned : Scanned) (option : OptionName) :
    scanned.count option = (option.among scanned.occurrences).length :=
  List.countP_eq_length_filter

theorem has_eq (scanned : Scanned) (option : OptionName) :
    scanned.has option = !(option.among scanned.occurrences).isEmpty :=
  any_eq_not_isEmpty_among option scanned.occurrences

theorem overrides_congr
    (shared : ∀ option ∈ OptionName.shared,
      option.among first.occurrences = option.among second.occurrences) :
    first.overrides = second.overrides := by
  have values : ∀ option ∈ OptionName.shared, first.values option = second.values option := by
    intro option member
    rw [values_eq, values_eq, shared option member]
  unfold overrides value?
  rw [values .header (by decide), values .includeDir (by decide), values .compiler (by decide),
    values .cflag (by decide), values .workDir (by decide), values .config (by decide)]

/-- A task is read off the options that are not shared, the order of the requests and the
operands. The usual visibility need not be said. -/
theorem task_congr
    (own : ∀ option : OptionName, option ∉ OptionName.shared → option ≠ .visibility →
      option.among first.occurrences = option.among second.occurrences)
    (visible : (first.value? .visibility).getD EmissionStyle.standard.visibility =
      (second.value? .visibility).getD EmissionStyle.standard.visibility)
    (requested : first.occurrences.filterMap Occurrence.request? =
      second.occurrences.filterMap Occurrence.request?)
    (operands : first.operands = second.operands) (subcommand : Subcommand) :
    Task.ofScanned subcommand first = Task.ofScanned subcommand second := by
  have requests : first.requests = second.requests := by
    rw [requests_eq, requests_eq, requested]
  have operand : first.operand = second.operand := by
    rw [Scanned.operand, Scanned.operand, operands]
  have output : first.value? .output = second.value? .output := by
    rw [value?, value?, values_eq, values_eq, own .output (by decide) (by decide)]
  unfold Task.ofScanned
  rw [has_eq first, has_eq first, has_eq second, has_eq second, own .unsigned (by decide)
    (by decide), own .json (by decide) (by decide), requests, operand, operands, visible, output]

end Scanned

namespace Invocation

variable {invocation : Invocation}

theorem among_shared (invocation : Invocation) {option : OptionName}
    (shared : option ∈ OptionName.shared) (noVerbose : option ≠ .verbose) :
    option.among invocation.occurrences = option.among (occurrencesOf invocation.overrides) := by
  rw [among_occurrences, among_raised, if_neg noVerbose.symm, among_task _ shared,
    List.append_nil, List.append_nil]

theorem among_own (invocation : Invocation) {option : OptionName}
    (own : option ∉ OptionName.shared) :
    option.among invocation.occurrences = option.among invocation.task.occurrences := by
  have noVerbose : OptionName.verbose ≠ option := by
    rintro rfl
    exact own (by decide)
  have noOverride : option.among (occurrencesOf invocation.overrides) = [] := by
    rw [among_occurrencesOf]
    revert own
    cases option <;> simp [OptionName.shared]
  rw [among_occurrences, among_raised, if_neg noVerbose, noOverride, List.append_nil,
    List.nil_append]

theorem overrides_occurrences (invocation : Invocation) (operands : List String) :
    Scanned.overrides ⟨invocation.occurrences, operands⟩ = invocation.overrides := by
  have values : ∀ option : OptionName, option ∈ OptionName.shared → option ≠ .verbose →
      Scanned.values ⟨invocation.occurrences, operands⟩ option =
        (option.among (occurrencesOf invocation.overrides)).filterMap Occurrence.value := by
    intro option shared noVerbose
    rw [Scanned.values_eq, among_shared invocation shared noVerbose]
  unfold Scanned.overrides Scanned.value?
  rw [values .header (by decide) (by decide), values .includeDir (by decide) (by decide),
    values .compiler (by decide) (by decide), values .cflag (by decide) (by decide),
    values .workDir (by decide) (by decide), values .config (by decide) (by decide)]
  simp only [among_occurrencesOf, filterMap_value_giving, Option.head?_toList]

theorem count_verbose (invocation : Invocation) (operands : List String) :
    Scanned.count ⟨invocation.occurrences, operands⟩ .verbose = invocation.verbosity := by
  rw [Scanned.count_eq, among_occurrences, among_occurrencesOf, among_raised,
    among_task _ (by decide)]
  simp [OptionName.raised]

theorem requests_occurrences (invocation : Invocation) :
    invocation.occurrences.filterMap Occurrence.request? =
      invocation.task.occurrences.filterMap Occurrence.request? := by
  have overrides : (occurrencesOf invocation.overrides).filterMap Occurrence.request? = [] := by
    simp [occurrencesOf, OptionName.giving, Occurrence.request?, List.filterMap_map,
      Function.comp_def]
  have verbose : (OptionName.verbose.raised invocation.verbosity).filterMap
      Occurrence.request? = [] := by
    rw [List.filterMap_eq_nil_iff]
    intro occurrence member
    rw [eq_of_mem_raised member]
    rfl
  rw [occurrences, List.filterMap_append, List.filterMap_append, overrides, verbose,
    List.nil_append, List.nil_append]

theorem requests_bindings (requests : List Request) (visibility : String)
    (output : Option String) (json : Bool) :
    (Task.bindings requests visibility output json).occurrences.filterMap Occurrence.request? =
      requests := by
  have made : (requests.map requesting).filterMap Occurrence.request? = requests := by
    rw [List.filterMap_map]
    simp [request?_requesting]
  rw [Task.occurrences, List.filterMap_append, List.filterMap_append, List.filterMap_append, made]
  cases output <;> cases json <;> simp [OptionName.giving, OptionName.raised, Occurrence.request?]

/-- A task is read off its own options and operands. -/
theorem ofScanned_task (task : Task) :
    Task.ofScanned task.subcommand ⟨task.occurrences, task.operands⟩ = task := by
  cases task with
  | query question => cases question <;> rfl
  | layout types json => cases json <;> rfl
  | bindings requests visibility output json =>
      -- The requests are sorted when they are collected, so this does not hold by computation.
      unfold Task.ofScanned Scanned.value?
      change Task.bindings _ _ _ _ = _
      rw [Scanned.requests_eq, Scanned.values_eq, Scanned.values_eq, Scanned.has_eq]
      dsimp only
      rw [requests_bindings, among_bindings _ _ _ _ (by decide),
        among_bindings _ _ _ _ (by decide), among_bindings _ _ _ _ (by decide)]
      cases output <;> cases json <;> rfl

/-- **An invocation is read off its options and operands,** with as much verbosity as is told
apart. -/
theorem ofScanned_occurrences (expressible : invocation.Expressible) :
    ofScanned invocation.subcommand ⟨invocation.occurrences, invocation.task.operands⟩ =
      { invocation with verbosity := min invocation.verbosity greatestVerbosity } := by
  have own : Task.ofScanned invocation.task.subcommand
      ⟨invocation.occurrences, invocation.task.operands⟩ =
        Task.ofScanned invocation.task.subcommand
          ⟨invocation.task.occurrences, invocation.task.operands⟩ := by
    apply Scanned.task_congr
    · intro option own noVisibility
      exact among_own invocation own
    · have visible :=
        among_own invocation (by decide : OptionName.visibility ∉ OptionName.shared)
      rw [Scanned.value?, Scanned.value?, Scanned.values_eq, Scanned.values_eq, visible]
    · exact requests_occurrences invocation
    · rfl
  have task := own.trans (ofScanned_task invocation.task)
  rw [← expressible.subcommand] at task
  rw [ofScanned, overrides_occurrences, count_verbose, task]

end Invocation

end CommandLine

end AbiProbe
