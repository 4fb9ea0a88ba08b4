import AbiProbe.Proofs.CommandLine.Writing
import Mathlib.Data.List.Perm.Subperm

/-! # Command lines are read as they are written

What is to be found out can be written as a command line in many ways: its options stand in any
order that keeps repeated ones in theirs, each in one word or, where its value allows it, in two.
However it is written, it is read as it was meant (`AbiProbe.CommandLine.ofWords_arranged`).
-/

namespace AbiProbe.CommandLine

/-- An order in which the options of an invocation can stand. -/
structure Invocation.Arranges (invocation : Invocation) (occurrences : List Occurrence) : Prop where
  /-- Nothing is added, and nothing is missing but, if at all, the usual visibility. -/
  complete : occurrences.Perm invocation.occurrences ∨
    (⟨.visibility, some EmissionStyle.standard.visibility⟩ :: occurrences).Perm
      invocation.occurrences
  /-- What an option is given repeatedly stays in order. -/
  repeated : ∀ option : OptionName, option.isRepeatable = true →
    option.among occurrences = option.among invocation.occurrences
  /-- So do the requests, whatever options make them. -/
  requested : occurrences.filterMap Occurrence.request? =
    invocation.occurrences.filterMap Occurrence.request?

/-- The words an option can be written as: one with its value in it, or two where the value
cannot be taken for an option. -/
inductive Occurrence.Written : Occurrence → List String → Prop
  | joined {option : OptionName} {name value : String} (named : option.long? = some name) :
      Written ⟨option, some value⟩ ["--" ++ name ++ "=" ++ value]
  | apart {option : OptionName} {name value : String} (named : option.long? = some name)
      (clear : option = .cflag ∨ IsPlain value) :
      Written ⟨option, some value⟩ ["--" ++ name, value]
  | flag {option : OptionName} {name : String} (named : option.long? = some name) :
      Written ⟨option, none⟩ ["--" ++ name]
  | verbose : Written ⟨.verbose, none⟩ ["-v"]

/-- Whether an occurrence is one of an option that a subcommand takes, with a value just where the
option has one, and with no empty path. -/
structure Occurrence.Fits (occurrence : Occurrence) (subcommand : Subcommand) : Prop where
  known : occurrence.option ∈ subcommand.options
  valued : occurrence.value.isSome = occurrence.option.takesValue
  path : occurrence.option.isPath = true → occurrence.value ≠ some ""
  noHelp : occurrence.option ≠ .help

/-! ## Orders -/

section Orders

variable {option : OptionName}

theorem length_giving_toList_le (option : OptionName) (value : Option String) :
    (option.giving value.toList).length ≤ 1 := by
  cases value <;> simp [OptionName.giving]

theorem length_raised_toNat_le (option : OptionName) (raised : Bool) :
    (option.raised raised.toNat).length ≤ 1 := by
  cases raised <;> simp [OptionName.raised]

theorem length_among_occurrencesOf_le (overrides : Overrides)
    (single : option.isRepeatable = false) :
    (option.among (occurrencesOf overrides)).length ≤ 1 := by
  rw [among_occurrencesOf]
  cases option with
  | header | includeDir | cflag => cases single
  | compiler => exact length_giving_toList_le _ _
  | workDir => exact length_giving_toList_le _ _
  | config => exact length_giving_toList_le _ _
  | _ => exact Nat.zero_le 1

theorem length_among_task_le (task : Task) (single : option.isRepeatable = false) :
    (option.among task.occurrences).length ≤ 1 := by
  cases task with
  | query question =>
      have few : (Task.query question).occurrences.length ≤ 1 := by
        cases question <;> simp [Task.occurrences, OptionName.raised]
      exact (List.length_filter_le _ _).trans few
  | layout types json =>
      exact (List.length_filter_le _ _).trans (length_raised_toNat_le .json json)
  | bindings requests visibility output json =>
      have other : option ∉ OptionName.requests := by
        revert single
        cases option <;> decide
      rw [among_bindings requests visibility output json other]
      cases option with
      | visibility => exact Nat.le_refl 1
      | output => exact length_giving_toList_le .output output
      | json => exact length_raised_toNat_le .json json
      | _ => exact Nat.zero_le 1

/-- An option that is not repeated is said once at most. -/
theorem Invocation.length_among_le_one (invocation : Invocation)
    (single : option.isRepeatable = false) :
    (option.among invocation.occurrences).length ≤ 1 := by
  have noVerbose : option ≠ .verbose := by
    rintro rfl
    cases single
  by_cases shared : option ∈ OptionName.shared
  · rw [among_shared invocation shared noVerbose]
    exact length_among_occurrencesOf_le _ single
  · rw [among_own invocation shared]
    exact length_among_task_le _ single

theorem among_eq_of_perm {first second : List Occurrence} (same : first.Perm second)
    (few : (option.among second).length ≤ 1) : option.among first = option.among second := by
  have permuted : (option.among first).Perm (option.among second) := same.filter _
  cases kept : option.among second with
  | nil =>
      rw [kept] at permuted
      exact permuted.eq_nil
  | cons occurrence others =>
      rw [kept] at permuted few
      have alone : others = [] := by simpa using few
      subst alone
      exact permuted.eq_singleton

end Orders

namespace Invocation.Arranges

variable {invocation : Invocation} {occurrences : List Occurrence}

/-- An option is given the same in any order, but for the visibility, which need not be given. -/
theorem among_eq (arranged : invocation.Arranges occurrences) {option : OptionName}
    (noVisibility : option ≠ .visibility) :
    option.among occurrences = option.among invocation.occurrences := by
  cases single : option.isRepeatable with
  | true => exact arranged.repeated option single
  | false =>
      have few := invocation.length_among_le_one single
      rcases arranged.complete with same | same
      · exact among_eq_of_perm same few
      · have kept := among_eq_of_perm same few
        rwa [among_cons_other noVisibility.symm] at kept

theorem visible (arranged : invocation.Arranges occurrences) (operands : List String) :
    (Scanned.value? ⟨occurrences, operands⟩ .visibility).getD EmissionStyle.standard.visibility =
      (Scanned.value? ⟨invocation.occurrences, operands⟩ .visibility).getD
        EmissionStyle.standard.visibility := by
  have few := invocation.length_among_le_one (rfl : OptionName.visibility.isRepeatable = false)
  rw [Scanned.value?, Scanned.value?, Scanned.values_eq, Scanned.values_eq]
  dsimp only
  rcases arranged.complete with same | same
  · rw [among_eq_of_perm same few]
  · -- The usual visibility is the only one, so none is left.
    have kept := among_eq_of_perm same few
    have first := @among_cons_same .visibility ⟨.visibility, some EmissionStyle.standard.visibility⟩
      rfl occurrences
    rw [← kept, first] at few ⊢
    have rest := List.eq_nil_of_length_eq_zero (Nat.le_zero.mp (Nat.le_of_succ_le_succ few))
    rw [rest]
    rfl

theorem subperm (arranged : invocation.Arranges occurrences) :
    occurrences.Subperm invocation.occurrences := by
  rcases arranged.complete with same | same
  · exact same.subperm
  · exact (List.sublist_cons_self _ occurrences).subperm.trans same.subperm

/-- An invocation is read off its options in any order. -/
theorem ofScanned_eq (arranged : invocation.Arranges occurrences)
    (expressible : invocation.Expressible) :
    ofScanned invocation.subcommand ⟨occurrences, invocation.task.operands⟩ =
      { invocation with verbosity := min invocation.verbosity greatestVerbosity } := by
  let given : Scanned := ⟨occurrences, invocation.task.operands⟩
  let canonical : Scanned := ⟨invocation.occurrences, invocation.task.operands⟩
  have overrides : given.overrides = canonical.overrides := by
    apply Scanned.overrides_congr
    intro option shared
    apply arranged.among_eq
    rintro rfl
    revert shared
    decide
  have verbose : given.count .verbose = canonical.count .verbose := by
    rw [Scanned.count_eq, Scanned.count_eq, arranged.among_eq (by decide)]
  have task : Task.ofScanned invocation.subcommand given =
      Task.ofScanned invocation.subcommand canonical := by
    apply Scanned.task_congr
    · intro option _ noVisibility
      exact arranged.among_eq noVisibility
    · exact arranged.visible invocation.task.operands
    · exact arranged.requested
    · rfl
  have same : ofScanned invocation.subcommand given =
      ofScanned invocation.subcommand canonical := by
    rw [ofScanned, overrides, verbose, task, ofScanned]
  exact same.trans (ofScanned_occurrences expressible)

end Invocation.Arranges

/-! ## Acceptance -/

section Acceptance

variable {subcommand : Subcommand} {invocation : Invocation}
  {before occurrences : List Occurrence}

theorem fits_giving {option : OptionName} {values : List String}
    (known : option ∈ subcommand.options) (valued : option.takesValue = true)
    (path : option.isPath = false ∨ "" ∉ values) :
    ∀ occurrence ∈ option.giving values, occurrence.Fits subcommand := by
  intro occurrence member
  obtain ⟨value, present, rfl⟩ := mem_giving.mp member
  refine ⟨known, valued.symm, ?_, ?_⟩
  · intro isPath empty
    have given : "" ∈ values := Option.some.inj empty ▸ present
    rcases path with noPath | absent
    · rw [noPath] at isPath
      cases isPath
    · exact absent given
  · rintro rfl
    cases valued

theorem fits_raised {option : OptionName} {times : Nat} (known : option ∈ subcommand.options)
    (bare : option.takesValue = false) (noHelp : option ≠ .help) :
    ∀ occurrence ∈ option.raised times, occurrence.Fits subcommand := by
  intro occurrence member
  rw [eq_of_mem_raised member]
  exact ⟨known, bare.symm, fun _ => nofun, noHelp⟩

theorem mem_options_of_mem_shared {option : OptionName} (shared : option ∈ OptionName.shared)
    (subcommand : Subcommand) : option ∈ subcommand.options := by
  cases subcommand <;> simp [Subcommand.options, shared]

theorem fits_occurrencesOf {overrides : Overrides} (includeDirs : "" ∉ overrides.includeDirs)
    (workDir : overrides.workDir ≠ some "") (config : overrides.config ≠ some "")
    (subcommand : Subcommand) :
    ∀ occurrence ∈ occurrencesOf overrides, occurrence.Fits subcommand := by
  have known : ∀ option ∈ OptionName.shared, option ∈ subcommand.options :=
    fun option shared => mem_options_of_mem_shared shared subcommand
  simp only [occurrencesOf, List.forall_mem_append]
  refine ⟨⟨⟨⟨⟨?_, ?_⟩, ?_⟩, ?_⟩, ?_⟩, ?_⟩
  · exact fits_giving (known _ (by decide)) rfl (Or.inl rfl)
  · exact fits_giving (known _ (by decide)) rfl (Or.inr includeDirs)
  · exact fits_giving (known _ (by decide)) rfl (Or.inl rfl)
  · exact fits_giving (known _ (by decide)) rfl (Or.inl rfl)
  · exact fits_giving (known _ (by decide)) rfl (Or.inr (by simpa using workDir))
  · exact fits_giving (known _ (by decide)) rfl (Or.inr (by simpa using config))

theorem fits_requesting (request : Request) : (requesting request).Fits .bindings := by
  have known : ∀ option ∈ OptionName.requests, option ∈ Subcommand.bindings.options := by
    decide
  have member := known _ (option_requesting_mem request)
  cases request with
  | typeAlias name => exact ⟨member, rfl, nofun, nofun⟩
  | signedConstant name => exact ⟨member, rfl, nofun, nofun⟩
  | unsignedConstant name => exact ⟨member, rfl, nofun, nofun⟩

theorem fits_task {task : Task} (output : task.output? ≠ some "") :
    ∀ occurrence ∈ task.occurrences, occurrence.Fits task.subcommand := by
  cases task with
  | query question =>
      cases question with
      | unsignedConstant name =>
          have known : OptionName.unsigned ∈ Subcommand.constant.options := by decide
          exact fits_raised known rfl (by decide)
      | _ => exact List.forall_mem_nil _
  | layout types json =>
      have known : OptionName.json ∈ Subcommand.layout.options := by decide
      exact fits_raised known rfl (by decide)
  | bindings requests visibility path json =>
      have known : ∀ option ∈ [OptionName.visibility, .output, .json],
          option ∈ Subcommand.bindings.options := by
        decide
      change ∀ occurrence ∈ _, Occurrence.Fits occurrence .bindings
      simp only [Task.occurrences, List.forall_mem_append]
      refine ⟨⟨⟨?_, ?_⟩, ?_⟩, ?_⟩
      · intro occurrence member
        obtain ⟨request, -, rfl⟩ := List.mem_map.mp member
        exact fits_requesting request
      · exact fits_giving (known _ (by decide)) rfl (Or.inl rfl)
      · have named : path ≠ some "" := output
        exact fits_giving (known _ (by decide)) rfl (Or.inr (by simpa using named))
      · exact fits_raised (known _ (by decide)) rfl (by decide)

theorem Invocation.Expressible.fits (expressible : invocation.Expressible) :
    ∀ occurrence ∈ invocation.occurrences, occurrence.Fits invocation.subcommand := by
  simp only [Invocation.occurrences, List.forall_mem_append]
  refine ⟨⟨?_, ?_⟩, ?_⟩
  · exact fits_occurrencesOf expressible.includeDirs expressible.workDir expressible.config _
  · exact fits_raised (mem_options_of_mem_shared (by decide) _) rfl (by decide)
  · rw [expressible.subcommand]
    exact fits_task expressible.output

/-- Fitting options have no fault if none of them is doubled that may not be. -/
theorem faultless_of_fits (fits : ∀ occurrence ∈ occurrences, occurrence.Fits subcommand)
    (single : ∀ option : OptionName, option.isRepeatable = false →
      (option.among (before ++ occurrences)).length ≤ 1) :
    Progress.Faultless before occurrences := by
  -- Those before vary, since each occurrence is one of them for the next.
  induction occurrences generalizing before with
  | nil => trivial
  | cons occurrence later ih =>
      obtain ⟨fit, others⟩ := List.forall_mem_cons.mp fits
      constructor
      · have given : (occurrence.option.takesValue && occurrence.value.isNone) = false := by
          rw [← fit.valued]
          cases occurrence.value <;> rfl
        have first : occurrence.option.isRepeatable = false →
            before.any (fun other => other.option = occurrence.option) = false := by
          intro once
          have few := single occurrence.option once
          rw [among_append, among_cons_same rfl, List.length_append, List.length_cons] at few
          have none : occurrence.option.among before = [] :=
            List.eq_nil_of_length_eq_zero (by omega)
          rw [any_eq_not_isEmpty_among, none]
          rfl
        unfold Progress.fault?
        rw [given]
        cases once : occurrence.option.isRepeatable with
        | true => simpa using fit.path
        | false => simpa [first once] using fit.path
      · apply ih others
        intro option once
        rw [List.append_assoc]
        exact single option once

theorem Occurrence.Written.spells {occurrence : Occurrence} {words : List String}
    (written : occurrence.Written words) (fits : occurrence.Fits subcommand) :
    Spells subcommand words [occurrence] := by
  obtain ⟨known, valued, -, noHelp⟩ := fits
  cases written with
  | joined named => exact .joined known named valued.symm
  | apart named clear =>
      refine .apart known named valued.symm ?_
      rcases clear with rfl | plain
      · exact Or.inl rfl
      · exact Or.inr plain
  | flag named => exact .flag known named valued.symm noHelp
  | verbose => exact .cluster (List.cons_ne_nil 'v' []) (.flag known rfl rfl noHelp .done)

/-- Written options with operands behind two dashes are a line. -/
theorem line_of_written {spelled : List (List String)}
    (written : List.Forall₂ Occurrence.Written occurrences spelled)
    (fits : ∀ occurrence ∈ occurrences, occurrence.Fits subcommand) (operands : List String) :
    Line subcommand (spelled.flatten ++ "--" :: operands) occurrences operands := by
  induction written with
  | nil => exact .escape operands
  | cons first others ih =>
      obtain ⟨fit, later⟩ := List.forall_mem_cons.mp fits
      rw [List.flatten_cons, List.append_assoc]
      exact .options (first.spells fit) (ih later)

theorem Invocation.Expressible.admits (expressible : invocation.Expressible) :
    invocation.subcommand.Admits invocation.task.operands.length ∧
      (invocation.subcommand.needsOperand = true → invocation.task.operands ≠ []) := by
  have types := expressible.types
  rw [expressible.subcommand]
  cases task : invocation.task with
  | query question =>
      have one : ∀ limit, (Task.query question).subcommand.operandLimit = some limit →
          limit = 1 := by
        cases question <;> simp [Task.subcommand, Subcommand.operandLimit, eq_comm]
      exact ⟨fun limit limited => (one limit limited).ge, fun _ => List.cons_ne_nil _ _⟩
  | layout _ json => exact ⟨nofun, fun _ => types _ json task⟩
  | bindings => exact ⟨fun limit _ => Nat.zero_le limit, nofun⟩

end Acceptance

/-- **A command line is read as it is written.** All that an invocation says is written as options
in any of their orders, each as one word or as two, and then as operands behind two dashes. What
is read is the invocation, with a verbosity of 255 at most. -/
theorem ofWords_arranged {invocation : Invocation} (expressible : invocation.Expressible)
    {occurrences : List Occurrence} (arranged : invocation.Arranges occurrences)
    {spelled : List (List String)}
    (written : List.Forall₂ Occurrence.Written occurrences spelled) :
    Invocation.ofWords
        (invocation.subcommand.name :: (spelled.flatten ++ "--" :: invocation.task.operands)) =
      .ok { invocation with verbosity := min invocation.verbosity 255 } := by
  have fits : ∀ occurrence ∈ occurrences, occurrence.Fits invocation.subcommand :=
    fun occurrence member => expressible.fits occurrence (arranged.subperm.subset member)
  have faultless : Progress.Faultless [] occurrences := by
    apply faultless_of_fits fits
    intro option single
    exact ((arranged.subperm.filter _).length_le).trans (invocation.length_among_le_one single)
  have scans : scan invocation.subcommand
      (spelled.flatten ++ "--" :: invocation.task.operands) =
        .ok ⟨occurrences, invocation.task.operands⟩ :=
    scan_eq_ok_iff.mpr ⟨line_of_written written fits _, faultless, expressible.admits⟩
  exact Invocation.ofWords_name_eq_ok_iff.mpr
    ⟨_, scans, (arranged.ofScanned_eq expressible).symm⟩

/-- Declarations of a constant and a type, with values that look like options. -/
def dashedInvocation : Invocation where
  subcommand := .bindings
  verbosity := 2
  overrides := ⟨["a.h", "-b.h"], ["inc"], none, ["--", "-O2"], none, none⟩
  task := .bindings [.signedConstant "A", .typeAlias "t"] "pub" (some "o.rs") true

/-- Options of all kinds stand among each other, the flags in one word and in two. -/
theorem ofWords_arranged_dashed :
    Invocation.ofWords ["bindings", "--output", "o.rs", "--const=A", "-v", "--cflag", "--",
      "--type", "t", "--header=a.h", "--json", "--cflag=-O2", "-v", "--header=-b.h",
      "--include", "inc", "--"] = .ok dashedInvocation := by
  have expressible : dashedInvocation.Expressible :=
    ⟨rfl, by decide, nofun, nofun, by decide, nofun⟩
  let occurrences : List Occurrence :=
    [⟨.output, some "o.rs"⟩, ⟨.signedConst, some "A"⟩, ⟨.verbose, none⟩, ⟨.cflag, some "--"⟩,
      ⟨.aliasType, some "t"⟩, ⟨.header, some "a.h"⟩, ⟨.json, none⟩, ⟨.cflag, some "-O2"⟩,
      ⟨.verbose, none⟩, ⟨.header, some "-b.h"⟩, ⟨.includeDir, some "inc"⟩]
  have arranged : dashedInvocation.Arranges occurrences := by
    refine ⟨Or.inr (by decide), ?_, rfl⟩
    intro option repeatable
    cases option with
    | compiler | workDir | config | unsigned | json | visibility | output | help =>
        cases repeatable
    | header | includeDir | cflag | verbose | aliasType | signedConst | unsignedConst => rfl
  have plain : ∀ value ∈ ["o.rs", "t", "inc"], IsPlain value := by
    intro value member
    left
    revert value
    decide
  have written : List.Forall₂ Occurrence.Written occurrences _ :=
    .cons (.apart (rfl : OptionName.long? .output = some "output")
      (Or.inr (plain "o.rs" (by decide)))) <|
    .cons (.joined (rfl : OptionName.long? .signedConst = some "const")) <|
    .cons .verbose <|
    .cons (.apart (rfl : OptionName.long? .cflag = some "cflag") (Or.inl rfl)) <|
    .cons (.apart (rfl : OptionName.long? .aliasType = some "type")
      (Or.inr (plain "t" (by decide)))) <|
    .cons (.joined (rfl : OptionName.long? .header = some "header")) <|
    .cons (.flag (rfl : OptionName.long? .json = some "json")) <|
    .cons (.joined (rfl : OptionName.long? .cflag = some "cflag")) <|
    .cons .verbose <|
    .cons (.joined (rfl : OptionName.long? .header = some "header")) <|
    .cons (.apart (rfl : OptionName.long? .includeDir = some "include")
      (Or.inr (plain "inc" (by decide)))) <|
    .nil
  exact ofWords_arranged expressible arranged written

end AbiProbe.CommandLine
