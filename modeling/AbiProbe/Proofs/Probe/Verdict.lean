import AbiProbe.Proofs.Probe.Printed

/-! # The outcome of a question

The two checks of a source agree on what compiling it gives, and the one that also runs it does so
exactly where it compiled (`AbiProbe.Probe.ChecksAgree`). Neither compiles a source that has no
scratch directory (`AbiProbe.Probe.checkRun_fails_uncompiled`). A question ends in one of eight
ways, told apart by its scratch directory and by what its compile and its run left
(`AbiProbe.Probe.Ends`), so it depends on a toolchain only through its own program
(`AbiProbe.Probe.ask_ends`).
-/

namespace AbiProbe

/-- A source that compiles, with the output of the compiler. -/
structure Toolchain.Accepts (toolchain : Toolchain) (source : String) (compiled : Output) :
    Prop where
  compile : toolchain.compile source = .ok compiled
  succeeded : compiled.status = .code 0

namespace Toolchain

variable {toolchain other : Toolchain} {source : String} {compiled : Output}

theorem runOfCompiled?_of_accepts (accepts : toolchain.Accepts source compiled) :
    toolchain.runOfCompiled? source = some (toolchain.run source) := by
  rw [runOfCompiled?, accepts.compile]
  exact if_pos (ExitStatus.isSuccess_iff.mpr accepts.succeeded)

theorem runOfCompiled?_of_not_accepts (rejects : ¬∃ compiled, toolchain.Accepts source compiled) :
    toolchain.runOfCompiled? source = none := by
  unfold runOfCompiled?
  split
  · rfl
  · rename_i compiled compile
    refine if_neg fun succeeded => rejects ⟨compiled, compile, ?_⟩
    exact ExitStatus.isSuccess_iff.mp succeeded

/-- What a compile left tells whether the source compiled. -/
theorem not_accepts_of_failed (compile : toolchain.compile source = .ok compiled)
    (failed : compiled.status ≠ .code 0) : ¬∃ compiled, toolchain.Accepts source compiled := by
  rintro ⟨other, accepts⟩
  obtain rfl : compiled = other := Except.ok.inj (compile.symm.trans accepts.compile)
  exact failed accepts.succeeded

theorem not_accepts_of_error {reason : SystemError}
    (compile : toolchain.compile source = .error reason) :
    ¬∃ compiled, toolchain.Accepts source compiled := by
  rintro ⟨compiled, accepts⟩
  cases compile.symm.trans accepts.compile

/-- A compile cannot be started, or does not succeed, or is of a source that compiles. -/
theorem compile_cases (toolchain : Toolchain) (source : String) :
    (∃ reason, toolchain.compile source = .error reason) ∨
      (∃ compiled, toolchain.compile source = .ok compiled ∧ compiled.status ≠ .code 0) ∨
      ∃ compiled, toolchain.Accepts source compiled := by
  cases compile : toolchain.compile source with
  | error reason => exact Or.inl ⟨reason, rfl⟩
  | ok compiled =>
      by_cases succeeded : compiled.status = .code 0
      · exact Or.inr (Or.inr ⟨compiled, compile, succeeded⟩)
      · exact Or.inr (Or.inl ⟨compiled, rfl, succeeded⟩)

/-- The trial of a source, by what its commands left. -/
theorem trial_of_error {reason : SystemError}
    (compile : toolchain.compile source = .error reason) :
    toolchain.trial source = .error reason := by
  rw [trial, compile]
  rfl

theorem trial_of_failed (compile : toolchain.compile source = .ok compiled)
    (failed : compiled.status ≠ .code 0) : toolchain.trial source = .ok ⟨compiled, none⟩ := by
  rw [trial, compile, runOfCompiled?_of_not_accepts (not_accepts_of_failed compile failed)]
  rfl

theorem trial_of_accepts (accepts : toolchain.Accepts source compiled) :
    toolchain.trial source = (toolchain.run source).map fun ran => ⟨compiled, some ran⟩ := by
  rw [trial, accepts.compile, runOfCompiled?_of_accepts accepts]
  rfl

/-- A trial fails with the error of the compile, or of the run of what compiled. -/
theorem trial_eq_error_iff {reason : SystemError} :
    toolchain.trial source = .error reason ↔
      toolchain.compile source = .error reason ∨
        (∃ compiled, toolchain.Accepts source compiled) ∧
          toolchain.run source = .error reason := by
  rcases toolchain.compile_cases source with
    ⟨other, compile⟩ | ⟨compiled, compile, failed⟩ | ⟨compiled, accepts⟩
  · have unaccepted := not_accepts_of_error compile
    rw [trial_of_error compile, compile]
    simp only [Except.error.injEq, unaccepted, false_and, or_false]
  · have unaccepted := not_accepts_of_failed compile failed
    rw [trial_of_failed compile failed, compile]
    simp only [reduceCtorEq, unaccepted, false_and, or_false]
  · have accepted : ∃ compiled, toolchain.Accepts source compiled := ⟨compiled, accepts⟩
    rw [trial_of_accepts accepts, accepts.compile]
    cases toolchain.run source <;>
      simp only [Except.map, Except.error.injEq, reduceCtorEq, accepted, true_and, false_or]

/-- Otherwise it gives the output of the compiler, and that of the run where there was one. -/
theorem of_trial_eq_ok {trial : Trial} (tried : toolchain.trial source = .ok trial) :
    toolchain.compile source = .ok trial.compiled ∧
      (trial.ran = none ↔ trial.compiled.status ≠ .code 0) ∧
      ∀ ran, trial.ran = some ran → toolchain.run source = .ok ran := by
  rcases toolchain.compile_cases source with
    ⟨other, compile⟩ | ⟨compiled, compile, failed⟩ | ⟨compiled, accepts⟩
  · rw [trial_of_error compile] at tried
    cases tried
  · rw [trial_of_failed compile failed] at tried
    cases tried
    exact ⟨compile, iff_of_true rfl failed, nofun⟩
  · rw [trial_of_accepts accepts] at tried
    cases run : toolchain.run source with
    | error reason =>
        rw [run] at tried
        cases tried
    | ok output =>
        rw [run] at tried
        cases tried
        refine ⟨accepts.compile, iff_of_false nofun (not_not.mpr accepts.succeeded), ?_⟩
        rintro ran ⟨⟩
        rfl

/-- Two toolchains that leave the same for a source in a work directory, as far as it is tried. -/
structure AgreesOn (toolchain other : Toolchain) (workDir source : String) : Prop where
  make : other.scratch.make workDir source = toolchain.scratch.make workDir source
  remove : other.scratch.remove workDir source = toolchain.scratch.remove workDir source
  command : ∀ path, toolchain.scratch.make workDir source = .ok path →
    other.command (ScratchSpace.sourcePath path) (ScratchSpace.programPath path) =
      toolchain.command (ScratchSpace.sourcePath path) (ScratchSpace.programPath path)
  compile : other.compile source = toolchain.compile source
  run : (∃ compiled, toolchain.Accepts source compiled) →
    other.run source = toolchain.run source

end Toolchain

namespace Probe

variable {probe : Probe} {aspect : Aspect} {name source path : String}

/-! ## Checks of a source -/

theorem startsOf_checkCompile_of_unmade {fault : ScratchFault}
    (unmade : probe.makeScratch source = .error fault) :
    startsOf (probe.checkCompile source).journal = [] := by
  rw [← startsOf_commandsOf, checkCompile, commandsOf_inScratch_of_unmade unmade]
  rfl

theorem startsOf_checkCompile_of_made (made : probe.makeScratch source = .ok path) :
    startsOf (probe.checkCompile source).journal = [.compile source] := by
  rw [← startsOf_commandsOf, checkCompile, commandsOf_inScratch_of_made made,
    commandsOf_compileSource]
  rfl

theorem outcome_checkCompile_of_made (made : probe.makeScratch source = .ok path) :
    (probe.checkCompile source).outcome = (probe.toolchain.compile source).bind fun compiled =>
      (probe.removeScratch source).map fun _ => compiled := by
  rw [checkCompile, outcome_inScratch_of_made made, outcome_compileSource]

/-- The check that compiles a source and the check that also runs it agree, where they have a
scratch directory. -/
structure ChecksAgree (probe : Probe) (source : String) : Prop where
  /-- The one compiles once and runs nothing, -/
  compileStarts : startsOf (probe.checkCompile source).journal = [.compile source]
  /-- and gives what the compiler leaves, unless the scratch directory cannot be removed. -/
  compileOutcome : (probe.checkCompile source).outcome =
    (probe.toolchain.compile source).bind fun compiled =>
      (probe.removeScratch source).map fun _ => compiled
  /-- The other compiles once, and runs what compiled. -/
  acceptedStarts : ∀ compiled, probe.toolchain.Accepts source compiled →
    startsOf (probe.checkRun source).journal = [.compile source, .run]
  rejectedStarts : (¬∃ compiled, probe.toolchain.Accepts source compiled) →
    startsOf (probe.checkRun source).journal = [.compile source]
  /-- It fails with the error of the compile, or of the run of what compiled, or where there was
  no such error with that of removing the scratch directory. -/
  fails : ∀ reason, (probe.checkRun source).outcome = .error reason ↔
    probe.toolchain.compile source = .error reason ∨
      ((∃ compiled, probe.toolchain.Accepts source compiled) ∧
        probe.toolchain.run source = .error reason) ∨
      ((∃ trial, probe.toolchain.trial source = .ok trial) ∧
        probe.removeScratch source = .error reason)
  /-- Otherwise it gives what the first check gives, and the output of the run where there was
  one. -/
  answers : ∀ trial, (probe.checkRun source).outcome = .ok trial →
    (probe.checkCompile source).outcome = .ok trial.compiled ∧
      (trial.ran = none ↔ trial.compiled.status ≠ .code 0) ∧
      ∀ ran, trial.ran = some ran → probe.toolchain.run source = .ok ran

theorem checksAgree (made : probe.makeScratch source = .ok path) :
    probe.ChecksAgree source where
  compileStarts := startsOf_checkCompile_of_made made
  compileOutcome := outcome_checkCompile_of_made made
  acceptedStarts compiled accepts := by
    rw [startsOf_checkRun_of_made made, Toolchain.runOfCompiled?_of_accepts accepts]
    rfl
  rejectedStarts rejects := by
    rw [startsOf_checkRun_of_made made, Toolchain.runOfCompiled?_of_not_accepts rejects]
    rfl
  fails reason := by
    rw [← or_assoc, ← Toolchain.trial_eq_error_iff, outcome_checkRun_of_made made]
    cases probe.toolchain.trial source with
    | error unstarted => simp [Except.bind]
    | ok trial => cases probe.removeScratch source <;> simp [Except.bind, Except.map]
  answers trial answered := by
    rw [outcome_checkRun_of_made made] at answered
    rw [outcome_checkCompile_of_made made]
    obtain ⟨tried, removed⟩ : probe.toolchain.trial source = .ok trial ∧
        probe.removeScratch source = .ok () := by
      cases tried : probe.toolchain.trial source with
      | error unstarted =>
          rw [tried] at answered
          cases answered
      | ok other =>
          rw [tried] at answered
          cases removed : probe.removeScratch source with
          | error reason =>
              rw [removed] at answered
              cases answered
          | ok done =>
              rw [removed] at answered
              cases answered
              exact ⟨rfl, rfl⟩
    obtain ⟨compile, none, ran⟩ := Toolchain.of_trial_eq_ok tried
    rw [compile, removed]
    exact ⟨rfl, none, ran⟩

/-- A trial depends on the toolchain only through what it leaves for the source. -/
theorem tryOut_congr {other : Toolchain}
    (agrees : probe.toolchain.AgreesOn other probe.workDir source)
    (made : probe.makeScratch source = .ok path) :
    { probe with toolchain := other }.tryOut source path = probe.tryOut source path := by
  have compiles : { probe with toolchain := other }.compileSource path source =
      probe.compileSource path source := by
    simp only [compileSource, agrees.command path made, agrees.compile]
  unfold tryOut
  rw [compiles]
  rcases probe.toolchain.compile_cases source with
    ⟨reason, compile⟩ | ⟨compiled, compile, failed⟩ | ⟨compiled, accepts⟩
  · have failed := (outcome_compileSource probe path source).trans compile
    rw [Inquiry.bind_error failed, Inquiry.bind_error failed]
  · have answered := (outcome_compileSource probe path source).trans compile
    simp only [Inquiry.bind_ok answered, ExitStatus.isSuccess_iff, failed, ↓reduceIte]
  · have answered := (outcome_compileSource probe path source).trans accepts.compile
    have runs : { probe with toolchain := other }.runProgram path source =
        probe.runProgram path source := by
      simp only [runProgram, agrees.run ⟨compiled, accepts⟩]
    rw [Inquiry.bind_ok answered, Inquiry.bind_ok answered, runs]

/-- A check depends on the toolchain only through what it leaves for the source. -/
theorem checkRun_congr {other : Toolchain}
    (agrees : probe.toolchain.AgreesOn other probe.workDir source) :
    { probe with toolchain := other }.checkRun source = probe.checkRun source := by
  have makes : { probe with toolchain := other }.makeScratch source = probe.makeScratch source :=
    agrees.make
  have removes : { probe with toolchain := other }.removeScratch source =
      probe.removeScratch source := agrees.remove
  unfold checkRun inScratch
  rw [makes, removes]
  cases made : probe.makeScratch source with
  | error fault => cases fault <;> rfl
  | ok path => simp only [tryOut_congr agrees made]

/-! ## Ends of a question -/

/-- The ways in which a question ends. -/
inductive Ends (probe : Probe) (aspect : Aspect) (name : String) :
    Except ProbeError aspect.answer.Value → Prop
  /-- There is no scratch directory for the program. -/
  | unmade {fault : ScratchFault}
      (unmade : probe.makeScratch (probe.sourceFor aspect name) = .error fault) :
      Ends probe aspect name (.error (.system fault.reason))
  /-- The compiler cannot be started. -/
  | uncompilable {path : String} {reason : SystemError}
      (made : probe.makeScratch (probe.sourceFor aspect name) = .ok path)
      (compile : probe.toolchain.compile (probe.sourceFor aspect name) = .error reason) :
      Ends probe aspect name (.error (.system reason))
  /-- What compiled cannot be started. -/
  | unrunnable {path : String} {compiled : Output} {reason : SystemError}
      (made : probe.makeScratch (probe.sourceFor aspect name) = .ok path)
      (accepts : probe.toolchain.Accepts (probe.sourceFor aspect name) compiled)
      (run : probe.toolchain.run (probe.sourceFor aspect name) = .error reason) :
      Ends probe aspect name (.error (.system reason))
  /-- All commands were started, and the scratch directory cannot be removed. -/
  | unremoved {path : String} {trial : Trial} {reason : SystemError}
      (made : probe.makeScratch (probe.sourceFor aspect name) = .ok path)
      (tried : probe.toolchain.trial (probe.sourceFor aspect name) = .ok trial)
      (unremoved : probe.removeScratch (probe.sourceFor aspect name) = .error reason) :
      Ends probe aspect name (.error (.system reason))
  /-- The program does not compile. -/
  | rejected {compiled : Output} (scratch : probe.HasScratch (probe.sourceFor aspect name))
      (compile : probe.toolchain.compile (probe.sourceFor aspect name) = .ok compiled)
      (failed : compiled.status ≠ .code 0) :
      Ends probe aspect name (.error (.compile compiled))
  /-- The run does not succeed. -/
  | stopped {compiled ran : Output} (scratch : probe.HasScratch (probe.sourceFor aspect name))
      (accepts : probe.toolchain.Accepts (probe.sourceFor aspect name) compiled)
      (run : probe.toolchain.run (probe.sourceFor aspect name) = .ok ran)
      (failed : ran.status ≠ .code 0) :
      Ends probe aspect name (.error (.run compiled ran))
  /-- What the run printed is no value of the type. -/
  | unread {stdout : List UInt8} (prints : probe.Prints aspect name stdout)
      (unread : aspect.answer.read? (printedText stdout) = none) :
      Ends probe aspect name
        (.error (.unexpectedOutput (String.ofList (printedText stdout)) aspect.answer.name))
  /-- What the run printed is a value of the type. -/
  | answered {stdout : List UInt8} {value : aspect.answer.Value}
      (prints : probe.Prints aspect name stdout)
      (read : aspect.answer.read? (printedText stdout) = some value) :
      Ends probe aspect name (.ok value)

/-- A question fails where its trial does. -/
theorem outcome_pose_of_trial_eq_error {reason : SystemError}
    (made : probe.makeScratch (probe.sourceFor aspect name) = .ok path)
    (failed : probe.toolchain.trial (probe.sourceFor aspect name) = .error reason) :
    (probe.pose aspect name).outcome = .error (.system reason) := by
  rw [outcome_pose_eq, outcome_checkRun_of_made made, failed]
  rfl

theorem outcome_pose_of_trial_eq_ok {trial : Trial}
    (scratch : probe.HasScratch (probe.sourceFor aspect name))
    (tried : probe.toolchain.trial (probe.sourceFor aspect name) = .ok trial) :
    (probe.pose aspect name).outcome = trial.printed.bind (readAnswer aspect) := by
  rw [outcome_pose_eq, outcome_checkRun_of_hasScratch scratch, tried]
  rfl

theorem outcome_pose_of_ends {result : Except ProbeError aspect.answer.Value}
    (ends : probe.Ends aspect name result) : (probe.pose aspect name).outcome = result := by
  cases ends with
  | unmade unmade => exact outcome_pose_of_unmade unmade
  | uncompilable made compile =>
      exact outcome_pose_of_trial_eq_error made (Toolchain.trial_of_error compile)
  | unrunnable made accepts run =>
      refine outcome_pose_of_trial_eq_error made ?_
      rw [Toolchain.trial_of_accepts accepts, run]
      rfl
  | unremoved made tried unremoved =>
      rw [outcome_pose_eq, outcome_checkRun_of_made made, tried, unremoved]
      rfl
  | rejected scratch compile failed =>
      exact outcome_pose_of_trial_eq_ok scratch (Toolchain.trial_of_failed compile failed)
  | @stopped compiled ran scratch accepts run failed =>
      have tried : probe.toolchain.trial (probe.sourceFor aspect name) =
          .ok ⟨compiled, some ran⟩ := by
        rw [Toolchain.trial_of_accepts accepts, run]
        rfl
      rw [outcome_pose_of_trial_eq_ok scratch tried, Trial.printed]
      simp only [ExitStatus.isSuccess_iff, failed, ↓reduceIte]
      rfl
  | unread prints unread => rw [outcome_pose_of_prints prints, readAnswer_eq_error unread]
  | answered prints read => rw [outcome_pose_of_prints prints, readAnswer_eq_ok_iff.mpr read]

/-- Where the scratch directory is made and removed, the commands tell how a question ends. -/
theorem exists_ends_of_hasScratch
    (scratch : probe.HasScratch (probe.sourceFor aspect name)) :
    ∃ result, probe.Ends aspect name result := by
  obtain ⟨path, made⟩ := scratch.made
  rcases probe.toolchain.compile_cases (probe.sourceFor aspect name) with
    ⟨reason, compile⟩ | ⟨compiled, compile, failed⟩ | ⟨compiled, accepts⟩
  · exact ⟨_, .uncompilable made compile⟩
  · exact ⟨_, .rejected scratch compile failed⟩
  cases run : probe.toolchain.run (probe.sourceFor aspect name) with
  | error reason => exact ⟨_, .unrunnable made accepts run⟩
  | ok ran =>
      by_cases succeeded : ran.status = .code 0
      · have prints : probe.Prints aspect name ran.stdout :=
          ⟨scratch, ⟨compiled, accepts.compile, accepts.succeeded⟩, ⟨ran, run, succeeded, rfl⟩⟩
        cases read : aspect.answer.read? (printedText ran.stdout) with
        | none => exact ⟨_, .unread prints read⟩
        | some value => exact ⟨_, .answered prints read⟩
      · exact ⟨_, .stopped scratch accepts run succeeded⟩

/-- Every question ends in one of the ways. -/
theorem exists_ends (probe : Probe) (aspect : Aspect) (name : String) :
    ∃ result, probe.Ends aspect name result := by
  cases made : probe.makeScratch (probe.sourceFor aspect name) with
  | error fault => exact ⟨_, .unmade made⟩
  | ok path =>
      cases removed : probe.removeScratch (probe.sourceFor aspect name) with
      | ok done => exact exists_ends_of_hasScratch ⟨⟨path, made⟩, removed⟩
      | error reason =>
          cases tried : probe.toolchain.trial (probe.sourceFor aspect name) with
          | ok trial => exact ⟨_, .unremoved made tried removed⟩
          | error unstarted =>
              rcases Toolchain.trial_eq_error_iff.mp tried with compile | ⟨⟨compiled, accepts⟩, run⟩
              · exact ⟨_, .uncompilable made compile⟩
              · exact ⟨_, .unrunnable made accepts run⟩

theorem outcome_pose_iff_ends {result : Except ProbeError aspect.answer.Value} :
    (probe.pose aspect name).outcome = result ↔ probe.Ends aspect name result := by
  constructor
  · rintro rfl
    obtain ⟨result, ends⟩ := exists_ends probe aspect name
    rw [outcome_pose_of_ends ends]
    exact ends
  · exact outcome_pose_of_ends

/-- A question depends on the toolchain only through what it leaves for its program. -/
theorem ask_congr {other : Toolchain}
    (agrees : probe.toolchain.AgreesOn other probe.workDir (probe.sourceFor aspect name)) :
    { probe with toolchain := other }.ask aspect name = probe.ask aspect name := by
  have source : { probe with toolchain := other }.sourceFor aspect name =
      probe.sourceFor aspect name := rfl
  simp only [ask, pose, source, checkRun_congr agrees]

/-- **A question ends as its scratch directory, its compile and its run tell, and depends on
nothing else.** Without a scratch directory both checks of a source fail alike and start nothing;
with one they agree. -/
theorem ask_ends (probe : Probe) :
    (∀ source fault, probe.makeScratch source = .error fault →
      startsOf (probe.checkCompile source).journal = [] ∧
      (probe.checkCompile source).outcome = .error fault.reason ∧
      startsOf (probe.checkRun source).journal = [] ∧
      (probe.checkRun source).outcome = .error fault.reason) ∧
    (∀ source path, probe.makeScratch source = .ok path → probe.ChecksAgree source) ∧
    (∀ aspect name, (aspect = .definedness → Identifier.isIdentifier name = true) →
      ∀ result, (probe.ask aspect name).outcome = result ↔ probe.Ends aspect name result) ∧
    (∀ aspect name other,
      probe.toolchain.AgreesOn other probe.workDir (probe.sourceFor aspect name) →
      { probe with toolchain := other }.ask aspect name = probe.ask aspect name) := by
  refine ⟨fun source fault unmade => ?_, fun source path => checksAgree, ?_,
    fun aspect name other => ask_congr⟩
  · exact ⟨startsOf_checkCompile_of_unmade unmade, outcome_inScratch_of_unmade unmade,
      startsOf_checkRun_of_unmade unmade, outcome_checkRun_of_unmade unmade⟩
  · intro aspect name accepted result
    rw [ask_eq_pose_of_accepted accepted]
    exact outcome_pose_iff_ends

/-- A probe whose programs all compile, print the same bytes and are killed by a signal. -/
def killed (number : Nat) (stdout : List UInt8) : Probe where
  includes := .ofHeaders []
  workDir := "."
  toolchain := {
    compile := fun _ => .ok ⟨.code 0, [], []⟩
    run := fun _ => .ok ⟨.signal number true, stdout, []⟩ }

/-- A program that is killed has no answer, whatever it printed before. -/
theorem ask_ends_killed :
    ((killed 11 (Text.Utf8.encode "4\n")).ask .size "int").outcome =
      .error (.run ⟨.code 0, [], []⟩ ⟨.signal 11 true, Text.Utf8.encode "4\n", []⟩) := by
  obtain ⟨-, -, ends, -⟩ := ask_ends (killed 11 (Text.Utf8.encode "4\n"))
  exact (ends .size "int" nofun _).mpr (.stopped ⟨⟨_, rfl⟩, rfl⟩ ⟨rfl, rfl⟩ rfl nofun)

/-- **A check need not compile.** Where no path to a source is short enough, a source that compiles
and runs is neither compiled nor run, and both checks of it fail. -/
theorem checkRun_fails_uncompiled :
    let probe := printingIn longTempDir (Text.Utf8.encode "4\n")
    let source := probe.sourceFor .size "int"
    (∃ compiled, probe.toolchain.Accepts source compiled) ∧
      (∃ ran, probe.toolchain.run source = .ok ran) ∧
      startsOf (probe.checkRun source).journal = [] ∧
      (probe.checkRun source).outcome = .error .nameTooLong ∧
      (probe.checkCompile source).outcome = .error .nameTooLong := by
  intro probe source
  have unmade := makeScratch_longTempDir (Text.Utf8.encode "4\n") source
  exact ⟨⟨_, rfl, rfl⟩, ⟨_, rfl⟩, startsOf_checkRun_of_unmade unmade,
    outcome_checkRun_of_unmade unmade, outcome_inScratch_of_unmade unmade⟩

end Probe

end AbiProbe
