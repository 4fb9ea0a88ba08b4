import AbiProbe.Probe.Basic

/-! # Trials of a program

A trial compiles a program and runs it when it compiled (`AbiProbe.Probe.commandsOf_tryOut`). It
takes place in a scratch directory: without one no command is started, and where the directory
cannot be removed the outputs of the commands are lost (`AbiProbe.Probe.outcome_checkRun_of_made`).
A question is one trial of its program, and where its scratch directory is made and removed its
outcome is read off what the two commands left (`AbiProbe.Probe.outcome_pose_of_hasScratch`).
-/

namespace AbiProbe

namespace Toolchain

/-- What running the program of a source gives, if the source compiles to one. -/
def runOfCompiled? (toolchain : Toolchain) (source : String) : Option CommandResult :=
  match toolchain.compile source with
  | .error _ => none
  | .ok compiled => if compiled.status.isSuccess then some (toolchain.run source) else none

/-- The outputs of the commands that try a source, or why one of them cannot be started. -/
def trial (toolchain : Toolchain) (source : String) : Except SystemError Trial :=
  (toolchain.compile source).bind fun compiled =>
    match toolchain.runOfCompiled? source with
    | none => .ok ⟨compiled, none⟩
    | some result => result.map fun ran => ⟨compiled, some ran⟩

end Toolchain

/-! ## Commands -/

/-- Whether an event is a command: a compile or a run, also one that could not be started. -/
def Event.isCommand : Event → Bool
  | .compiled _ _ _ => true
  | .ran _ _ => true
  | _ => false

/-- The commands of a journal with what they left, in order. -/
def commandsOf (journal : List Event) : List Event :=
  journal.filter Event.isCommand

@[simp]
theorem commandsOf_nil : commandsOf [] = [] := rfl

@[simp]
theorem commandsOf_append (first second : List Event) :
    commandsOf (first ++ second) = commandsOf first ++ commandsOf second :=
  List.filter_append ..

/-- Only commands are started. -/
theorem startsOf_commandsOf (journal : List Event) :
    startsOf (commandsOf journal) = startsOf journal := by
  have started (event : Event) :
      (if event.isCommand = true then event.start? else none) = event.start? := by
    cases event <;> rfl
  rw [startsOf, commandsOf, List.filterMap_filter, startsOf]
  exact congrArg (List.filterMap · journal) (funext started)

namespace Inquiry

variable {ε α β : Type}

/-- A record in a log is no command. -/
@[simp]
theorem commandsOf_tell (log : Log.Filter) (record : Log.Record) :
    commandsOf (tell log record : Inquiry ε Unit).journal = [] := by
  refine List.filter_eq_nil_iff.mpr fun event member => ?_
  have logged := isLogged_of_mem_tell member
  cases event with
  | logged record => exact Bool.false_ne_true
  | _ => cases logged

@[simp]
theorem startsOf_tell (log : Log.Filter) (record : Log.Record) :
    startsOf (tell log record : Inquiry ε Unit).journal = [] := by
  rw [← startsOf_commandsOf, commandsOf_tell]
  rfl

/-- What is made of an answer starts no further command. -/
theorem startsOf_bind_silent {first : Inquiry ε α} {next : α → Inquiry ε β}
    (silent : ∀ answer, startsOf (next answer).journal = []) :
    startsOf (first >>= next).journal = startsOf first.journal := by
  cases ended : first.outcome with
  | error error => rw [journal_bind_error ended]
  | ok answer => rw [journal_bind_ok ended, startsOf_append, silent answer, List.append_nil]

/-- Where no command follows, the commands are those of the first part. -/
theorem commandsOf_bind_silent {first : Inquiry ε α} {next : α → Inquiry ε β}
    (silent : ∀ answer, commandsOf (next answer).journal = []) :
    commandsOf (first >>= next).journal = commandsOf first.journal := by
  cases ended : first.outcome with
  | error error => rw [journal_bind_error ended]
  | ok answer => rw [journal_bind_ok ended, commandsOf_append, silent answer, List.append_nil]

/-- Where no command comes first, the commands are those of the second part. -/
theorem commandsOf_bind_of_ok {first : Inquiry ε α} {answer : α}
    (answered : first.outcome = .ok answer) (next : α → Inquiry ε β) :
    commandsOf (first >>= next).journal =
      commandsOf first.journal ++ commandsOf (next answer).journal := by
  rw [journal_bind_ok answered, commandsOf_append]

end Inquiry

namespace Probe

variable {probe : Probe} {source path : String}

/-- The commands that try a source in a scratch directory. -/
def trialCommands (probe : Probe) (path source : String) : List Event :=
  .compiled
      (probe.toolchain.command (ScratchSpace.sourcePath path) (ScratchSpace.programPath path))
      source (probe.toolchain.compile source) ::
    ((probe.toolchain.runOfCompiled? source).map (Event.ran source)).toList

/-! ## Inside a scratch directory -/

theorem outcome_compileSource (probe : Probe) (path source : String) :
    (probe.compileSource path source).outcome = probe.toolchain.compile source := by
  simp only [compileSource, Inquiry.outcome_bind, Inquiry.outcome_note, Inquiry.outcome_settled,
    Inquiry.outcome_tell, Inquiry.outcome_pure]
  cases probe.toolchain.compile source <;> rfl

theorem outcome_runProgram (probe : Probe) (path source : String) :
    (probe.runProgram path source).outcome = probe.toolchain.run source := by
  simp only [runProgram, Inquiry.outcome_bind, Inquiry.outcome_note, Inquiry.outcome_settled,
    Inquiry.outcome_tell, Inquiry.outcome_pure]
  cases probe.toolchain.run source <;> rfl

theorem commandsOf_compileSource (probe : Probe) (path source : String) :
    commandsOf (probe.compileSource path source).journal =
      [.compiled
        (probe.toolchain.command (ScratchSpace.sourcePath path) (ScratchSpace.programPath path))
        source (probe.toolchain.compile source)] := by
  unfold compileSource
  dsimp only
  rw [Inquiry.commandsOf_bind_silent]
  · rfl
  · intro _
    rw [Inquiry.commandsOf_bind_silent]
    · rfl
    · intro compiled
      rw [Inquiry.commandsOf_bind_silent fun _ => rfl, Inquiry.commandsOf_tell]

theorem commandsOf_runProgram (probe : Probe) (path source : String) :
    commandsOf (probe.runProgram path source).journal =
      [.ran source (probe.toolchain.run source)] := by
  unfold runProgram
  rw [Inquiry.commandsOf_bind_silent]
  · rfl
  · intro _
    rw [Inquiry.commandsOf_bind_silent]
    · rfl
    · intro ran
      rw [Inquiry.commandsOf_bind_silent fun _ => rfl, Inquiry.commandsOf_tell]

/-- A trial gives the outputs of its commands. -/
theorem outcome_tryOut (probe : Probe) (source path : String) :
    (probe.tryOut source path).outcome = probe.toolchain.trial source := by
  rw [tryOut, Inquiry.outcome_bind, outcome_compileSource, Toolchain.trial,
    Toolchain.runOfCompiled?]
  cases probe.toolchain.compile source with
  | error reason => rfl
  | ok compiled =>
      dsimp only [Except.bind]
      cases compiled.status.isSuccess with
      | false => rfl
      | true =>
          simp only [↓reduceIte, Inquiry.outcome_bind, outcome_runProgram]
          cases probe.toolchain.run source <;> rfl

/-- A trial starts the compiler, and directly after it the program if the source compiled. -/
theorem commandsOf_tryOut (probe : Probe) (source path : String) :
    commandsOf (probe.tryOut source path).journal = probe.trialCommands path source := by
  unfold tryOut trialCommands Toolchain.runOfCompiled?
  cases compile : probe.toolchain.compile source with
  | error reason =>
      have failed : (probe.compileSource path source).outcome = .error reason := by
        rw [outcome_compileSource, compile]
      rw [Inquiry.journal_bind_error failed, commandsOf_compileSource, compile]
      rfl
  | ok compiled =>
      have answered : (probe.compileSource path source).outcome = .ok compiled := by
        rw [outcome_compileSource, compile]
      rw [Inquiry.commandsOf_bind_of_ok answered, commandsOf_compileSource, compile]
      dsimp only
      cases compiled.status.isSuccess with
      | false => rfl
      | true =>
          simp only [↓reduceIte]
          rw [Inquiry.commandsOf_bind_silent fun _ => rfl, commandsOf_runProgram]
          rfl

theorem forall_mem_compileSource (probe : Probe) (path source : String) :
    ∀ event ∈ (probe.compileSource path source).journal,
      event.isLogged = true ∨ event.isCommand = true := by
  refine Inquiry.forall_mem_journal_bind (by simp [Event.isCommand]) fun _ => ?_
  refine Inquiry.forall_mem_journal_bind (by simp) fun compiled => ?_
  exact Inquiry.forall_mem_journal_bind (fun _ member => Or.inl (Inquiry.isLogged_of_mem_tell member))
    (by simp)

theorem forall_mem_runProgram (probe : Probe) (path source : String) :
    ∀ event ∈ (probe.runProgram path source).journal,
      event.isLogged = true ∨ event.isCommand = true := by
  refine Inquiry.forall_mem_journal_bind (by simp [Event.isCommand]) fun _ => ?_
  refine Inquiry.forall_mem_journal_bind (by simp) fun ran => ?_
  exact Inquiry.forall_mem_journal_bind (fun _ member => Or.inl (Inquiry.isLogged_of_mem_tell member))
    (by simp)

/-- Inside a scratch directory commands are started and told of, and nothing else happens. -/
theorem forall_mem_tryOut (probe : Probe) (source path : String) :
    ∀ event ∈ (probe.tryOut source path).journal,
      event.isLogged = true ∨ event.isCommand = true := by
  refine Inquiry.forall_mem_journal_bind (probe.forall_mem_compileSource path source)
    fun compiled => ?_
  cases compiled.status.isSuccess with
  | false => simp
  | true =>
      exact Inquiry.forall_mem_journal_bind (probe.forall_mem_runProgram path source) (by simp)

/-! ## Scratch directories -/

/-- The scratch directory for a source can be made and removed. -/
structure HasScratch (probe : Probe) (source : String) : Prop where
  made : ∃ path, probe.makeScratch source = .ok path
  removed : probe.removeScratch source = .ok ()

section InScratch

variable {α : Type} {inside : String → Inquiry SystemError α}

/-- Without a scratch directory nothing is done in it. -/
theorem outcome_inScratch_of_unmade {fault : ScratchFault}
    (unmade : probe.makeScratch source = .error fault) :
    (probe.inScratch source inside).outcome = .error fault.reason := by
  unfold inScratch
  rw [unmade]
  cases fault <;> rfl

theorem commandsOf_inScratch_of_unmade {fault : ScratchFault}
    (unmade : probe.makeScratch source = .error fault) :
    commandsOf (probe.inScratch source inside).journal = [] := by
  unfold inScratch
  rw [unmade]
  cases fault <;> rfl

/-- A failure to remove a scratch directory comes after all that was done in it. -/
theorem outcome_inScratch_of_made (made : probe.makeScratch source = .ok path) :
    (probe.inScratch source inside).outcome = (inside path).outcome.bind fun answer =>
      (probe.removeScratch source).map fun _ => answer := by
  rw [inScratch, made]

theorem commandsOf_inScratch_of_made (made : probe.makeScratch source = .ok path) :
    commandsOf (probe.inScratch source inside).journal = commandsOf (inside path).journal := by
  rw [inScratch, made]
  change commandsOf ((inside path).journal ++ [.scratchClosed (probe.removeScratch source)]) = _
  rw [commandsOf_append]
  exact List.append_nil _

end InScratch

theorem outcome_checkRun_of_unmade {fault : ScratchFault}
    (unmade : probe.makeScratch source = .error fault) :
    (probe.checkRun source).outcome = .error fault.reason :=
  outcome_inScratch_of_unmade unmade

/-- A check fails when a command cannot be started or the scratch directory not be removed; else
it gives the outputs of its commands. -/
theorem outcome_checkRun_of_made (made : probe.makeScratch source = .ok path) :
    (probe.checkRun source).outcome = (probe.toolchain.trial source).bind fun trial =>
      (probe.removeScratch source).map fun _ => trial := by
  rw [checkRun, outcome_inScratch_of_made made, outcome_tryOut]

theorem outcome_checkRun_of_hasScratch (scratch : probe.HasScratch source) :
    (probe.checkRun source).outcome = probe.toolchain.trial source := by
  obtain ⟨path, made⟩ := scratch.made
  rw [outcome_checkRun_of_made made, scratch.removed]
  cases probe.toolchain.trial source <;> rfl

theorem startsOf_checkRun_of_unmade {fault : ScratchFault}
    (unmade : probe.makeScratch source = .error fault) :
    startsOf (probe.checkRun source).journal = [] := by
  rw [← startsOf_commandsOf, checkRun, commandsOf_inScratch_of_unmade unmade]
  rfl

/-- A check starts the compiler, and then what compiled. -/
theorem startsOf_checkRun_of_made (made : probe.makeScratch source = .ok path) :
    startsOf (probe.checkRun source).journal = .compile source ::
      ((probe.toolchain.runOfCompiled? source).map fun _ => Event.Start.run).toList := by
  rw [← startsOf_commandsOf, checkRun, commandsOf_inScratch_of_made made, commandsOf_tryOut,
    trialCommands]
  cases probe.toolchain.runOfCompiled? source <;> rfl

end Probe

/-! ## Blocks -/

/-- A compile of the program of a question, and the run that follows it if it compiled. -/
structure Block (probe : Probe) where
  aspect : Aspect
  name : String
  /-- The path of the scratch directory. -/
  path : String
  /-- What the compile left. -/
  compiled : CommandResult
  /-- What the run left, if there was one. -/
  ran : Option CommandResult
  /-- The program is run exactly when the compiler was started and ended with exit code zero. -/
  ran_isSome_iff : ran.isSome ↔ ∃ output, compiled = .ok output ∧ output.status = .code 0

namespace Block

variable {probe : Probe}

/-- The source a block compiles. -/
def source (block : Block probe) : String :=
  probe.sourceFor block.aspect block.name

/-- The commands of a block: the compile and, directly behind it, the run. -/
def commands (block : Block probe) : List Event :=
  .compiled
      (probe.toolchain.command (ScratchSpace.sourcePath block.path)
        (ScratchSpace.programPath block.path))
      block.source block.compiled ::
    (block.ran.map (Event.ran block.source)).toList

/-- What the commands of a block answer, or why they do not. -/
def outcome (block : Block probe) : Except ProbeError block.aspect.answer.Value :=
  match block.compiled, block.ran with
  | .error reason, _ => .error (.system reason)
  | .ok compiled, none => .error (.compile compiled)
  | .ok _, some (.error reason) => .error (.system reason)
  | .ok compiled, some (.ok ran) =>
      if ran.status = .code 0 then
        Probe.readAnswer block.aspect (Text.Utf8.decodeLossy ran.stdout)
      else .error (.run compiled ran)

/-- The block gave a value: both commands ended with exit code zero, and what the program
printed was read. -/
def Answered (block : Block probe) : Prop :=
  ∃ value, block.outcome = .ok value

/-- The compiler was started and did not end with exit code zero. -/
def Uncompiled (block : Block probe) : Prop :=
  ∃ output, block.compiled = .ok output ∧ output.status ≠ .code 0

/-- Each command of the block could be started. -/
def Started (block : Block probe) : Prop :=
  ∀ reason, block.compiled ≠ .error reason ∧ block.ran ≠ some (.error reason)

end Block

namespace Probe

/-- The block of a question. -/
def blockOf (probe : Probe) (aspect : Aspect) (name : String) : Block probe where
  aspect := aspect
  name := name
  path := (probe.makeScratch (probe.sourceFor aspect name)).toOption.getD ""
  compiled := probe.toolchain.compile (probe.sourceFor aspect name)
  ran := probe.toolchain.runOfCompiled? (probe.sourceFor aspect name)
  ran_isSome_iff := by
    unfold Toolchain.runOfCompiled?
    cases probe.toolchain.compile (probe.sourceFor aspect name) with
    | error reason => simp
    | ok output => by_cases success : output.status = .code 0 <;> simp [success]

variable {probe : Probe} {aspect : Aspect} {name path : String}

theorem outcome_pose_eq (probe : Probe) (aspect : Aspect) (name : String) :
    (probe.pose aspect name).outcome =
      ((probe.checkRun (probe.sourceFor aspect name)).outcome.mapError .system).bind fun trial =>
        trial.printed.bind (readAnswer aspect) := by
  simp only [pose, Inquiry.outcome_bind, Inquiry.outcome_tell, Inquiry.outcome_mapError,
    Inquiry.outcome_settled]
  rfl

/-- A question has the commands of its trial. -/
theorem commandsOf_pose_eq (probe : Probe) (aspect : Aspect) (name : String) :
    commandsOf (probe.pose aspect name).journal =
      commandsOf (probe.checkRun (probe.sourceFor aspect name)).journal := by
  unfold pose
  dsimp only
  rw [Inquiry.commandsOf_bind_of_ok (Inquiry.outcome_tell _ _), Inquiry.commandsOf_tell,
    List.nil_append, Inquiry.commandsOf_bind_silent, Inquiry.journal_mapError]
  intro trial
  rw [Inquiry.journal_bind_silent fun _ => rfl]
  rfl

/-- A question starts what the check of its program starts. -/
theorem startsOf_pose (probe : Probe) (aspect : Aspect) (name : String) :
    startsOf (probe.pose aspect name).journal =
      startsOf (probe.checkRun (probe.sourceFor aspect name)).journal := by
  rw [← startsOf_commandsOf, commandsOf_pose_eq, startsOf_commandsOf]

/-- A question compiles nothing but its program. -/
theorem eq_sourceFor_of_compile_mem {source : String}
    (compiled : Event.Start.compile source ∈ startsOf (probe.pose aspect name).journal) :
    source = probe.sourceFor aspect name := by
  rw [startsOf_pose] at compiled
  cases made : probe.makeScratch (probe.sourceFor aspect name) with
  | error fault =>
      rw [startsOf_checkRun_of_unmade made] at compiled
      cases compiled
  | ok path =>
      rw [startsOf_checkRun_of_made made, List.mem_cons, Event.Start.compile.injEq,
        Option.mem_toList, Option.map_eq_some_iff] at compiled
      rcases compiled with same | ⟨result, -, run⟩
      · exact same
      · cases run

/-- A question compiles its program where the scratch directory can be made. -/
theorem compile_mem_startsOf_pose
    (made : probe.makeScratch (probe.sourceFor aspect name) = .ok path) :
    Event.Start.compile (probe.sourceFor aspect name) ∈
      startsOf (probe.pose aspect name).journal := by
  rw [startsOf_pose, startsOf_checkRun_of_made made]
  exact List.mem_cons_self

/-- Without a scratch directory for its program, a question starts nothing. -/
theorem commandsOf_pose_of_unmade {fault : ScratchFault}
    (unmade : probe.makeScratch (probe.sourceFor aspect name) = .error fault) :
    commandsOf (probe.pose aspect name).journal = [] := by
  rw [commandsOf_pose_eq, checkRun, commandsOf_inScratch_of_unmade unmade]

theorem outcome_pose_of_unmade {fault : ScratchFault}
    (unmade : probe.makeScratch (probe.sourceFor aspect name) = .error fault) :
    (probe.pose aspect name).outcome = .error (.system fault.reason) := by
  rw [outcome_pose_eq, outcome_checkRun_of_unmade unmade]
  rfl

/-- The commands of a question are those of its block. -/
theorem commandsOf_pose_of_made
    (made : probe.makeScratch (probe.sourceFor aspect name) = .ok path) :
    commandsOf (probe.pose aspect name).journal = (probe.blockOf aspect name).commands := by
  have same : (probe.blockOf aspect name).path = path := by
    rw [blockOf, made]
    rfl
  rw [commandsOf_pose_eq, checkRun, commandsOf_inScratch_of_made made, commandsOf_tryOut,
    Block.commands, same]
  rfl

/-- What is read off the outputs of a trial is the outcome of the block. -/
theorem outcome_blockOf (probe : Probe) (aspect : Aspect) (name : String) :
    (probe.blockOf aspect name).outcome =
      ((probe.toolchain.trial (probe.sourceFor aspect name)).mapError .system).bind fun trial =>
        trial.printed.bind (readAnswer aspect) := by
  unfold Block.outcome blockOf Toolchain.trial Toolchain.runOfCompiled?
  dsimp only
  cases probe.toolchain.compile (probe.sourceFor aspect name) with
  | error reason => rfl
  | ok compiled =>
      by_cases success : compiled.status = .code 0
      · simp only [ExitStatus.isSuccess_iff, success, ↓reduceIte]
        cases probe.toolchain.run (probe.sourceFor aspect name) with
        | error reason => rfl
        | ok ran =>
            change _ = (Trial.printed ⟨compiled, some ran⟩).bind (readAnswer aspect)
            by_cases ended : ran.status = .code 0
            · simp only [Trial.printed, ExitStatus.isSuccess_iff, ended, ↓reduceIte]
              rfl
            · simp only [Trial.printed, ExitStatus.isSuccess_iff, ended, ↓reduceIte]
              rfl
      · simp only [ExitStatus.isSuccess_iff, success, ↓reduceIte]
        rfl

/-- A question whose scratch directory is made and removed has the outcome of its block. -/
theorem outcome_pose_of_hasScratch
    (scratch : probe.HasScratch (probe.sourceFor aspect name)) :
    (probe.pose aspect name).outcome = (probe.blockOf aspect name).outcome := by
  rw [outcome_pose_eq, outcome_checkRun_of_hasScratch scratch, outcome_blockOf]

theorem started_blockOf_iff :
    (probe.blockOf aspect name).Started ↔
      ∃ trial, probe.toolchain.trial (probe.sourceFor aspect name) = .ok trial := by
  unfold Block.Started blockOf Toolchain.trial Toolchain.runOfCompiled?
  dsimp only
  cases probe.toolchain.compile (probe.sourceFor aspect name) with
  | error reason => simp [Except.bind]
  | ok compiled =>
      by_cases success : compiled.status = .code 0
      · cases probe.toolchain.run (probe.sourceFor aspect name) <;>
          simp [success, Except.bind, Except.map]
      · simp [success, Except.bind]

/-- A question in a scratch directory has the outcome of its block, unless its commands could be
started and the directory cannot be removed. -/
theorem outcome_pose_of_made
    (made : probe.makeScratch (probe.sourceFor aspect name) = .ok path) :
    (probe.pose aspect name).outcome = (probe.blockOf aspect name).outcome ∨
      ∃ reason, probe.removeScratch (probe.sourceFor aspect name) = .error reason ∧
        (probe.blockOf aspect name).Started ∧
        (probe.pose aspect name).outcome = .error (.system reason) := by
  cases removed : probe.removeScratch (probe.sourceFor aspect name) with
  | ok done => exact Or.inl (outcome_pose_of_hasScratch ⟨⟨path, made⟩, removed⟩)
  | error reason =>
      rw [outcome_pose_eq, outcome_checkRun_of_made made, outcome_blockOf, removed,
        started_blockOf_iff]
      cases probe.toolchain.trial (probe.sourceFor aspect name) with
      | error unstarted => exact Or.inl rfl
      | ok trial => exact Or.inr ⟨reason, rfl, ⟨trial, rfl⟩, rfl⟩

/-- Unless it fails with an error of the system, a question has its scratch directory. -/
theorem hasScratch_of_outcome_pose {result : Except ProbeError aspect.answer.Value}
    (ended : (probe.pose aspect name).outcome = result)
    (unfailing : ∀ reason, result ≠ .error (.system reason)) :
    probe.HasScratch (probe.sourceFor aspect name) := by
  subst ended
  cases made : probe.makeScratch (probe.sourceFor aspect name) with
  | error fault => exact (unfailing _ (outcome_pose_of_unmade made)).elim
  | ok path =>
      refine ⟨⟨path, made⟩, ?_⟩
      cases removed : probe.removeScratch (probe.sourceFor aspect name) with
      | ok done => rfl
      | error reason =>
          rw [outcome_pose_eq, outcome_checkRun_of_made made, removed] at unfailing
          cases tried : probe.toolchain.trial (probe.sourceFor aspect name) with
          | error unstarted =>
              rw [tried] at unfailing
              exact (unfailing unstarted rfl).elim
          | ok trial =>
              rw [tried] at unfailing
              exact (unfailing reason rfl).elim

/-- A question that does not refuse its name is posed. -/
theorem ask_eq_pose_of_accepted {aspect : Aspect} {name : String}
    (accepted : aspect = .definedness → Identifier.isIdentifier name = true) (probe : Probe) :
    probe.ask aspect name = probe.pose aspect name := by
  apply if_neg
  rintro ⟨defined, unshaped⟩
  rw [accepted defined] at unshaped
  cases unshaped

/-- Every aspect but the definedness of a macro can be asked of any text. -/
theorem ask_eq_pose {probe : Probe} {aspect : Aspect} (differs : aspect ≠ .definedness)
    (text : String) : probe.ask aspect text = probe.pose aspect text :=
  ask_eq_pose_of_accepted (fun same => absurd same differs) probe

end Probe

end AbiProbe
