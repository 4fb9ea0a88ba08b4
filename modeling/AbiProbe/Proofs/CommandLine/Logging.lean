import AbiProbe.Proofs.CommandLine.Run
import AbiProbe.Proofs.Probe.Operation

/-! # The log does not interfere

How much of the log is shown is said on the command line or in the environment. A filter decides
of each record, where the record comes up, whether it gets into the log. So an inquiry under two
filters should have the same outcome, and its journals should be what the filters let through of
one and the same journal (`AbiProbe.Inquiry.SameButLog`). Single commands are so, as well as
whatever is put together from inquiries that are so: questions, operations of a probe, lists of
them and runs of the program. Hence two runs that differ only in how much of the log they show
leave the same behind (`AbiProbe.CommandLine.execute_same_but_log`).
-/

namespace AbiProbe

/-- Whether an event happens under a filter: anything but a record the filter does not show. -/
def Log.Filter.lets (log : Log.Filter) : Event → Bool
  | .logged record => log.shows record
  | _ => true

/-- Two journals that are what two filters let through of one. -/
def ShowParts (log other : Log.Filter) (journal also : List Event) : Prop :=
  ∃ all : List Event, journal = all.filter log.lets ∧ also = all.filter other.lets

/-- Two inquiries that are the same under different filters: they end alike, and the filters let
through what happens of the same journal. -/
structure Inquiry.SameButLog (log other : Log.Filter) {ε α : Type} (inquiry also : Inquiry ε α) :
    Prop where
  outcome : also.outcome = inquiry.outcome
  journal : ShowParts log other inquiry.journal also.journal

/-- The same probe with another log. -/
def Probe.under (probe : Probe) (log : Log.Filter) : Probe :=
  { probe with log }

variable {log other : Log.Filter}

/-! ## Journals under filters -/

namespace ShowParts

variable {first second firstToo secondToo : List Event}

theorem of_unlogged {journal : List Event}
    (unlogged : ∀ event ∈ journal, event.isLogged = false) : ShowParts log other journal journal := by
  have passes (filter : Log.Filter) : journal.filter filter.lets = journal := by
    refine List.filter_eq_self.mpr fun event member => ?_
    have present := unlogged event member
    cases event with
    | logged record => cases present
    | _ => rfl
  exact ⟨journal, (passes log).symm, (passes other).symm⟩

theorem nil : ShowParts log other [] [] :=
  of_unlogged nofun

theorem append (parts : ShowParts log other first firstToo)
    (more : ShowParts log other second secondToo) :
    ShowParts log other (first ++ second) (firstToo ++ secondToo) := by
  obtain ⟨all, rfl, rfl⟩ := parts
  obtain ⟨rest, rfl, rfl⟩ := more
  exact ⟨all ++ rest, (List.filter_append ..).symm, (List.filter_append ..).symm⟩

/-- What is gathered from everything but records is gathered from both alike. -/
theorem flatMap_eq {α : Type} {tell : Event → List α} (mute : ∀ record, tell (.logged record) = [])
    (parts : ShowParts log other first firstToo) : firstToo.flatMap tell = first.flatMap tell := by
  have drops (filter : Log.Filter) (journal : List Event) :
      (journal.filter filter.lets).flatMap tell = journal.flatMap tell := by
    induction journal with
    | nil => rfl
    | cons event journal ih =>
        rw [List.filter_cons]
        split
        · rw [List.flatMap_cons, List.flatMap_cons, ih]
        · rename_i hidden
          cases event with
          | logged record => rw [ih, List.flatMap_cons, mute, List.nil_append]
          | _ => exact absurd rfl hidden
  obtain ⟨all, rfl, rfl⟩ := parts
  rw [drops, drops]

/-- What changes with everything but records changes with both alike. -/
theorem foldl_eq {α : Type} {change : α → Event → α}
    (mute : ∀ state record, change state (.logged record) = state)
    (parts : ShowParts log other first firstToo) (start : α) :
    firstToo.foldl change start = first.foldl change start := by
  have drops (filter : Log.Filter) :
      (fun state event => if filter.lets event = true then change state event else state) =
        change := by
    funext state event
    cases event with
    | logged record => rw [mute, ite_self]
    | _ => rfl
  obtain ⟨all, rfl, rfl⟩ := parts
  rw [List.foldl_filter, List.foldl_filter, drops, drops]

end ShowParts

/-! ## Inquiries under filters -/

namespace Inquiry.SameButLog

variable {ε ε' α β : Type}

theorem of_unlogged {inquiry : Inquiry ε α}
    (unlogged : ∀ event ∈ inquiry.journal, event.isLogged = false) :
    SameButLog log other inquiry inquiry :=
  ⟨rfl, .of_unlogged unlogged⟩

theorem settled (outcome : Except ε α) :
    SameButLog log other (Inquiry.settled outcome) (Inquiry.settled outcome) :=
  of_unlogged nofun

theorem note {event : Event} (unlogged : event.isLogged = false) :
    SameButLog log other (Inquiry.note event : Inquiry ε Unit) (Inquiry.note event) :=
  of_unlogged (List.forall_mem_singleton.mpr unlogged)

theorem tell (record : Log.Record) :
    SameButLog log other (Inquiry.tell log record : Inquiry ε Unit)
      (Inquiry.tell other record) := by
  have single (filter : Log.Filter) : (Inquiry.tell filter record : Inquiry ε Unit).journal =
      [Event.logged record].filter filter.lets := by
    rw [List.filter_cons, List.filter_nil]
    rfl
  exact ⟨rfl, [.logged record], single log, single other⟩

theorem bind {first firstToo : Inquiry ε α} {next nextToo : α → Inquiry ε β}
    (same : SameButLog log other first firstToo)
    (more : ∀ answer, SameButLog log other (next answer) (nextToo answer)) :
    SameButLog log other (first >>= next) (firstToo >>= nextToo) := by
  cases ended : first.outcome with
  | error error =>
      rw [Inquiry.bind_error ended, Inquiry.bind_error (same.outcome.trans ended)]
      exact ⟨rfl, same.journal⟩
  | ok answer =>
      rw [Inquiry.bind_ok ended, Inquiry.bind_ok (same.outcome.trans ended)]
      exact ⟨(more answer).outcome, same.journal.append (more answer).journal⟩

theorem mapError {inquiry also : Inquiry ε α} (same : SameButLog log other inquiry also)
    (tell : ε → ε') : SameButLog log other (inquiry.mapError tell) (also.mapError tell) :=
  ⟨congrArg (Except.mapError tell) same.outcome, same.journal⟩

theorem recover {inquiry also : Inquiry ε α} {tell : α → β} {resume resumeToo : ε → Inquiry ε' β}
    (same : SameButLog log other inquiry also)
    (more : ∀ error, SameButLog log other (resume error) (resumeToo error)) :
    SameButLog log other (inquiry.recover tell resume) (also.recover tell resumeToo) := by
  cases ended : inquiry.outcome with
  | ok answer =>
      rw [Inquiry.recover_ok ended, Inquiry.recover_ok (same.outcome.trans ended)]
      exact ⟨rfl, same.journal⟩
  | error error =>
      rw [Inquiry.recover_error ended, Inquiry.recover_error (same.outcome.trans ended)]
      exact ⟨(more error).outcome, same.journal.append (more error).journal⟩

end Inquiry.SameButLog

/-! ## Probes under filters -/

namespace Probe

open Inquiry (SameButLog)

variable (probe : Probe)

theorem sameButLog_inScratch {α : Type} (source : String)
    {inside insideToo : String → Inquiry SystemError α}
    (same : ∀ path, SameButLog log other (inside path) (insideToo path)) :
    SameButLog log other ((probe.under log).inScratch source inside)
      ((probe.under other).inScratch source insideToo) := by
  have one {event : Event} (unlogged : event.isLogged = false) :
      ShowParts log other [event] [event] :=
    .of_unlogged (List.forall_mem_singleton.mpr unlogged)
  have made (filter : Log.Filter) :
      (probe.under filter).makeScratch source = probe.makeScratch source := rfl
  unfold Probe.inScratch
  rw [made, made]
  cases probe.makeScratch source with
  | error fault =>
      cases fault with
      | unmade reason => exact .settled _
      | unwritten reason => exact ⟨rfl, (one rfl).append (one rfl)⟩
  | ok path =>
      refine ⟨?_, (one rfl).append ((same path).journal.append (one rfl))⟩
      change (insideToo path).outcome.bind _ = (inside path).outcome.bind _
      rw [(same path).outcome]
      rfl

theorem sameButLog_compileSource (path source : String) :
    SameButLog log other ((probe.under log).compileSource path source)
      ((probe.under other).compileSource path source) := by
  refine SameButLog.bind (.note rfl) fun _ => ?_
  refine SameButLog.bind (.settled _) fun compiled => ?_
  exact SameButLog.bind (.tell _) fun _ => .settled _

theorem sameButLog_runProgram (path source : String) :
    SameButLog log other ((probe.under log).runProgram path source)
      ((probe.under other).runProgram path source) := by
  refine SameButLog.bind (.note rfl) fun _ => ?_
  refine SameButLog.bind (.settled _) fun ran => ?_
  exact SameButLog.bind (.tell _) fun _ => .settled _

theorem sameButLog_tryOut (source path : String) :
    SameButLog log other ((probe.under log).tryOut source path)
      ((probe.under other).tryOut source path) := by
  refine SameButLog.bind (probe.sameButLog_compileSource path source) fun compiled => ?_
  cases compiled.status.isSuccess with
  | true => exact (probe.sameButLog_runProgram path source).bind fun ran => .settled _
  | false => exact .settled _

theorem sameButLog_checkRun (source : String) :
    SameButLog log other ((probe.under log).checkRun source)
      ((probe.under other).checkRun source) :=
  probe.sameButLog_inScratch source (probe.sameButLog_tryOut source)

/-- A question is the same under all filters, and so is whatever is put together from questions
and records. -/
theorem congruent_sameButLog :
    Congruent (probe.under log) (probe.under other) (SameButLog log other) where
  posed aspect name := by
    refine SameButLog.bind (.tell _) fun _ => ?_
    refine SameButLog.bind ((probe.sameButLog_checkRun _).mapError _) fun trial => ?_
    exact SameButLog.bind (.settled _) fun printed => .settled _
  answered _ := .settled _
  refused _ _ := .settled _
  told := .tell
  bind := .bind

theorem sameButLog_ifCompiles {α : Type} {inquiry also : Inquiry ProbeError α}
    (same : SameButLog log other inquiry also) :
    SameButLog log other ((probe.under log).ifCompiles inquiry)
      ((probe.under other).ifCompiles also) := by
  refine same.recover fun error => ?_
  cases error with
  | compile output => exact SameButLog.bind (.tell _) fun _ => .settled _
  | _ => exact .settled _

theorem sameButLog_layoutOf (cType : String) :
    SameButLog log other ((probe.under log).layoutOf cType)
      ((probe.under other).layoutOf cType) :=
  probe.congruent_sameButLog.layoutOf probe.sameButLog_ifCompiles cType

end Probe

/-! ## Runs under filters -/

namespace CommandLine

open Inquiry (SameButLog)

variable {host : Host} {overrides : Overrides}

theorem sameButLog_layoutsOf (probe : Probe) (types : List String) :
    SameButLog log other (layoutsOf (probe.under log) types)
      (layoutsOf (probe.under other) types) := by
  induction types with
  | nil => exact .settled _
  | cons cType types ih =>
      rw [layoutsOf, layoutsOf, List.mapM_cons, List.mapM_cons]
      refine SameButLog.bind ((probe.sameButLog_layoutOf cType).mapError _) fun layout => ?_
      exact SameButLog.bind ih fun layouts => .settled _

theorem sameButLog_result (probe : Probe) (task : Task) :
    SameButLog log other (task.result (probe.under log)) (task.result (probe.under other)) := by
  have congruent : Probe.Congruent (probe.under log) (probe.under other)
      (SameButLog log other) := probe.congruent_sameButLog
  cases task with
  | query question =>
      exact SameButLog.bind ((congruent.answer question).mapError _) fun line => .settled _
  | layout types json =>
      exact SameButLog.bind (sameButLog_layoutsOf probe types) fun layouts => .settled _
  | bindings requests visibility output json =>
      exact SameButLog.bind ((congruent.generate requests).mapError _) fun bindings => .settled _

/-- Whether there is a probe, and which, has nothing to do with the log. -/
theorem outcome_openProbe (host : Host) (log : Log.Filter) (overrides : Overrides) :
    (openProbe host log overrides).outcome =
      (openProbe host .silent overrides).outcome.map (·.under log) := by
  unfold openProbe
  cases (Config.resolve host.files host.env overrides).mapError Failure.config with
  | error failure => rfl
  | ok config =>
      have made : config.toProbe host.files host.tempDir (host.toolchainFor config) log =
          (config.toProbe host.files host.tempDir (host.toolchainFor config) .silent).map
            (·.under log) := by
        unfold Config.toProbe Probe.inDirectory
        rcases host.files.resolve (config.workDir.getD host.tempDir) with reason | ⟨place, node⟩
        · rfl
        · cases node <;> rfl
      change (config.toProbe host.files host.tempDir (host.toolchainFor config) log).mapError _ =
        ((config.toProbe host.files host.tempDir (host.toolchainFor config) .silent).mapError _).map
          _
      rw [made]
      cases config.toProbe host.files host.tempDir (host.toolchainFor config) .silent <;> rfl

theorem showParts_openProbe (host : Host) (log other : Log.Filter) (overrides : Overrides) :
    ShowParts log other (openProbe host log overrides).journal
      (openProbe host other overrides).journal := by
  unfold openProbe
  cases (Config.resolve host.files host.env overrides).mapError Failure.config with
  | error failure => exact .nil
  | ok config =>
      have tells (record : Log.Record) : SameButLog log other
          (Inquiry.tell log record : Inquiry Failure Unit) (Inquiry.tell other record) := .tell record
      exact .append .nil (.append (tells _).journal (.append (tells _).journal .nil))

/-- A run is the same under all filters up to the result that is to be written. -/
theorem sameButLog_produce (host : Host) (log other : Log.Filter) (overrides : Overrides)
    (task : Task) :
    SameButLog log other (produce host log overrides task)
      (produce host other overrides task) := by
  have parts := showParts_openProbe host log other overrides
  have first := outcome_openProbe host log overrides
  have second := outcome_openProbe host other overrides
  unfold produce
  cases opened : (openProbe host .silent overrides).outcome with
  | error failure =>
      rw [opened] at first second
      rw [Inquiry.bind_error first, Inquiry.bind_error second]
      exact ⟨rfl, parts⟩
  | ok probe =>
      rw [opened] at first second
      rw [Inquiry.bind_ok first, Inquiry.bind_ok second]
      have same : SameButLog log other (task.result (probe.under log))
          (task.result (probe.under other)) := sameButLog_result probe task
      exact ⟨same.outcome, parts.append same.journal⟩

theorem sameButLog_run (host : Host) (log other : Log.Filter) (overrides : Overrides)
    (task : Task) :
    SameButLog log other (run host log overrides task) (run host other overrides task) := by
  cases asked : task.isVoid with
  | true =>
      rw [run_of_isVoid asked, run_of_isVoid asked]
      exact .settled _
  | false =>
      rw [run_eq host log overrides asked, run_eq host other overrides asked]
      refine (sameButLog_produce host log other overrides task).bind fun text => ?_
      refine .of_unlogged fun event member => ?_
      have writing := isWriting_of_mem_deliver member
      cases event with
      | logged record => cases writing
      | _ => rfl

/-! ## What is left under filters -/

/-- Two reports that are the same but for what filters show of the log. -/
structure Report.SameButLog (log other : Log.Filter) (report also : Report) : Prop where
  exitCode : also.exitCode = report.exitCode
  stdout : also.stdout = report.stdout
  files : also.files = report.files
  compiles : also.compiles = report.compiles
  workDir : ∀ workDir : WorkDir, workDir.replay also.journal = workDir.replay report.journal
  /-- What is on the standard error besides the log. -/
  complaints : also.complaints = report.complaints
  /-- The filters let through what they show of one log. -/
  journal : ShowParts log other report.journal also.journal

theorem Report.SameButLog.of_journal {report also : Report}
    (exitCode : also.exitCode = report.exitCode) (found : also.found = report.found)
    (journal : ShowParts log other report.journal also.journal) :
    report.SameButLog log other also where
  exitCode := exitCode
  stdout := journal.flatMap_eq fun record => rfl
  files := by
    rw [Report.files, Report.files, found]
    exact journal.foldl_eq (fun tree record => rfl) report.found
  compiles := by
    rw [Report.compiles, Report.compiles, compilesIn, compilesIn, List.filterMap_eq_flatMap_toList,
      List.filterMap_eq_flatMap_toList]
    exact journal.flatMap_eq fun record => rfl
  workDir := journal.foldl_eq fun workDir record => rfl
  complaints := by
    rw [← String.toList_inj, Report.complaints, Report.complaints, String.toList_join,
      String.toList_join, List.flatMap_map, List.flatMap_map]
    exact journal.flatMap_eq fun record => rfl
  journal := journal

theorem sameButLog_conclude {inquiry also : Inquiry Failure Unit}
    (same : SameButLog log other inquiry also) (host : Host) :
    (conclude host inquiry).SameButLog log other (conclude host also) := by
  unfold conclude
  rw [same.outcome]
  cases inquiry.outcome with
  | ok done => exact .of_journal rfl rfl same.journal
  | error failure =>
      have complained : ShowParts log other [Event.complained (failure.account host)]
          [.complained (failure.account host)] :=
        .of_unlogged (List.forall_mem_singleton.mpr rfl)
      exact .of_journal rfl rfl (same.journal.append complained)

/-- **The log does not interfere.** Two command lines that ask for the same but for their
verbosity, on machines that are the same but for the log filter of their environment, are both
carried out, with the same exit code, output, files, compiles and work directory, and with the same
text on the standard error once the log is taken out. -/
theorem execute_same_but_log (host : Host) (setting : Option String)
    {words otherWords : List String} {invocation : Invocation} {verbosity : Nat}
    (parsed : Invocation.ofWords words = .ok invocation)
    (parsedToo : Invocation.ofWords otherWords = .ok { invocation with verbosity }) :
    ∃ report also, execute host words = .ok report ∧
      execute { host with logFilter := setting } otherWords = .ok also ∧
      report.SameButLog (.ofRun invocation.verbosity host.logFilter) (.ofRun verbosity setting)
        also := by
  refine ⟨_, _, execute_of_parsed parsed host, execute_of_parsed parsedToo _, ?_⟩
  exact sameButLog_conclude (sameButLog_run host _ _ invocation.overrides invocation.task) host

/-- A question without an answer fails the same, whether all of the log is shown or what a filter
that cannot be read leaves of it. -/
theorem execute_same_but_log_size :
    ∃ report also,
      execute (printingHost "many") ["size-of", "-vv", "int"] = .ok report ∧
      execute { printingHost "many" with logFilter := some "a=b=c" } ["size-of", "int"] =
        .ok also ∧
      report.SameButLog (.ofLevel .trace) (.ofLevel .warn) also ∧ report.exitCode = 1 ∧
      also.stderr = also.complaints ∧ report.stderr ≠ report.complaints := by
  let invocation : Invocation :=
    ⟨.sizeOf, 2, ⟨[], [], none, [], none, none⟩, .query (.size "int")⟩
  have parsed : Invocation.ofWords ["size-of", "-vv", "int"] = .ok invocation := rfl
  have parsedToo : Invocation.ofWords ["size-of", "int"] =
      .ok { invocation with verbosity := 0 } := rfl
  let full := conclude (printingHost "many")
    (run (printingHost "many") (.ofLevel .trace) invocation.overrides invocation.task)
  let short := conclude (printingHost "many")
    (run (printingHost "many") (.ofLevel .warn) invocation.overrides invocation.task)
  have fails : full.exitCode = 1 := by decide +kernel
  have shown : full.stderr ≠ full.complaints := by decide +kernel
  have hidden : short.stderr = short.complaints := by decide +kernel
  obtain ⟨report, also, executed, executedToo, same⟩ :=
    execute_same_but_log (printingHost "many") (some "a=b=c") parsed parsedToo
  obtain rfl : full = report := Except.ok.inj ((execute_of_parsed parsed _).symm.trans executed)
  obtain rfl : short = also :=
    Except.ok.inj ((execute_of_parsed parsedToo _).symm.trans executedToo)
  exact ⟨full, short, executed, executedToo, same, fails, hidden, shown⟩

end CommandLine

end AbiProbe
