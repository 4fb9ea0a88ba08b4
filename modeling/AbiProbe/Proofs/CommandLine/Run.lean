import AbiProbe.CommandLine.Run
import AbiProbe.Proofs.Outcome
import AbiProbe.Proofs.Probe.Scratch
import AbiProbe.Proofs.Text.Line
import AbiProbe.Toolchain.Script

/-! # What a run leaves behind

A run has all of its result before it writes any of it: until then nothing is written but the log
(`AbiProbe.CommandLine.quiet_produce`). So what a run leaves behind is what writing the result did
and, if it failed, an account of the failure (`AbiProbe.CommandLine.Report.Ends`).
-/

namespace AbiProbe

open Text

/-! ## Journals in which nothing is written -/

/-- Whether an event writes a result. -/
def Event.isWriting : Event → Bool
  | .printed _ => true
  | .wrote _ _ => true
  | _ => false

theorem join_map_eq_empty {tell : Event → String} {journal : List Event}
    (silent : ∀ event ∈ journal, tell event = "") : String.join (journal.map tell) = "" := by
  rw [← String.toList_inj, String.toList_join, String.toList_empty, List.flatMap_map,
    List.flatMap_eq_nil_iff]
  intro event member
  rw [silent event member, String.toList_empty]

/-- Nothing is written but the log. -/
def Quiet (journal : List Event) : Prop :=
  ∀ event ∈ journal, event.isWriting = false ∧ event.complaint = ""

namespace Quiet

variable {journal first second : List Event}

theorem nil : Quiet [] := nofun

theorem append (quiet : Quiet first) (also : Quiet second) : Quiet (first ++ second) :=
  List.forall_mem_append.mpr ⟨quiet, also⟩

theorem of_isLogged_or_isCommand
    (only : ∀ event ∈ journal, event.isLogged = true ∨ event.isCommand = true) :
    Quiet journal := by
  intro event member
  have inside := only event member
  cases event with
  | printed bytes => rcases inside with logged | command <;> contradiction
  | complained text => rcases inside with logged | command <;> contradiction
  | wrote location content => rcases inside with logged | command <;> contradiction
  | _ => exact ⟨rfl, rfl⟩

theorem accumulates : Accumulates Quiet :=
  ⟨nil, append⟩

theorem logged (record : Log.Record) : Quiet [.logged record] :=
  List.forall_mem_singleton.mpr ⟨rfl, rfl⟩

theorem checkRun (probe : Probe) (source : String) : Quiet (probe.checkRun source).journal := by
  have opened : Quiet [.scratchOpened source] := List.forall_mem_singleton.mpr ⟨rfl, rfl⟩
  have closed (result : Except SystemError Unit) : Quiet [.scratchClosed result] :=
    List.forall_mem_singleton.mpr ⟨rfl, rfl⟩
  have tried (path : String) : Quiet (probe.tryOut source path).journal :=
    of_isLogged_or_isCommand (probe.forall_mem_tryOut source path)
  unfold Probe.checkRun Probe.inScratch
  cases probe.makeScratch source with
  | ok path => exact opened.append ((tried path).append (closed _))
  | error fault =>
      cases fault with
      | unmade reason => exact nil
      | unwritten reason => exact opened.append (closed _)

theorem flatMap_output (quiet : Quiet journal) : journal.flatMap Event.output = [] := by
  refine List.flatMap_eq_nil_iff.mpr fun event member => ?_
  have silent := (quiet event member).1
  cases event with
  | printed bytes => cases silent
  | _ => rfl

theorem join_complaint (quiet : Quiet journal) :
    String.join (journal.map Event.complaint) = "" :=
  join_map_eq_empty fun event member => (quiet event member).2

theorem foldl_after (quiet : Quiet journal) (tree : FileTree) :
    journal.foldl FileTree.after tree = tree := by
  induction journal with
  | nil => rfl
  | cons event journal ih =>
      obtain ⟨silent, rest⟩ := List.forall_mem_cons.mp quiet
      have unchanged : tree.after event = tree := by
        cases event with
        | wrote location content => cases silent.1
        | _ => rfl
      rw [List.foldl_cons, unchanged, ih rest]

/-- What is said of the log ends its lines. -/
theorem terminated_said (quiet : Quiet journal) :
    Terminated (String.join (journal.map Event.said)).toList := by
  refine Terminated.join fun text member => ?_
  obtain ⟨event, present, rfl⟩ := List.mem_map.mp member
  have silent := (quiet event present).2
  cases event with
  | logged record =>
      change Terminated record.text.toList
      rw [Log.Record.text, String.toList_append]
      exact terminated_concat _
  | complained text =>
      change Terminated (Event.complaint (.complained text)).toList
      rw [silent]
      exact terminated_nil
  | _ => exact terminated_nil

end Quiet

namespace CommandLine

variable {host : Host} {log : Log.Filter} {overrides : Overrides} {task : Task}

/-! ## Getting a result -/

/-- A run up to the result that is to be written. -/
def produce (host : Host) (log : Log.Filter) (overrides : Overrides) (task : Task) :
    Inquiry Failure String :=
  openProbe host log overrides >>= fun probe => task.result probe

/-- Until there is a probe nothing happens that is not of the log. -/
theorem isLogged_of_mem_openProbe :
    ∀ event ∈ (openProbe host log overrides).journal, event.isLogged = true := by
  refine Inquiry.forall_mem_journal_bind nofun fun config => ?_
  refine Inquiry.forall_mem_journal_bind (fun _ => Inquiry.isLogged_of_mem_tell) fun _ => ?_
  exact Inquiry.forall_mem_journal_bind (fun _ => Inquiry.isLogged_of_mem_tell) fun _ => nofun

section Accumulating

variable {Holds : List Event → Prop} (accumulates : Accumulates Holds)

include accumulates

theorem holds_layoutsOf {probe : Probe}
    (performed : ∀ operation, Holds (probe.perform operation).journal) (types : List String) :
    Holds (layoutsOf probe types).journal := by
  induction types with
  | nil => exact accumulates.nil
  | cons cType types ih =>
      rw [layoutsOf, List.mapM_cons]
      refine accumulates.bind (performed (.layout cType)) fun layout _ => ?_
      exact accumulates.bind ih fun layouts _ => accumulates.nil

theorem holds_result {probe : Probe}
    (performed : ∀ operation, Holds (probe.perform operation).journal) (task : Task) :
    Holds (task.result probe).journal := by
  cases task with
  | query question =>
      exact accumulates.bind (performed (.query question)) fun line _ => accumulates.nil
  | layout types json =>
      have laidOut := holds_layoutsOf accumulates performed types
      exact accumulates.bind laidOut fun layouts _ => accumulates.nil
  | bindings requests visibility output json =>
      exact accumulates.bind (performed (.generate requests)) fun bindings _ => accumulates.nil

/-- What holds of each record and of the operations of the probe holds of all that happens before
there is a result. -/
theorem holds_produce (logged : ∀ record, Holds [.logged record])
    (performed : ∀ probe, (openProbe host log overrides).outcome = .ok probe →
      ∀ operation, Holds (probe.perform operation).journal) (task : Task) :
    Holds (produce host log overrides task).journal := by
  have before : Holds (openProbe host log overrides).journal := by
    refine accumulates.of_events fun event member => ?_
    have recorded := isLogged_of_mem_openProbe event member
    cases event with
    | logged record => exact logged record
    | _ => cases recorded
  exact accumulates.bind before fun probe opened =>
    holds_result accumulates (performed probe opened) task

end Accumulating

/-- **Nothing is written before all of the result is known,** the log apart. -/
theorem quiet_produce (host : Host) (log : Log.Filter) (overrides : Overrides) (task : Task) :
    Quiet (produce host log overrides task).journal :=
  holds_produce Quiet.accumulates Quiet.logged
    (fun probe _ => Quiet.accumulates.perform Quiet.logged (Quiet.checkRun probe)) task

/-- A run that is asked for something gets a result and then writes it. -/
theorem run_eq (host : Host) (log : Log.Filter) (overrides : Overrides)
    (asked : task.isVoid = false) :
    run host log overrides task =
      produce host log overrides task >>= deliver host task.output? := by
  rw [run, if_neg (by simp [asked]), produce, bind_assoc]

theorem run_of_isVoid (void : task.isVoid = true) :
    run host log overrides task = Inquiry.settled (.error .nothingRequested) :=
  if_pos void

/-! ## Ends of a run -/

/-- The exit code for how a run ends. -/
def exitCodeOf : Except Failure Unit → UInt8
  | .ok () => 0
  | .error failure => failure.exitCode

/-- What is told on the standard error of how a run ends. -/
def accountOf (host : Host) : Except Failure Unit → String
  | .ok () => ""
  | .error failure => failure.account host

/-- What happens when a run has ended. -/
def epilogue (host : Host) : Except Failure Unit → List Event
  | .ok () => []
  | .error failure => [.complained (failure.account host)]

/-- A run that first does something quietly, then writes a result as far as that goes, and ends
with that. -/
structure Report.Ends (report : Report) (host : Host) (before delivery : List Event)
    (ending : Except Failure Unit) : Prop where
  exitCode : report.exitCode = exitCodeOf ending
  found : report.found = host.files
  journal : report.journal = before ++ (delivery ++ epilogue host ending)
  quiet : Quiet before
  written : ∀ event ∈ delivery, event.isWriting = true

theorem compilesIn_append (first second : List Event) :
    compilesIn (first ++ second) = compilesIn first ++ compilesIn second :=
  List.filterMap_append

theorem compilesIn_eq_nil_of_isWriting {delivery : List Event}
    (written : ∀ event ∈ delivery, event.isWriting = true) : compilesIn delivery = [] := by
  refine List.filterMap_eq_nil_iff.mpr fun event member => ?_
  have writing := written event member
  cases event with
  | printed bytes => rfl
  | wrote location content => rfl
  | _ => cases writing

theorem compilesIn_epilogue (host : Host) (ending : Except Failure Unit) :
    compilesIn (epilogue host ending) = [] := by
  cases ending <;> rfl

/-- What is written to the standard output or to a file is not said on the standard error. -/
theorem said_eq_of_isWriting {event : Event} (writing : event.isWriting = true) :
    event.said = "" ∧ event.complaint = "" := by
  cases event with
  | printed bytes => exact ⟨rfl, rfl⟩
  | wrote location content => exact ⟨rfl, rfl⟩
  | _ => cases writing

namespace Report.Ends

variable {report : Report} {before delivery : List Event} {ending : Except Failure Unit}
  (ends : report.Ends host before delivery ending)

include ends

theorem stdout : report.stdout = delivery.flatMap Event.output := by
  have nothing : (epilogue host ending).flatMap Event.output = [] := by cases ending <;> rfl
  rw [Report.stdout, ends.journal, List.flatMap_append, List.flatMap_append,
    ends.quiet.flatMap_output, nothing, List.nil_append, List.append_nil]

theorem files : report.files = delivery.foldl FileTree.after host.files := by
  have nothing (tree : FileTree) : (epilogue host ending).foldl FileTree.after tree = tree := by
    cases ending <;> rfl
  rw [Report.files, ends.journal, ends.found, List.foldl_append, List.foldl_append,
    ends.quiet.foldl_after, nothing]

theorem complaints : report.complaints = accountOf host ending := by
  have silent := join_map_eq_empty fun event member =>
    (said_eq_of_isWriting (ends.written event member)).2
  have account : String.join ((epilogue host ending).map Event.complaint) =
      accountOf host ending := by
    cases ending with
    | ok done => rfl
    | error failure => exact String.empty_append
  rw [Report.complaints, ends.journal, List.map_append, List.map_append, String.join_append,
    String.join_append, ends.quiet.join_complaint, silent, account, String.empty_append,
    String.empty_append]

theorem compiles : report.compiles = compilesIn before := by
  rw [Report.compiles, ends.journal, compilesIn_append, compilesIn_append,
    compilesIn_eq_nil_of_isWriting ends.written, compilesIn_epilogue, List.append_nil,
    List.append_nil]

/-- The account of an end follows the lines of the log. -/
theorem stderr : ∃ front, Terminated front ∧
    report.stderr.toList = front ++ (accountOf host ending).toList := by
  have silent := join_map_eq_empty fun event member =>
    (said_eq_of_isWriting (ends.written event member)).1
  have account : String.join ((epilogue host ending).map Event.said) = accountOf host ending := by
    cases ending with
    | ok done => rfl
    | error failure => exact String.empty_append
  refine ⟨(String.join (before.map Event.said)).toList, ends.quiet.terminated_said, ?_⟩
  rw [Report.stderr, ends.journal, List.map_append, List.map_append, String.join_append,
    String.join_append, silent, account, String.empty_append, String.toList_append]

end Report.Ends

/-! ## Writing a result -/

theorem isWriting_of_mem_deliver {output : Option String} {text : String} {event : Event}
    (member : event ∈ (deliver host output text).journal) : event.isWriting = true := by
  cases output with
  | none =>
      obtain rfl := List.mem_singleton.mp member
      rfl
  | some path =>
      unfold deliver writeFile at member
      dsimp only at member
      split at member
      · cases member
      · unfold Host.receive at member
        dsimp only at member
        split at member
        · obtain rfl := List.mem_singleton.mp member
          rfl
        · cases member
        · obtain rfl := List.mem_singleton.mp member
          rfl

theorem conclude_ends {inquiry : Inquiry Failure Unit} {before delivery : List Event}
    {ending : Except Failure Unit} (journal : inquiry.journal = before ++ delivery)
    (outcome : inquiry.outcome = ending) (quiet : Quiet before)
    (written : ∀ event ∈ delivery, event.isWriting = true) :
    (conclude host inquiry).Ends host before delivery ending := by
  subst outcome
  unfold conclude
  split
  · rename_i succeeded
    rw [succeeded]
    refine ⟨rfl, rfl, ?_, quiet, written⟩
    rw [journal]
    exact congrArg (before ++ ·) (List.append_nil delivery).symm
  · rename_i failure failed
    rw [failed]
    refine ⟨rfl, rfl, ?_, quiet, written⟩
    rw [journal, List.append_assoc]
    rfl

/-- A run that is asked for nothing fails. -/
theorem run_ends_of_isVoid (void : task.isVoid = true) :
    (conclude host (run host log overrides task)).Ends host [] [] (.error .nothingRequested) := by
  rw [run_of_isVoid void]
  exact conclude_ends rfl rfl Quiet.nil nofun

/-- Without a result nothing is written, and the failure is that of getting the result. -/
theorem run_ends_of_failed {failure : Failure} (asked : task.isVoid = false)
    (failed : (produce host log overrides task).outcome = .error failure) :
    (conclude host (run host log overrides task)).Ends host
      (produce host log overrides task).journal [] (.error failure) := by
  rw [run_eq host log overrides asked, Inquiry.bind_error failed]
  exact conclude_ends (List.append_nil _).symm rfl (quiet_produce host log overrides task) nofun

/-- With a result a run ends as writing the result ends. -/
theorem run_ends_of_produced {text : String} (asked : task.isVoid = false)
    (produced : (produce host log overrides task).outcome = .ok text) :
    (conclude host (run host log overrides task)).Ends host
      (produce host log overrides task).journal (deliver host task.output? text).journal
      (deliver host task.output? text).outcome := by
  rw [run_eq host log overrides asked, Inquiry.bind_ok produced]
  exact conclude_ends rfl rfl (quiet_produce host log overrides task)
    fun _ => isWriting_of_mem_deliver

/-- Every run ends somehow, before it gets a result or after. -/
theorem exists_run_ends (host : Host) (log : Log.Filter) (overrides : Overrides) (task : Task) :
    ∃ before delivery ending,
      (conclude host (run host log overrides task)).Ends host before delivery ending ∧
        (before = [] ∨ before = (produce host log overrides task).journal) := by
  cases asked : task.isVoid with
  | true => exact ⟨_, _, _, run_ends_of_isVoid asked, Or.inl rfl⟩
  | false =>
      cases ended : (produce host log overrides task).outcome with
      | error failure => exact ⟨_, _, _, run_ends_of_failed asked ended, Or.inr rfl⟩
      | ok text => exact ⟨_, _, _, run_ends_of_produced asked ended, Or.inr rfl⟩

/-! ## Getting a probe -/

theorem compilesIn_openProbe (host : Host) (log : Log.Filter) (overrides : Overrides) :
    compilesIn (openProbe host log overrides).journal = [] := by
  refine List.filterMap_eq_nil_iff.mpr fun event member => ?_
  have logged := isLogged_of_mem_openProbe event member
  cases event with
  | logged record => rfl
  | _ => cases logged

/-- Without a probe there is no result, and nothing is compiled for it. -/
theorem produce_of_unopened {failure : Failure}
    (unopened : (openProbe host log overrides).outcome = .error failure) (task : Task) :
    (produce host log overrides task).outcome = .error failure ∧
      compilesIn (produce host log overrides task).journal = [] := by
  rw [produce, Inquiry.bind_error unopened]
  exact ⟨rfl, compilesIn_openProbe host log overrides⟩

/-- With a probe the result is what the probe is asked for. -/
theorem produce_of_opened {probe : Probe}
    (opened : (openProbe host log overrides).outcome = .ok probe) (task : Task) :
    (produce host log overrides task).outcome = (task.result probe).outcome ∧
      compilesIn (produce host log overrides task).journal =
        compilesIn (task.result probe).journal := by
  rw [produce, Inquiry.bind_ok opened, compilesIn_append, compilesIn_openProbe, List.nil_append]
  exact ⟨rfl, rfl⟩

/-! ## Programs -/

theorem execute_of_parsed {words : List String} {invocation : Invocation}
    (parsed : Invocation.ofWords words = .ok invocation) (host : Host) :
    execute host words = .ok (conclude host
      (run host (.ofRun invocation.verbosity host.logFilter) invocation.overrides
        invocation.task)) := by
  rw [execute, parsed]
  rfl

/-- A machine with a compiler and a directory for scratch, on which every program prints a given
text. -/
def printingHost (text : String) : Host where
  files := ⟨[(["tmp"], .directory), (["usr", "bin", "cc"], .file [])], ["home"]⟩
  env := ⟨none, none⟩
  logFilter := none
  tempDir := "/tmp"
  commands := ["cc"]
  programs := [["usr", "bin", "cc"]]
  toolchain :=
    { compile := fun _ => .ok (Toolchain.printed 0 "" ""),
      run := fun _ => .ok (Toolchain.printed 0 text "") }
  stdout := .endless
  storage _ := .endless
  crashNote message := message ++ "\n"

end CommandLine

end AbiProbe
