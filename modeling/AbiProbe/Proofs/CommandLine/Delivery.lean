import AbiProbe.Proofs.CommandLine.Layouts
import AbiProbe.Proofs.FileTree

/-! # Where a result goes

A run that fails printed nothing, and left all files alone unless it failed in writing the file
for its result. That file loses what it held when it is opened, so it may be left with a beginning
of the result (`AbiProbe.CommandLine.CutShort`). A file for the result has no part in how the
result is come by, so naming one only redirects the result
(`AbiProbe.CommandLine.execute_all_or_nothing`): to the content of the file, or to what a device
does with it (`AbiProbe.CommandLine.Redirects`).
-/

namespace AbiProbe.CommandLine

open Text

variable {host : Host} {log : Log.Filter} {overrides : Overrides} {task : Task}

/-! ## Failures told by the program -/

theorem Failure.exitCode_ne_zero (failure : Failure) : failure.exitCode ≠ 0 := by
  cases failure <;> simp [Failure.exitCode]

/-- Whether a failure is told by the program itself. -/
def Failure.IsTold (failure : Failure) : Prop :=
  ∀ reason, failure ≠ .breakdown reason

namespace Failure.IsTold

variable {failure : Failure}

theorem exitCode (told : failure.IsTold) : failure.exitCode = 1 := by
  cases failure with
  | breakdown reason => exact absurd rfl (told reason)
  | _ => rfl

theorem account (told : failure.IsTold) (host : Host) :
    failure.account host = "error: " ++ failure.message ++ "\n" := by
  cases failure with
  | breakdown reason => exact absurd rfl (told reason)
  | _ => rfl

end Failure.IsTold

/-- Whether a task asks for no table or for one that is not too wide. -/
def Task.IsNarrow : Task → Prop
  | .layout types false => ∀ cType ∈ types, cType.utf8ByteSize ≤ TypeLayout.widthLimit
  | _ => True

theorem mapError_eq_error {ε ε' α : Type} {outcome : Except ε α} {tell : ε → ε'} {error : ε'}
    (failed : outcome.mapError tell = .error error) : ∃ cause, error = tell cause := by
  cases outcome with
  | ok answer => cases failed
  | error cause => exact ⟨cause, (Except.error.inj failed).symm⟩

theorem isTold_of_openProbe {failure : Failure}
    (failed : (openProbe host log overrides).outcome = .error failure) : failure.IsTold := by
  rcases Inquiry.outcome_bind_eq_error_iff.mp failed with unresolved | ⟨config, -, later⟩
  · obtain ⟨cause, rfl⟩ := mapError_eq_error unresolved
    exact nofun
  · rcases Inquiry.outcome_bind_eq_error_iff.mp later with impossible | ⟨_, -, last⟩
    · cases impossible
    · rcases Inquiry.outcome_bind_eq_error_iff.mp last with impossible | ⟨_, -, unmade⟩
      · cases impossible
      · obtain ⟨cause, rfl⟩ := mapError_eq_error unmade
        exact nofun

/-- Only a table that is too wide breaks a program down before it has its result. -/
theorem isTold_of_result {probe : Probe} {failure : Failure} (narrow : task.IsNarrow)
    (failed : (task.result probe).outcome = .error failure) : failure.IsTold := by
  cases task with
  | query question =>
      rcases Inquiry.outcome_bind_eq_error_iff.mp failed with unanswered | ⟨line, -, impossible⟩
      · obtain ⟨cause, rfl⟩ := mapError_eq_error unanswered
        exact nofun
      · cases impossible
  | bindings requests visibility output json =>
      rcases Inquiry.outcome_bind_eq_error_iff.mp failed with unmade | ⟨bindings, -, impossible⟩
      · obtain ⟨cause, rfl⟩ := mapError_eq_error unmade
        exact nofun
      · cases impossible
  | layout types json =>
      rw [outcome_result_layout] at failed
      rcases probe.laysOut_or_fails types with
        ⟨layouts, laid⟩ | ⟨before, layouts, cType, after, error, rfl, laid, unlaid⟩
      · rw [(layoutsOf_of_laidOut laid).1] at failed
        cases json with
        | true => cases failed
        | false =>
            obtain ⟨text, tabled⟩ := exists_table_of_laidOut laid narrow
            change layoutsText false layouts = .error failure at failed
            rw [layoutsText_table, tabled] at failed
            cases failed
      · rw [(layoutsOf_of_failed laid unlaid after).1] at failed
        obtain rfl := Except.error.inj failed
        exact nofun

theorem isTold_of_produce {failure : Failure} (narrow : task.IsNarrow)
    (failed : (produce host log overrides task).outcome = .error failure) : failure.IsTold := by
  cases opened : (openProbe host log overrides).outcome with
  | error reason =>
      rw [(produce_of_unopened opened task).1] at failed
      obtain rfl := Except.error.inj failed
      exact isTold_of_openProbe opened
  | ok probe =>
      rw [(produce_of_opened opened task).1] at failed
      exact isTold_of_result narrow failed

/-! ## Writing to a file -/

/-- The file a path names was opened, and then holds a beginning of what was to be written. -/
def CutShort (host : Host) (path : String) (bytes : List UInt8) (files : FileTree) : Prop :=
  ∃ location content, host.files.openFile path = .ok location ∧ content <+: bytes ∧
    files = host.files.put location content

theorem writeFile_of_unopened {path : String} {reason : SystemError}
    (unopened : host.files.openFile path = .error reason) (text : String) :
    writeFile host path text = Inquiry.settled (.error (.output path reason)) := by
  rw [writeFile, unopened]

theorem writeFile_of_opened {path : String} {location : Location}
    (opened : host.files.openFile path = .ok location) (text : String) :
    writeFile host path text =
      ⟨host.receive location ((host.sinkAt location).taken (Utf8.encode text)),
        ((host.sinkAt location).verdict (Utf8.encode text)).mapError (.output path)⟩ := by
  rw [writeFile, opened]

/-- An opened file is the standard output, forgets what it takes, or keeps it. -/
theorem receive_cases (host : Host) (location : Location) :
    (host.files.node? location = some (.device .stdout) ∧ host.sinkAt location = host.stdout ∧
      ∀ bytes, host.receive location bytes = [.printed bytes]) ∨
    (host.files.node? location = some (.device .null) ∧
      ∀ bytes, host.receive location bytes = []) ∨
    ((∀ device, host.files.node? location ≠ some (.device device)) ∧
      ∀ bytes, host.receive location bytes = [.wrote location bytes]) := by
  unfold Host.sinkAt Host.receive
  cases host.files.node? location with
  | none => exact Or.inr (Or.inr ⟨nofun, fun bytes => rfl⟩)
  | some node =>
      cases node with
      | device device =>
          cases device with
          | stdout => exact Or.inl ⟨rfl, rfl, fun bytes => rfl⟩
          | null => exact Or.inr (Or.inl ⟨rfl, fun bytes => rfl⟩)
      | file content => exact Or.inr (Or.inr ⟨nofun, fun bytes => rfl⟩)
      | directory => exact Or.inr (Or.inr ⟨nofun, fun bytes => rfl⟩)

section Printing

variable {text : String} (prints : host.stdout.verdict (Utf8.encode text) = .ok ())

include prints

/-- Writing a file that fails prints nothing, and leaves the file alone or cut short. -/
theorem writeFile_failed {path : String} {failure : Failure}
    (failed : (writeFile host path text).outcome = .error failure) :
    failure.IsTold ∧ (writeFile host path text).journal.flatMap Event.output = [] ∧
      ((writeFile host path text).journal.foldl FileTree.after host.files = host.files ∨
        CutShort host path (Utf8.encode text)
          ((writeFile host path text).journal.foldl FileTree.after host.files)) := by
  cases opened : host.files.openFile path with
  | error reason =>
      rw [writeFile_of_unopened opened] at failed ⊢
      obtain rfl := Except.error.inj failed
      exact ⟨nofun, rfl, Or.inl rfl⟩
  | ok location =>
      rw [writeFile_of_opened opened] at failed ⊢
      obtain ⟨reason, rfl⟩ := mapError_eq_error failed
      rcases receive_cases host location with
        ⟨-, isStdout, -⟩ | ⟨-, received⟩ | ⟨-, received⟩
      · rw [isStdout, prints] at failed
        cases failed
      · rw [received]
        exact ⟨nofun, rfl, Or.inl rfl⟩
      · rw [received]
        exact ⟨nofun, rfl, Or.inr ⟨location, _, opened, Sink.taken_prefix _ _, rfl⟩⟩

/-- Writing a result fails in writing a file only. -/
theorem deliver_failed {output : Option String} {failure : Failure}
    (failed : (deliver host output text).outcome = .error failure) :
    failure.IsTold ∧ (deliver host output text).journal.flatMap Event.output = [] ∧
      ((deliver host output text).journal.foldl FileTree.after host.files = host.files ∨
        ∃ path, output = some path ∧ CutShort host path (Utf8.encode text)
          ((deliver host output text).journal.foldl FileTree.after host.files)) := by
  cases output with
  | none =>
      change (host.stdout.verdict (Utf8.encode text)).mapError _ = _ at failed
      rw [prints] at failed
      cases failed
  | some path =>
      obtain ⟨told, silent, left⟩ := writeFile_failed prints failed
      exact ⟨told, silent, left.imp_right fun short => ⟨path, rfl, short⟩⟩

end Printing

/-! ## Failed runs -/

/-- A program that failed printed nothing and told of an error in a line of its own. -/
structure Report.Fails (report : Report) : Prop where
  exitCode : report.exitCode = 1
  stdout : report.stdout = []
  told : ∃ line ∈ linesOf report.stderr, "error: ".toList <+: line.toList

theorem Report.Ends.fails {report : Report} {before delivery : List Event} {failure : Failure}
    (ends : report.Ends host before delivery (.error failure)) (told : failure.IsTold)
    (silent : delivery.flatMap Event.output = []) : report.Fails := by
  refine ⟨ends.exitCode.trans told.exitCode, ends.stdout.trans silent, ?_⟩
  obtain ⟨front, terminated, stderr⟩ := ends.stderr
  have account : (accountOf host (.error failure)).toList =
      "error: ".toList ++ (failure.message ++ "\n").toList := by
    rw [← String.toList_append, ← String.append_assoc]
    exact congrArg String.toList (told.account host)
  obtain ⟨line, member, begins⟩ :=
    exists_line_of_append "error: ".toList (by decide) (by decide) (by decide)
      (failure.message ++ "\n").toList
  refine ⟨String.ofList line, ?_, ?_⟩
  · rw [linesOf, stderr, account, lines_append terminated]
    exact List.mem_map_of_mem (List.mem_append_right _ member)
  · rwa [String.toList_ofList (l := line)]

/-- Whether the standard output takes the result of a run, if it has one. -/
def Printable (host : Host) (log : Log.Filter) (overrides : Overrides) (task : Task) : Prop :=
  ∀ text, (produce host log overrides task).outcome = .ok text →
    host.stdout.verdict (Utf8.encode text) = .ok ()

/-- A run succeeds, or it fails and leaves all files alone but the one for its result. -/
theorem run_succeeds_or_fails (printable : Printable host log overrides task)
    (narrow : task.IsNarrow) :
    let report := conclude host (run host log overrides task)
    report.exitCode = 0 ∨ report.Fails ∧ (report.files = host.files ∨
      ∃ path text, task.output? = some path ∧
        (produce host log overrides task).outcome = .ok text ∧
        CutShort host path (Utf8.encode text) report.files) := by
  intro report
  cases asked : task.isVoid with
  | true =>
      have ends : report.Ends host [] [] _ := run_ends_of_isVoid asked
      exact Or.inr ⟨ends.fails nofun rfl, Or.inl ends.files⟩
  | false =>
      cases produced : (produce host log overrides task).outcome with
      | error failure =>
          have ends : report.Ends host _ [] _ := run_ends_of_failed asked produced
          exact Or.inr ⟨ends.fails (isTold_of_produce narrow produced) rfl, Or.inl ends.files⟩
      | ok text =>
          have ends : report.Ends host _ _ _ := run_ends_of_produced asked produced
          cases delivered : (deliver host task.output? text).outcome with
          | ok done =>
              rw [delivered] at ends
              exact Or.inl ends.exitCode
          | error failure =>
              obtain ⟨told, silent, left⟩ := deliver_failed (printable text produced) delivered
              rw [delivered] at ends
              rw [← ends.files] at left
              refine Or.inr ⟨ends.fails told silent, left.imp_right ?_⟩
              rintro ⟨path, named, short⟩
              exact ⟨path, text, named, rfl, short⟩

/-! ## Scratch directories of a run -/

/-- A probe has the scratch directories of the machine. -/
theorem scratch_of_openProbe {probe : Probe}
    (opened : (openProbe host log overrides).outcome = .ok probe) :
    probe.toolchain.scratch = host.toolchain.scratch := by
  obtain ⟨config, -, later⟩ := Inquiry.outcome_bind_eq_ok_iff.mp opened
  obtain ⟨_, -, last⟩ := Inquiry.outcome_bind_eq_ok_iff.mp later
  obtain ⟨_, -, made⟩ := Inquiry.outcome_bind_eq_ok_iff.mp last
  rw [Inquiry.outcome_settled, Config.toProbe, Probe.inDirectory] at made
  split at made
  · cases made
  · obtain rfl := Except.ok.inj made
    rfl
  · cases made

section

variable (removes : ∀ workDir source, host.toolchain.scratch.remove workDir source = .ok ())

include removes

theorem tidy_produce (log : Log.Filter) (overrides : Overrides) (task : Task) :
    Tidy (produce host log overrides task).journal := by
  refine holds_produce Tidy.accumulates Tidy.logged (fun probe opened => ?_) task
  refine Probe.tidy_perform fun source => ?_
  rw [Probe.removeScratch, scratch_of_openProbe opened]
  exact removes probe.workDir source

/-- What a run does leaves a work directory as it was, whichever way it ends. -/
theorem tidy_run (log : Log.Filter) (overrides : Overrides) (task : Task) :
    Tidy (conclude host (run host log overrides task)).journal := by
  obtain ⟨before, delivery, ending, ends, begun⟩ := exists_run_ends host log overrides task
  have got : Tidy before := by
    rcases begun with rfl | rfl
    · exact Tidy.nil
    · exact tidy_produce removes log overrides task
  have written : Tidy delivery := by
    refine Tidy.accumulates.of_events fun event member => Tidy.of_apply_eq_self fun dir => ?_
    have writing := ends.written event member
    cases event with
    | printed bytes => rfl
    | wrote location content => rfl
    | _ => cases writing
  have told : Tidy (epilogue host ending) := by
    cases ending with
    | ok done => exact Tidy.nil
    | error failure => exact Tidy.of_apply_eq_self fun dir => rfl
  rw [ends.journal]
  exact got.append (written.append told)

end

/-! ## A file for the result -/

/-- How a report compares to that of the same run with a file for the result, if both succeed: the
file takes what is printed otherwise. -/
def Redirects (host : Host) (path : String) (plain other : Report) : Prop :=
  ∃ location, host.files.openFile path = .ok location ∧
    (host.files.node? location = some (.device .stdout) →
      other.stdout = plain.stdout ∧ other.files = host.files) ∧
    (host.files.node? location = some (.device .null) →
      other.stdout = [] ∧ other.files = host.files) ∧
    ((∀ device, host.files.node? location ≠ some (.device device)) →
      other.stdout = [] ∧
      other.files.resolve path = .ok (location, .file plain.stdout) ∧
      ∀ elsewhere, elsewhere ≠ location →
        other.files.node? elsewhere = host.files.node? elsewhere)

/-- A run that ends with success ends without a failure. -/
theorem Report.Ends.succeeded {report : Report} {before delivery : List Event}
    {ending : Except Failure Unit} (ends : report.Ends host before delivery ending)
    (exits : report.exitCode = 0) : ending = .ok () := by
  have code := ends.exitCode
  rw [exits] at code
  cases ending with
  | ok done => rfl
  | error failure => exact absurd code.symm failure.exitCode_ne_zero

/-- Writing a file that succeeds redirects what would have been printed. -/
theorem redirects_of_writeFile {path text : String} {report plain : Report} {before : List Event}
    (ends : report.Ends host before (writeFile host path text).journal
      (writeFile host path text).outcome)
    (printed : plain.stdout = Utf8.encode text) (exits : report.exitCode = 0) :
    Redirects host path plain report := by
  have succeeded := ends.succeeded exits
  cases opened : host.files.openFile path with
  | error reason =>
      rw [writeFile_of_unopened opened] at succeeded
      cases succeeded
  | ok location =>
      have whole : (host.sinkAt location).taken (Utf8.encode text) = Utf8.encode text := by
        rw [writeFile_of_opened opened] at succeeded
        cases verdict : (host.sinkAt location).verdict (Utf8.encode text) with
        | ok done => exact Sink.taken_of_verdict verdict
        | error reason =>
            rw [verdict] at succeeded
            cases succeeded
      have stdout := ends.stdout
      have files := ends.files
      rw [writeFile_of_opened opened, whole] at stdout files
      refine ⟨location, opened, ?_⟩
      rcases receive_cases host location with
        ⟨node, -, received⟩ | ⟨node, received⟩ | ⟨node, received⟩
      · rw [received] at stdout files
        refine ⟨fun _ => ⟨?_, files⟩, fun null => ?_, fun kept => absurd node (kept _)⟩
        · exact stdout.trans ((List.append_nil _).trans printed.symm)
        · rw [node] at null
          cases null
      · rw [received] at stdout files
        refine ⟨fun device => ?_, fun _ => ⟨stdout, files⟩, fun kept => absurd node (kept _)⟩
        rw [node] at device
        cases device
      · rw [received] at stdout files
        refine ⟨fun device => absurd device (node _), fun null => absurd null (node _), fun _ => ?_⟩
        obtain ⟨found, elsewhere⟩ := FileTree.resolve_put_of_opened opened (Utf8.encode text)
        have put : report.files = host.files.put location (Utf8.encode text) := files
        rw [put, printed]
        exact ⟨stdout, found, elsewhere⟩

/-- A file for the result only redirects it. -/
theorem run_redirected {requests : List Request} {visibility : String} {json : Bool}
    (printable : Printable host log overrides (.bindings requests visibility none json))
    (path : String) :
    let plain := conclude host
      (run host log overrides (.bindings requests visibility none json))
    let other := conclude host
      (run host log overrides (.bindings requests visibility (some path) json))
    other.compiles = plain.compiles ∧
      (plain.exitCode = 1 →
        other.exitCode = 1 ∧ other.stderr = plain.stderr ∧ other.files = host.files) ∧
      (other.exitCode = 0 → plain.exitCode = 0 ∧ Redirects host path plain other) ∧
      (other.exitCode = 1 →
        other.files = host.files ∨ CutShort host path plain.stdout other.files) := by
  intro plain other
  cases requests with
  | nil =>
      have ends : plain.Ends host [] [] _ := run_ends_of_isVoid rfl
      refine ⟨rfl, fun exits => ⟨exits, rfl, ends.files⟩, fun exits => ?_, fun _ => ?_⟩
      · cases ends.succeeded exits
      · exact Or.inl ends.files
  | cons request requests =>
      let task := Task.bindings (request :: requests) visibility none json
      let redirected := Task.bindings (request :: requests) visibility (some path) json
      have same : produce host log overrides redirected = produce host log overrides task := rfl
      have compiles (which : Task) (asked : which.isVoid = false) :=
        compiles_run asked host log overrides
      refine ⟨(compiles redirected rfl).trans (compiles task rfl).symm, ?_⟩
      cases produced : (produce host log overrides task).outcome with
      | error failure =>
          have ends : plain.Ends host _ _ _ := run_ends_of_failed rfl produced
          have endsToo : other.Ends host _ _ _ := run_ends_of_failed rfl (same ▸ produced)
          refine ⟨fun exits => ⟨?_, ?_, endsToo.files⟩, fun exits => ?_, fun _ => ?_⟩
          · rw [endsToo.exitCode, ← ends.exitCode, exits]
          · rw [Report.stderr, endsToo.journal, same, Report.stderr, ends.journal]
          · cases endsToo.succeeded exits
          · exact Or.inl endsToo.files
      | ok text =>
          have ends : plain.Ends host _ (print host text).journal (print host text).outcome :=
            run_ends_of_produced rfl produced
          have endsToo : other.Ends host _ (writeFile host path text).journal
              (writeFile host path text).outcome := run_ends_of_produced rfl (same ▸ produced)
          have prints := printable text produced
          obtain ⟨succeeds, -⟩ := ends.prints.whole prints
          have printed : plain.stdout = Utf8.encode text :=
            ends.prints.stdout.trans (Sink.taken_of_verdict prints)
          refine ⟨fun exits => ?_, fun exits => ⟨succeeds, ?_⟩, fun exits => ?_⟩
          · rw [succeeds] at exits
            cases exits
          · exact redirects_of_writeFile endsToo printed exits
          · cases written : (writeFile host path text).outcome with
            | ok done =>
                have code := endsToo.exitCode
                rw [written, exits] at code
                cases code
            | error failure =>
                obtain ⟨-, -, left⟩ := writeFile_failed prints written
                rw [← endsToo.files, ← printed] at left
                exact left

/-! ## Programs -/

/-- The command line for the declaration of a constant. -/
def limitInvocation (output : Option String) : Invocation where
  subcommand := .bindings
  verbosity := 0
  overrides := ⟨[], [], none, [], none, none⟩
  task := .bindings [.signedConstant "LIMIT"] "pub" output false

end AbiProbe.CommandLine
