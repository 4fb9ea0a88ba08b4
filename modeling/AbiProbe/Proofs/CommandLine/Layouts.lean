import AbiProbe.Proofs.CommandLine.Run
import AbiProbe.Proofs.Probe.Tolerance
import AbiProbe.Proofs.TypeLayout.Json
import AbiProbe.Proofs.TypeLayout.Table

/-! # Layouts on the command line

The layouts of types are found one after the other, up to the first type that has none
(`AbiProbe.CommandLine.layoutsOf_of_laidOut`, `AbiProbe.CommandLine.layoutsOf_of_failed`). Only
then is anything printed, so the two formats are two tellings of the same list, and where there is
no list they fail alike (`AbiProbe.CommandLine.execute_layouts`). They part where the name of a
type is too long for a table.
-/

namespace AbiProbe

/-- The layouts of types, type by type. -/
def Probe.LaysOut (probe : Probe) : List String → List TypeLayout → Prop :=
  List.Forall₂ fun cType layout => (probe.layoutOf cType).outcome = .ok layout

/-- Every type of a list has a layout, or one of them is the first that has none. -/
theorem Probe.laysOut_or_fails (probe : Probe) (types : List String) :
    (∃ layouts, probe.LaysOut types layouts) ∨
      ∃ before layouts cType after error, types = before ++ cType :: after ∧
        probe.LaysOut before layouts ∧ (probe.layoutOf cType).outcome = .error error := by
  induction types with
  | nil => exact Or.inl ⟨[], .nil⟩
  | cons head types ih =>
      cases found : (probe.layoutOf head).outcome with
      | error error => exact Or.inr ⟨[], [], head, types, error, rfl, .nil, found⟩
      | ok layout =>
          rcases ih with ⟨layouts, laid⟩ | ⟨before, layouts, cType, after, error, rfl, laid, failed⟩
          · exact Or.inl ⟨layout :: layouts, .cons found laid⟩
          · exact Or.inr ⟨head :: before, layout :: layouts, cType, after, error, rfl,
              .cons found laid, failed⟩

namespace CommandLine

variable {probe : Probe} {types before : List String} {layouts : List TypeLayout}

/-! ## One type after the other -/

theorem layoutsOf_cons (cType : String) (types : List String) :
    layoutsOf probe (cType :: types) =
      ((probe.layoutOf cType).mapError (.layout cType) >>= fun layout =>
        layoutsOf probe types >>= fun layouts => pure (layout :: layouts)) :=
  List.mapM_cons

/-- A layout that is found comes in front of those of the other types. -/
theorem layoutsOf_of_found {cType : String} {layout : TypeLayout}
    (found : (probe.layoutOf cType).outcome = .ok layout) (types : List String) :
    (layoutsOf probe (cType :: types)).outcome =
        (layoutsOf probe types).outcome.map (layout :: ·) ∧
      (layoutsOf probe (cType :: types)).journal =
        (probe.layoutOf cType).journal ++ (layoutsOf probe types).journal := by
  have told : ((probe.layoutOf cType).mapError (Failure.layout cType)).outcome =
      .ok layout := by
    rw [Inquiry.outcome_mapError, found]
    rfl
  rw [layoutsOf_cons, Inquiry.bind_ok told, Inquiry.outcome_bind,
    Inquiry.journal_bind_silent fun _ => rfl]
  exact ⟨rfl, rfl⟩

theorem layoutsOf_of_laidOut (laid : probe.LaysOut types layouts) :
    (layoutsOf probe types).outcome = .ok layouts ∧
      (layoutsOf probe types).journal =
        types.flatMap fun cType => (probe.layoutOf cType).journal := by
  induction laid with
  | nil => exact ⟨rfl, rfl⟩
  | @cons cType layout types layouts found laid ih =>
      obtain ⟨outcome, journal⟩ := layoutsOf_of_found found types
      rw [outcome, journal, ih.1, ih.2]
      exact ⟨rfl, rfl⟩

/-- The first type without a layout ends the inquiry, and no later type is asked for. -/
theorem layoutsOf_of_failed {cType : String} {error : ProbeError}
    (laid : probe.LaysOut before layouts) (failed : (probe.layoutOf cType).outcome = .error error)
    (after : List String) :
    (layoutsOf probe (before ++ cType :: after)).outcome = .error (.layout cType error) ∧
      (layoutsOf probe (before ++ cType :: after)).journal =
        (before ++ [cType]).flatMap fun cType => (probe.layoutOf cType).journal := by
  induction laid with
  | nil =>
      have told : ((probe.layoutOf cType).mapError (Failure.layout cType)).outcome =
          .error (.layout cType error) := by
        rw [Inquiry.outcome_mapError, failed]
        rfl
      rw [List.nil_append, layoutsOf_cons, Inquiry.bind_error told, List.nil_append,
        List.flatMap_singleton]
      exact ⟨rfl, rfl⟩
  | @cons earlier layout before layouts found laid ih =>
      obtain ⟨outcome, journal⟩ := layoutsOf_of_found found (before ++ cType :: after)
      rw [List.cons_append, outcome, journal, ih.1, ih.2]
      exact ⟨rfl, rfl⟩

/-- Every layout names the type it was asked for. -/
theorem cType_of_laidOut (laid : probe.LaysOut types layouts) :
    layouts.map TypeLayout.cType = types := by
  induction laid with
  | nil => rfl
  | cons found laid ih =>
      obtain ⟨size, align, kind, -, -, -, rfl⟩ := Probe.outcome_layoutOf_eq_ok_iff.mp found
      rw [List.map_cons, ih]
      rfl

/-- The table of the layouts of types is not too wide where none of the types is. -/
theorem exists_table_of_laidOut (laid : probe.LaysOut types layouts)
    (narrow : ∀ cType ∈ types, cType.utf8ByteSize ≤ TypeLayout.widthLimit) :
    ∃ text, TypeLayout.table layouts = .ok text := by
  refine ⟨_, TypeLayout.table_of_le ?_⟩
  rcases (TypeLayout.isGreatest_typeWidth layouts).1 with heading | ⟨layout, member, same⟩
  · rw [heading]
    decide
  · rw [same]
    refine narrow layout.cType ?_
    rw [← cType_of_laidOut laid]
    exact List.mem_map_of_mem member

theorem no_table_of_laidOut {cType : String} (laid : probe.LaysOut types layouts)
    (named : cType ∈ types) (wide : TypeLayout.widthLimit < cType.utf8ByteSize) :
    TypeLayout.table layouts = .error .cellTooWide := by
  rw [← cType_of_laidOut laid] at named
  obtain ⟨layout, member, rfl⟩ := List.mem_map.mp named
  have widest := (TypeLayout.isGreatest_typeWidth layouts).2 (Or.inr ⟨_, member, rfl⟩)
  exact TypeLayout.table_of_lt (Nat.lt_of_lt_of_le wide widest)

/-! ## What is left of a run -/

variable {host : Host} {log : Log.Filter} {overrides : Overrides}

/-- A program that wrote nothing but the account of a failure. -/
structure Report.FailsWith (report : Report) (host : Host) (failure : Failure) : Prop where
  exitCode : report.exitCode = failure.exitCode
  stdout : report.stdout = []
  files : report.files = host.files
  complaints : report.complaints = failure.account host

/-- A program that printed a text, as far as its standard output took it. -/
structure Report.Prints (report : Report) (host : Host) (text : String) : Prop where
  stdout : report.stdout = host.stdout.taken (Text.Utf8.encode text)
  files : report.files = host.files
  /-- All of the text was printed. -/
  whole : host.stdout.verdict (Text.Utf8.encode text) = .ok () →
    report.exitCode = 0 ∧ report.complaints = ""
  /-- The program broke down in printing it. -/
  short : ∀ reason, host.stdout.verdict (Text.Utf8.encode text) = .error reason →
    report.exitCode = 101 ∧
      report.complaints = host.crashNote (Breakdown.unprintable reason).message

theorem Report.Ends.failsWith {report : Report} {before : List Event} {failure : Failure}
    (ends : report.Ends host before [] (.error failure)) : report.FailsWith host failure :=
  ⟨ends.exitCode, ends.stdout, ends.files, ends.complaints⟩

theorem Report.Ends.prints {report : Report} {before : List Event} {text : String}
    (ends : report.Ends host before (print host text).journal (print host text).outcome) :
    report.Prints host text := by
  refine ⟨ends.stdout.trans (List.append_nil _), ends.files, ?_, ?_⟩
  · intro whole
    have printed : (print host text).outcome = .ok () := by
      rw [print, whole]
      rfl
    rw [ends.exitCode, ends.complaints, printed]
    exact ⟨rfl, rfl⟩
  · intro reason short
    have broken : (print host text).outcome = .error (.breakdown (.unprintable reason)) := by
      rw [print, short]
      rfl
    rw [ends.exitCode, ends.complaints, broken]
    exact ⟨rfl, rfl⟩

/-- The compilers a probe starts for the layouts of types, one type after the other. -/
def compilesFor (probe : Probe) (types : List String) : List CompileStart :=
  types.flatMap fun cType => compilesIn (probe.layoutOf cType).journal

theorem compilesIn_flatMap (probe : Probe) (types : List String) :
    compilesIn (types.flatMap fun cType => (probe.layoutOf cType).journal) =
      compilesFor probe types :=
  List.filterMap_flatMap

/-- Whatever a run comes to, it starts the compilers that getting its result starts. -/
theorem compiles_run {task : Task} (asked : task.isVoid = false) (host : Host)
    (log : Log.Filter) (overrides : Overrides) :
    (conclude host (run host log overrides task)).compiles =
      compilesIn (produce host log overrides task).journal := by
  cases ended : (produce host log overrides task).outcome with
  | error failure => exact (run_ends_of_failed asked ended).compiles
  | ok text => exact (run_ends_of_produced asked ended).compiles

/-! ## The two formats -/

theorem layoutsText_table (layouts : List TypeLayout) :
    layoutsText false layouts = (TypeLayout.table layouts).mapError .breakdown := rfl

theorem outcome_result_layout (probe : Probe) (types : List String) (json : Bool) :
    ((Task.layout types json).result probe).outcome =
      (layoutsOf probe types).outcome.bind (layoutsText json) :=
  Inquiry.outcome_bind _ _

theorem journal_result_layout (probe : Probe) (types : List String) (json : Bool) :
    ((Task.layout types json).result probe).journal = (layoutsOf probe types).journal :=
  Inquiry.journal_bind_silent fun _ => rfl

/-- The format has no part in what is compiled. -/
theorem compiles_run_layout (host : Host) (log : Log.Filter) (overrides : Overrides)
    (types : List String) (json other : Bool) :
    (conclude host (run host log overrides (.layout types json))).compiles =
      (conclude host (run host log overrides (.layout types other))).compiles := by
  rw [compiles_run rfl, compiles_run rfl]
  cases opened : (openProbe host log overrides).outcome with
  | error failure => rw [(produce_of_unopened opened _).2, (produce_of_unopened opened _).2]
  | ok probe =>
      rw [(produce_of_opened opened _).2, (produce_of_opened opened _).2, journal_result_layout,
        journal_result_layout]

theorem run_layout_of_unopened {failure : Failure} (types : List String) (json : Bool)
    (unopened : (openProbe host log overrides).outcome = .error failure) :
    let report := conclude host (run host log overrides (.layout types json))
    report.FailsWith host failure ∧ report.compiles = [] := by
  obtain ⟨outcome, compiles⟩ := produce_of_unopened unopened (.layout types json)
  exact ⟨(run_ends_of_failed rfl outcome).failsWith, (compiles_run rfl ..).trans compiles⟩

section

variable (opened : (openProbe host log overrides).outcome = .ok probe)

include opened

theorem compiles_run_of_laidOut (laid : probe.LaysOut types layouts) (json : Bool) :
    (conclude host (run host log overrides (.layout types json))).compiles =
      compilesFor probe types := by
  rw [compiles_run rfl, (produce_of_opened opened _).2, journal_result_layout,
    (layoutsOf_of_laidOut laid).2, compilesIn_flatMap]

/-- Where every type has a layout, a run prints what can be told of the layouts. -/
theorem run_prints_of_laidOut {text : String} {json : Bool} (laid : probe.LaysOut types layouts)
    (told : layoutsText json layouts = .ok text) :
    (conclude host (run host log overrides (.layout types json))).Prints host text := by
  have produced : (produce host log overrides (.layout types json)).outcome = .ok text := by
    rw [(produce_of_opened opened _).1, outcome_result_layout, (layoutsOf_of_laidOut laid).1]
    exact told
  exact (run_ends_of_produced rfl produced).prints

/-- Layouts of which there is no table break a run down before it prints anything. -/
theorem run_fails_of_untabled {reason : Breakdown} (laid : probe.LaysOut types layouts)
    (untabled : TypeLayout.table layouts = .error reason) :
    (conclude host (run host log overrides (.layout types false))).FailsWith host
      (.breakdown reason) := by
  have failed : (produce host log overrides (.layout types false)).outcome =
      .error (.breakdown reason) := by
    rw [(produce_of_opened opened _).1, outcome_result_layout, (layoutsOf_of_laidOut laid).1]
    exact (layoutsText_table layouts).trans (congrArg (Except.mapError Failure.breakdown) untabled)
  exact (run_ends_of_failed rfl failed).failsWith

theorem run_layout_of_failed {cType : String} {error : ProbeError}
    (laid : probe.LaysOut before layouts)
    (failed : (probe.layoutOf cType).outcome = .error error) (after : List String)
    (json : Bool) :
    let report := conclude host
      (run host log overrides (.layout (before ++ cType :: after) json))
    report.FailsWith host (.layout cType error) ∧
      report.compiles = compilesFor probe (before ++ [cType]) := by
  obtain ⟨outcome, journal⟩ := layoutsOf_of_failed laid failed after
  obtain ⟨ended, compiles⟩ := produce_of_opened opened (.layout (before ++ cType :: after) json)
  rw [outcome_result_layout, outcome] at ended
  rw [journal_result_layout, journal, compilesIn_flatMap] at compiles
  exact ⟨(run_ends_of_failed rfl ended).failsWith, (compiles_run rfl ..).trans compiles⟩

end

/-- **Layouts are all told or none.** Two command lines for layouts that differ in the format only
start the same compiles. Where there is no probe, both fail with that failure and compile nothing.
With a probe, if every type has a layout, one prints the table of the layouts and the other a text
that is read as the same list; only if the name of a type is too long for a table, the first breaks
down and prints nothing. If not every type has a layout, both fail with the failure of the first
type that has none, and nothing is compiled for the types behind it. -/
theorem execute_layouts (host : Host) {words jsonWords : List String} {invocation : Invocation}
    {types : List String}
    (parsed : Invocation.ofWords words = .ok { invocation with task := .layout types false })
    (parsedToo : Invocation.ofWords jsonWords =
      .ok { invocation with task := .layout types true }) :
    let log := Log.Filter.ofRun invocation.verbosity host.logFilter
    ∃ report other, execute host words = .ok report ∧ execute host jsonWords = .ok other ∧
      other.compiles = report.compiles ∧
      (∀ failure, (openProbe host log invocation.overrides).outcome = .error failure →
        report.FailsWith host failure ∧ other.FailsWith host failure ∧ report.compiles = []) ∧
      ∀ probe, (openProbe host log invocation.overrides).outcome = .ok probe →
        (∀ layouts, probe.LaysOut types layouts →
          ((∀ cType ∈ types, cType.utf8ByteSize ≤ TypeLayout.widthLimit) →
            ∃ text, TypeLayout.table layouts = .ok text ∧ report.Prints host text) ∧
          ((∃ cType ∈ types, TypeLayout.widthLimit < cType.utf8ByteSize) →
            report.FailsWith host (.breakdown .cellTooWide)) ∧
          (∃ text, other.Prints host text ∧ TypeLayout.listOfJson text = .ok layouts) ∧
          report.compiles = compilesFor probe types) ∧
        ((¬∃ layouts, probe.LaysOut types layouts) →
          ∃ before layouts cType after error, types = before ++ cType :: after ∧
            probe.LaysOut before layouts ∧
            (probe.layoutOf cType).outcome = .error error ∧
            report.FailsWith host (.layout cType error) ∧
            other.FailsWith host (.layout cType error) ∧
            report.compiles = compilesFor probe (before ++ [cType])) := by
  refine ⟨_, _, execute_of_parsed parsed host, execute_of_parsed parsedToo host, ?_, ?_, ?_⟩
  · exact compiles_run_layout host _ invocation.overrides types true false
  · intro failure unopened
    obtain ⟨fails, compiles⟩ := run_layout_of_unopened types false unopened
    exact ⟨fails, (run_layout_of_unopened types true unopened).1, compiles⟩
  · intro probe opened
    constructor
    · intro layouts laid
      refine ⟨?_, ?_, ?_, compiles_run_of_laidOut opened laid false⟩
      · intro narrow
        obtain ⟨text, tabled⟩ := exists_table_of_laidOut laid narrow
        refine ⟨text, tabled, run_prints_of_laidOut opened laid ?_⟩
        exact (layoutsText_table layouts).trans
          (congrArg (Except.mapError Failure.breakdown) tabled)
      · rintro ⟨cType, named, wide⟩
        exact run_fails_of_untabled opened laid (no_table_of_laidOut laid named wide)
      · exact ⟨_, run_prints_of_laidOut opened laid rfl, TypeLayout.listOfJson_pretty layouts⟩
    · intro unlaid
      obtain ⟨before, layouts, cType, after, error, rfl, laid, failed⟩ :=
        (probe.laysOut_or_fails types).resolve_left unlaid
      obtain ⟨fails, compiles⟩ := run_layout_of_failed opened laid failed after false
      exact ⟨before, layouts, cType, after, error, rfl, laid, failed, fails,
        (run_layout_of_failed opened laid failed after true).1, compiles⟩

/-! ## A machine with one type -/

/-- A toolchain that compiles a single source, to a program that prints one. -/
def singleToolchain (source : String) : Toolchain where
  compile other := .ok (Toolchain.printed (if other = source then 0 else 1) "" "")
  run _ := .ok (Toolchain.printed 0 "1\n" "")

theorem compile_singleToolchain (source : String) :
    (singleToolchain source).compile source = .ok (Toolchain.printed 0 "" "") := by
  simp only [singleToolchain, ↓reduceIte]

theorem compile_singleToolchain_of_ne {source other : String} (differs : other ≠ source) :
    (singleToolchain source).compile other = .ok (Toolchain.printed 1 "" "") := by
  simp only [singleToolchain, differs, ↓reduceIte]

/-- A machine on which no program compiles but the one that asks for the size of a type, which is
one byte. -/
def measuringHost (cType : String) : Host :=
  { printingHost "1\n" with
    toolchain := singleToolchain ((Probe.printing []).sourceFor .size cType) }

/-- Where the compiler of a configuration can be started, sources are compiled as ever. -/
theorem compile_toolchainFor {config : Config}
    (startable : host.startFault? (config.compileCommand "" "") = none) (source : String) :
    (host.toolchainFor config).compile source = host.toolchain.compile source := by
  unfold Host.toolchainFor
  dsimp only
  rw [startable]

/-- On such a machine the type has a layout in which everything but its size is left open. -/
theorem outcome_layoutOf_measuring {cType : String} {config : Config}
    (includes : probe.includes = .ofHeaders [])
    (toolchain : probe.toolchain = (measuringHost cType).toolchainFor config)
    (startable : (measuringHost cType).startFault? (config.compileCommand "" "") = none) :
    (probe.layoutOf cType).outcome = .ok ⟨cType, 1, none, none, none⟩ := by
  have source (aspect : Aspect) :
      probe.sourceFor aspect cType = (Probe.printing []).sourceFor aspect cType := by
    rw [Probe.sourceFor, Probe.mainSource, includes]
    rfl
  have compile (text : String) : probe.toolchain.compile text =
      (singleToolchain ((Probe.printing []).sourceFor .size cType)).compile text := by
    rw [toolchain]
    exact compile_toolchainFor startable text
  have scratch (text : String) : probe.HasScratch text := by
    refine ⟨⟨"/tmp/cprobe", ?_⟩, ?_⟩
    · rw [Probe.makeScratch, toolchain]
      rfl
    · rw [Probe.removeScratch, toolchain]
      rfl
  have prints : probe.Prints .size cType (Text.Utf8.encode "1\n") := by
    refine ⟨scratch _, ⟨Toolchain.printed 0 "" "", ?_, rfl⟩,
      ⟨Toolchain.printed 0 "1\n" "", ?_, rfl, rfl⟩⟩
    · rw [compile, source, compile_singleToolchain]
    · rw [toolchain]
      rfl
  have sized : (probe.sizeOf cType).outcome = .ok 1 :=
    Probe.outcome_pose_of_prints prints
  have rejected (aspect : Aspect) (differs : aspect.opening ≠ Aspect.opening .size) :
      (probe.pose aspect cType).outcome = .error (.compile (Toolchain.printed 1 "" "")) := by
    refine Probe.outcome_pose_of_ends (.rejected (scratch _) ?_ (by decide))
    rw [compile, source, compile_singleToolchain_of_ne]
    exact fun same => differs (Probe.opening_eq_of_sourceFor_eq same)
  refine Probe.outcome_layoutOf_eq_ok_iff.mpr ⟨1, none, none, sized, ?_, ?_, rfl⟩
  · rw [Probe.outcome_ifCompiles_eq_none_iff]
    exact ⟨_, rejected .alignment (by decide)⟩
  · rw [Probe.outcome_ifCompiles_eq_none_iff]
    exact ⟨_, Inquiry.outcome_bind_eq_error_iff.mpr (Or.inl (rejected .floatingPoint (by decide)))⟩

/-- On such a machine there is a probe for any configuration without headers and work directory. -/
theorem openProbe_measuring (cType : String) (config : Config) {log : Log.Filter}
    {overrides : Overrides}
    (resolved : Config.resolve (printingHost "1\n").files (printingHost "1\n").env overrides =
      .ok config)
    (bare : config.headers = []) (unplaced : config.workDir = none) :
    (openProbe (measuringHost cType) log overrides).outcome =
      .ok ⟨.ofHeaders [], "/tmp", (measuringHost cType).toolchainFor config, log⟩ := by
  have place : (printingHost "1\n").files.resolve "/tmp" = .ok (["tmp"], .directory) := by
    decide +kernel
  have resolvedToo : Config.resolve (measuringHost cType).files (measuringHost cType).env
      overrides = .ok config := resolved
  have placeToo : (measuringHost cType).files.resolve "/tmp" = .ok (["tmp"], .directory) := place
  have made : config.toProbe (measuringHost cType).files (measuringHost cType).tempDir
      ((measuringHost cType).toolchainFor config) log =
        .ok ⟨.ofHeaders [], "/tmp", (measuringHost cType).toolchainFor config, log⟩ := by
    rw [Config.toProbe, unplaced, bare]
    change Probe.inDirectory _ [] "/tmp" _ log = _
    rw [Probe.inDirectory, placeToo]
  rw [openProbe, resolvedToo]
  change (config.toProbe (measuringHost cType).files (measuringHost cType).tempDir
    ((measuringHost cType).toolchainFor config) log).mapError _ = _
  rw [made]
  rfl

/-- A type that is named twice is listed twice, in both formats, with a compiler named by its
path. -/
theorem execute_layouts_twice :
    let words := ["--cc", "/usr/bin/cc", "word", "word"]
    let layouts : List TypeLayout := [⟨"word", 1, none, none, none⟩, ⟨"word", 1, none, none, none⟩]
    ∃ report other text listing,
      execute (measuringHost "word") ("layout" :: words) = .ok report ∧
      execute (measuringHost "word") ("layout" :: "--json" :: words) = .ok other ∧
      report.Prints (measuringHost "word") text ∧ TypeLayout.table layouts = .ok text ∧
      other.Prints (measuringHost "word") listing ∧
      TypeLayout.listOfJson listing = .ok layouts ∧
      other.compiles = report.compiles := by
  intro words layouts
  let overrides : Overrides := ⟨[], [], some "/usr/bin/cc", [], none, none⟩
  let invocation : Invocation := ⟨.layout, 0, overrides, .layout ["word", "word"] false⟩
  have parsed : Invocation.ofWords ("layout" :: words) = .ok invocation := rfl
  have parsedToo : Invocation.ofWords ("layout" :: "--json" :: words) =
      .ok { invocation with task := .layout ["word", "word"] true } := rfl
  let config : Config := { Config.standard with compiler := "/usr/bin/cc" }
  let probe : Probe :=
    ⟨.ofHeaders [], "/tmp", (measuringHost "word").toolchainFor config, .ofRun 0 none⟩
  have opened : (openProbe (measuringHost "word") (.ofRun 0 none) overrides).outcome = .ok probe :=
    openProbe_measuring "word" config rfl rfl rfl
  have startable : (printingHost "1\n").startFault? (config.compileCommand "" "") = none := by
    decide +kernel
  have found : (probe.layoutOf "word").outcome = .ok ⟨"word", 1, none, none, none⟩ :=
    outcome_layoutOf_measuring rfl rfl startable
  obtain ⟨report, other, executed, executedToo, compiles, -, settled⟩ :=
    execute_layouts (measuringHost "word") parsed parsedToo
  obtain ⟨tabled, -, ⟨listing, listed, lists⟩, -⟩ :=
    (settled probe opened).1 layouts (.cons found (.cons found .nil))
  obtain ⟨text, table, printed⟩ := tabled (by decide)
  exact ⟨report, other, text, listing, executed, executedToo, printed, table, listed, lists,
    compiles⟩

/-- **Not every list of layouts is printed.** A type whose name has one byte more than the widest
cell has a layout, and a program that is asked for it in a table breaks down. -/
theorem execute_breaks_down_of_long_name :
    let cType := String.ofList (List.replicate 65536 'x')
    let invocation : Invocation :=
      ⟨.layout, 0, ⟨[], [], none, [], none, none⟩, .layout [cType] false⟩
    Invocation.ofWords ["layout", "--", cType] = .ok invocation ∧
    ∃ probe report,
      (openProbe (measuringHost cType) (.ofRun 0 none) invocation.overrides).outcome = .ok probe ∧
      (probe.layoutOf cType).outcome = .ok ⟨cType, 1, none, none, none⟩ ∧
      execute (measuringHost cType) ["layout", "--", cType] = .ok report ∧
      report.exitCode = 101 ∧ report.stdout = [] := by
  intro cType invocation
  have long : TypeLayout.widthLimit < cType.utf8ByteSize := by
    refine Nat.lt_of_lt_of_le ?_ (TypeLayout.length_toList_le_utf8ByteSize cType)
    rw [String.toList_ofList, List.length_replicate]
    decide
  -- The rest holds of every long name, and is shown of one that is not spelled out.
  clear_value cType
  have parsed : Invocation.ofWords ["layout", "--", cType] = .ok invocation := rfl
  let probe : Probe :=
    ⟨.ofHeaders [], "/tmp", (measuringHost cType).toolchainFor .standard, .ofRun 0 none⟩
  have opened : (openProbe (measuringHost cType) (.ofRun 0 none) invocation.overrides).outcome =
      .ok probe :=
    openProbe_measuring cType .standard rfl rfl rfl
  have startable :
      (printingHost "1\n").startFault? (Config.standard.compileCommand "" "") = none := by
    decide +kernel
  have found : (probe.layoutOf cType).outcome = .ok ⟨cType, 1, none, none, none⟩ :=
    outcome_layoutOf_measuring rfl rfl startable
  have laid : probe.LaysOut [cType] [⟨cType, 1, none, none, none⟩] := .cons found .nil
  have fails := run_fails_of_untabled opened laid
    (no_table_of_laidOut laid (List.mem_singleton.mpr rfl) long)
  exact ⟨parsed, probe, _, opened, found, execute_of_parsed parsed _, fails.exitCode, fails.stdout⟩

end CommandLine

end AbiProbe
