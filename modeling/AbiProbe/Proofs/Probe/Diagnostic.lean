import AbiProbe.Probe.Trial
import AbiProbe.Proofs.Toolchain.Output

/-! # Diagnostics tell trials and errors apart

A diagnostic of a trial tells whether the program was run, and what compiling and running left; one
of an error tells the kind of the error and all it holds. Whatever the texts in it contain, no
other trial or error has the same one (`AbiProbe.diagnostic_eq_iff_alike`).
-/

namespace AbiProbe

open Text

namespace Trial

/-- A trial whose commands wrote text. -/
structure IsText (trial : Trial) : Prop where
  compiled : trial.compiled.IsText
  ran : ∀ output, trial.ran = some output → output.IsText

/-- Two trials are alike when the outputs of the compiler are and both programs were run, with
outputs that are alike, or neither was. -/
structure Alike (first second : Trial) : Prop where
  compiled : first.compiled.Alike second.compiled
  ran : Option.Rel Output.Alike first.ran second.ran

theorem diagnostic_def (trial : Trial) :
    trial.diagnostic = "CompileRunOutput " ++ Diagnostic.fields
      [Diagnostic.field "compile_output" trial.compiled.diagnostic,
        Diagnostic.field "run_output" ((trial.ran.map Output.diagnostic).getD "None")] := rfl

theorem toList_diagnostic (trial : Trial) :
    trial.diagnostic.toList = "CompileRunOutput \x7b compile_output: ".toList ++
      (trial.compiled.diagnostic.toList ++ (", run_output: ".toList ++
        (((trial.ran.map Output.diagnostic).getD "None").toList ++ " \x7d".toList))) := by
  simp [diagnostic_def, Diagnostic.fields, Diagnostic.separated, Diagnostic.field]

/-- Missing outputs are not taken for outputs, and outputs are told apart. -/
theorem ran_alike_of_eq {first second : Option Output}
    (firstText : ∀ output, first = some output → output.IsText)
    (secondText : ∀ output, second = some output → output.IsText)
    (same : (first.map Output.diagnostic).getD "None" =
      (second.map Output.diagnostic).getD "None") :
    Option.Rel Output.Alike first second := by
  have absent (output : Output) : output.diagnostic ≠ "None" := by
    intro equal
    replace equal := congrArg (fun text : String => text.toList.head?) equal
    simp [Output.toList_diagnostic] at equal
  cases first with
  | none =>
      cases second with
      | none => exact .none
      | some other => exact absurd same.symm (absent other)
  | some output =>
      cases second with
      | none => exact absurd same (absent output)
      | some other =>
          replace same : output.diagnostic.toList ++ [] = other.diagnostic.toList ++ [] :=
            congrArg (fun text : String => text.toList ++ []) same
          exact .some (Output.alike_of_diagnostic_append_eq (firstText output rfl)
            (secondText other rfl) same).1

theorem map_diagnostic_of_alike {first second : Option Output}
    (alike : Option.Rel Output.Alike first second) :
    first.map Output.diagnostic = second.map Output.diagnostic := by
  cases alike with
  | none => rfl
  | some outputs => exact congrArg some outputs.diagnostic_eq

/-- Trials whose commands wrote text have the same diagnostic exactly when they are alike. -/
theorem diagnostic_eq_iff {first second : Trial} (firstText : first.IsText)
    (secondText : second.IsText) :
    first.diagnostic = second.diagnostic ↔ first.Alike second := by
  constructor
  · intro same
    replace same := congrArg String.toList same
    rw [toList_diagnostic, toList_diagnostic] at same
    obtain ⟨compiled, behind⟩ := Output.alike_of_diagnostic_append_eq firstText.compiled
      secondText.compiled (List.append_cancel_left same)
    replace behind := List.append_cancel_right (List.append_cancel_left behind)
    exact ⟨compiled, ran_alike_of_eq firstText.ran secondText.ran (String.toList_inj.mp behind)⟩
  · rintro ⟨compiled, ran⟩
    rw [diagnostic_def, diagnostic_def, compiled.diagnostic_eq, map_diagnostic_of_alike ran]

end Trial

namespace ProbeError

/-- The outputs an error holds. -/
def outputs : ProbeError → List Output
  | compile output => [output]
  | run compiled ran => [compiled, ran]
  | system _ | invalidIdentifier _ | unexpectedOutput _ _ | unrepresentable _ => []

/-- Two errors are alike when they are of the same kind and hold the same, outputs as far as they
are alike. Errors of the system are left out. -/
inductive Alike : ProbeError → ProbeError → Prop
  | compile {first second : Output} (outputs : first.Alike second) :
      Alike (compile first) (compile second)
  | run {compiled otherCompiled ran otherRan : Output} (compiles : compiled.Alike otherCompiled)
      (runs : ran.Alike otherRan) : Alike (run compiled ran) (run otherCompiled otherRan)
  | invalidIdentifier (name : String) : Alike (invalidIdentifier name) (invalidIdentifier name)
  | unexpectedOutput (printed expected : String) :
      Alike (unexpectedOutput printed expected) (unexpectedOutput printed expected)
  | unrepresentable (cType : String) : Alike (unrepresentable cType) (unrepresentable cType)

/-- Two errors of the same kind, whatever they hold. -/
inductive SameKind : ProbeError → ProbeError → Prop
  | system (reason other : SystemError) : SameKind (system reason) (system other)
  | compile (output other : Output) : SameKind (compile output) (compile other)
  | run (compiled otherCompiled ran otherRan : Output) :
      SameKind (run compiled ran) (run otherCompiled otherRan)
  | invalidIdentifier (name other : String) :
      SameKind (invalidIdentifier name) (invalidIdentifier other)
  | unexpectedOutput (printed expected otherPrinted otherExpected : String) :
      SameKind (unexpectedOutput printed expected) (unexpectedOutput otherPrinted otherExpected)
  | unrepresentable (cType other : String) :
      SameKind (unrepresentable cType) (unrepresentable other)

/-- The name of the kind of an error. -/
def kindName : ProbeError → String
  | system _ => "Io"
  | compile _ => "Compile"
  | run _ _ => "Run"
  | invalidIdentifier _ => "InvalidIdentifier"
  | unexpectedOutput _ _ => "UnexpectedOutput"
  | unrepresentable _ => "Unrepresentable"

theorem diagnostic_compile (output : Output) :
    (compile output).diagnostic = "Compile" ++ output.diagnostic := rfl

theorem diagnostic_run (compiled ran : Output) :
    (run compiled ran).diagnostic = "Run " ++ Diagnostic.fields
      [Diagnostic.field "compile" compiled.diagnostic, Diagnostic.field "run" ran.diagnostic] := rfl

theorem diagnostic_unexpectedOutput (printed expected : String) :
    (unexpectedOutput printed expected).diagnostic = "UnexpectedOutput " ++ Diagnostic.fields
      [Diagnostic.field "output" (quote printed), Diagnostic.field "expected" expected] := rfl

theorem takeWhile_variant {name : String} (letters : name.toList.all Char.isAlpha = true)
    (content : String) :
    (Diagnostic.variant name content).toList.takeWhile Char.isAlpha = name.toList := by
  simp only [Diagnostic.variant, String.toList_append, List.append_assoc]
  rw [List.takeWhile_append_of_pos (List.all_eq_true.mp letters)]
  simp

/-- A diagnostic begins with the kind of its error. -/
theorem takeWhile_diagnostic (error : ProbeError) :
    error.diagnostic.toList.takeWhile Char.isAlpha = error.kindName.toList := by
  cases error with
  | system _ | invalidIdentifier _ | unrepresentable _ => exact takeWhile_variant (by decide) _
  | compile output => simp [diagnostic_compile, Output.toList_diagnostic, kindName]
  | run compiled ran => simp [diagnostic_run, Diagnostic.fields, kindName]
  | unexpectedOutput printed expected =>
      simp [diagnostic_unexpectedOutput, Diagnostic.fields, kindName]

theorem sameKind_of_kindName_eq {first second : ProbeError}
    (same : first.kindName = second.kindName) : SameKind first second := by
  cases first <;> cases second <;> simp [kindName] at same <;> constructor

theorem sameKind_of_diagnostic_eq {first second : ProbeError}
    (same : first.diagnostic = second.diagnostic) : SameKind first second := by
  apply sameKind_of_kindName_eq
  rw [← String.toList_inj, ← takeWhile_diagnostic, ← takeWhile_diagnostic, same]

theorem toList_diagnostic_compile (output : Output) :
    (compile output).diagnostic.toList = "Compile".toList ++ (output.diagnostic.toList ++ []) := by
  simp [diagnostic_compile]

theorem toList_diagnostic_run (compiled ran : Output) :
    (run compiled ran).diagnostic.toList = "Run \x7b compile: ".toList ++
      (compiled.diagnostic.toList ++ (", run: ".toList ++ (ran.diagnostic.toList ++
        " \x7d".toList))) := by
  simp [diagnostic_run, Diagnostic.fields, Diagnostic.separated, Diagnostic.field]

theorem toList_diagnostic_unexpectedOutput (printed expected : String) :
    (unexpectedOutput printed expected).diagnostic.toList =
      "UnexpectedOutput \x7b output: ".toList ++ ((quote printed).toList ++
        (", expected: ".toList ++ (expected.toList ++ " \x7d".toList))) := by
  simp [diagnostic_unexpectedOutput, Diagnostic.fields, Diagnostic.separated, Diagnostic.field]

/-- A quoted text between parentheses behind a name is told from any other. -/
theorem eq_of_variant_quote_eq {name first second : String}
    (same : Diagnostic.variant name (quote first) = Diagnostic.variant name (quote second)) :
    first = second := by
  replace same := congrArg String.toList same
  simp only [Diagnostic.variant, String.toList_append, List.append_assoc] at same
  exact (quote_append_inj (List.append_cancel_left (List.append_cancel_left same))).1

theorem alike_of_diagnostic_eq {first second : ProbeError}
    (firstText : ∀ output ∈ first.outputs, output.IsText)
    (secondText : ∀ output ∈ second.outputs, output.IsText)
    (foreign : ∀ reason, first ≠ system reason)
    (same : first.diagnostic = second.diagnostic) : first.Alike second := by
  have chars := congrArg String.toList same
  cases sameKind_of_diagnostic_eq same with
  | system reason other => exact absurd rfl (foreign reason)
  | compile output other =>
      rw [toList_diagnostic_compile, toList_diagnostic_compile] at chars
      exact .compile (Output.alike_of_diagnostic_append_eq (firstText _ List.mem_cons_self)
        (secondText _ List.mem_cons_self) (List.append_cancel_left chars)).1
  | run compiled otherCompiled ran otherRan =>
      rw [toList_diagnostic_run, toList_diagnostic_run] at chars
      obtain ⟨compiles, behind⟩ := Output.alike_of_diagnostic_append_eq
        (firstText _ List.mem_cons_self) (secondText _ List.mem_cons_self)
        (List.append_cancel_left chars)
      obtain ⟨runs, -⟩ := Output.alike_of_diagnostic_append_eq
        (firstText _ (List.mem_cons_of_mem _ List.mem_cons_self))
        (secondText _ (List.mem_cons_of_mem _ List.mem_cons_self))
        (List.append_cancel_left behind)
      exact .run compiles runs
  | invalidIdentifier name other =>
      rw [eq_of_variant_quote_eq same]
      exact .invalidIdentifier other
  | unexpectedOutput printed expected otherPrinted otherExpected =>
      rw [toList_diagnostic_unexpectedOutput, toList_diagnostic_unexpectedOutput] at chars
      obtain ⟨rfl, behind⟩ := quote_append_inj (List.append_cancel_left chars)
      have expectations := List.append_cancel_right (List.append_cancel_left behind)
      rw [String.toList_inj.mp expectations]
      exact .unexpectedOutput printed otherExpected
  | unrepresentable cType other =>
      rw [eq_of_variant_quote_eq same]
      exact .unrepresentable other

theorem Alike.diagnostic_eq {first second : ProbeError} (alike : first.Alike second) :
    first.diagnostic = second.diagnostic := by
  cases alike with
  | compile outputs => rw [diagnostic_compile, diagnostic_compile, outputs.diagnostic_eq]
  | run compiles runs =>
      rw [diagnostic_run, diagnostic_run, compiles.diagnostic_eq, runs.diagnostic_eq]
  | invalidIdentifier _ | unexpectedOutput _ _ | unrepresentable _ => rfl

end ProbeError

/-- **Diagnostics tell trials and errors apart.** The diagnostic of an output is free of line feeds
and other control characters. Trials whose commands wrote text have the same diagnostic exactly
when they are alike, and so have errors other than those of the system. -/
theorem diagnostic_eq_iff_alike :
    (∀ output : Output, ∀ c ∈ output.diagnostic.toList, c ≠ '\n' ∧ isControl c = false) ∧
    (∀ first second : Trial, first.IsText → second.IsText →
      (first.diagnostic = second.diagnostic ↔ first.Alike second)) ∧
    ∀ first second : ProbeError, (∀ output ∈ first.outputs, output.IsText) →
      (∀ output ∈ second.outputs, output.IsText) → (∀ reason, first ≠ .system reason) →
      (∀ reason, second ≠ .system reason) →
      (first.diagnostic = second.diagnostic ↔ first.Alike second) := by
  refine ⟨?_, fun _ _ => Trial.diagnostic_eq_iff, ?_⟩
  · intro output c member
    have printable := output.isControl_of_mem_diagnostic c member
    refine ⟨?_, printable⟩
    rintro rfl
    exact absurd printable (by decide)
  · intro first second firstText secondText foreign _
    exact ⟨ProbeError.alike_of_diagnostic_eq firstText secondText foreign,
      ProbeError.Alike.diagnostic_eq⟩

/-- A standard output that spells the end of itself and the beginning of a standard error is not
taken for these two. -/
theorem diagnostic_eq_iff_alike_misleading :
    let first : Trial := ⟨⟨.code 1, Utf8.encode "a\", stderr: \"b", []⟩, none⟩
    let second : Trial := ⟨⟨.code 1, Utf8.encode "a", Utf8.encode "b"⟩, none⟩
    first.IsText ∧ second.IsText ∧ first.diagnostic ≠ second.diagnostic := by
  intro first second
  have firstText : first.IsText := ⟨⟨⟨_, rfl⟩, ⟨"", rfl⟩⟩, nofun⟩
  have secondText : second.IsText := ⟨⟨⟨_, rfl⟩, ⟨_, rfl⟩⟩, nofun⟩
  refine ⟨firstText, secondText, fun same => ?_⟩
  obtain ⟨-, trials, -⟩ := diagnostic_eq_iff_alike
  have alike := (trials first second firstText secondText).mp same
  exact absurd alike.compiled.stdout (by decide)

end AbiProbe
