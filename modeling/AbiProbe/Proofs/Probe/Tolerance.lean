import AbiProbe.Proofs.Probe.FailStop
import AbiProbe.Proofs.Probe.Source
import AbiProbe.Proofs.Probe.Verdict

/-! # What a layout tolerates

A layout asks for the size, the alignment and the kind of a type, in this order. It fails with the
first of them that fails otherwise than by a program that does not compile, except that the size
must compile too (`AbiProbe.Probe.StopsLayout`), and asks nothing after that. Everything else it
fills in, and leaves open what does not compile (`AbiProbe.Probe.layoutOf_tolerates`).
-/

namespace AbiProbe

/-- An inquiry fails with an error, which is not that its program does not compile. -/
def Inquiry.FailsSeriously {α : Type} (inquiry : Inquiry ProbeError α) (error : ProbeError) :
    Prop :=
  inquiry.outcome = .error error ∧ ∀ output, error ≠ .compile output

namespace Probe

variable {probe : Probe} {cType : String}

/-! ## Programs that do not compile -/

/-- A question that does not fail with an error of the system fails to compile where its program
does. -/
theorem exists_outcome_pose_eq_compile_iff {aspect : Aspect} {name : String}
    (unfailing : ∀ reason, (probe.pose aspect name).outcome ≠ .error (.system reason)) :
    (∃ output, (probe.pose aspect name).outcome = .error (.compile output)) ↔
      (probe.blockOf aspect name).Uncompiled := by
  have scratch := hasScratch_of_outcome_pose rfl unfailing
  constructor
  · rintro ⟨output, failed⟩
    rw [outcome_pose_of_hasScratch scratch] at failed
    exact Block.uncompiled_of_outcome failed
  · rintro ⟨output, compile, failed⟩
    exact ⟨output, outcome_pose_of_ends (.rejected scratch compile failed)⟩

/-- The kind of a type fails to compile with either of its questions, the second of which is asked
only of a type without fractional values. -/
theorem exists_outcome_numericKind_eq_compile_iff
    (unfailing : ∀ reason, (probe.numericKind cType).outcome ≠ .error (.system reason)) :
    (∃ output, (probe.numericKind cType).outcome = .error (.compile output)) ↔
      (probe.blockOf .floatingPoint cType).Uncompiled ∨
        (probe.isFloatingPoint cType).outcome = .ok false ∧
          (probe.blockOf .signedness cType).Uncompiled := by
  have fractional : (∃ output, (probe.isFloatingPoint cType).outcome = .error (.compile output)) ↔
      (probe.blockOf .floatingPoint cType).Uncompiled := by
    refine exists_outcome_pose_eq_compile_iff fun reason failed => unfailing reason ?_
    exact Inquiry.outcome_bind_eq_error_iff.mpr (Or.inl failed)
  have signed (answered : (probe.isFloatingPoint cType).outcome = .ok false) :
      (∃ output, (probe.isSigned cType).outcome = .error (.compile output)) ↔
        (probe.blockOf .signedness cType).Uncompiled := by
    refine exists_outcome_pose_eq_compile_iff fun reason failed => unfailing reason ?_
    refine Inquiry.outcome_bind_eq_error_iff.mpr (Or.inr ⟨false, answered, ?_⟩)
    exact Inquiry.outcome_bind_eq_error_iff.mpr (Or.inl failed)
  rw [← fractional, ← and_congr_right signed]
  unfold numericKind
  constructor
  · rintro ⟨output, failed⟩
    rcases Inquiry.outcome_bind_eq_error_iff.mp failed with first | ⟨isFloat, answered, second⟩
    · exact Or.inl ⟨output, first⟩
    cases isFloat with
    | true => cases second
    | false =>
        rcases Inquiry.outcome_bind_eq_error_iff.mp second with sign | ⟨isSigned, -, settled⟩
        · exact Or.inr ⟨answered, output, sign⟩
        · cases isSigned <;> cases settled
  · rintro (⟨output, failed⟩ | ⟨answered, output, failed⟩)
    · exact ⟨output, Inquiry.outcome_bind_eq_error_iff.mpr (Or.inl failed)⟩
    · refine ⟨output, Inquiry.outcome_bind_eq_error_iff.mpr (Or.inr ⟨false, answered, ?_⟩)⟩
      exact Inquiry.outcome_bind_eq_error_iff.mpr (Or.inl failed)

/-! ## Layouts that fail -/

/-- The first question that stops a layout, with its error, the commands started so far and the
aspects that are not asked for any more. -/
inductive StopsLayout (probe : Probe) (cType : String) :
    ProbeError → List Event.Start → List Aspect → Prop
  /-- The size fails in any way. -/
  | size {error : ProbeError} (failed : (probe.sizeOf cType).outcome = .error error) :
      StopsLayout probe cType error (startsOf (probe.sizeOf cType).journal)
        [.alignment, .floatingPoint, .signedness]
  /-- The alignment compiles and fails. -/
  | alignment {error : ProbeError} {size : UInt64}
      (sized : (probe.sizeOf cType).outcome = .ok size)
      (failed : (probe.alignOf cType).FailsSeriously error) :
      StopsLayout probe cType error
        (startsOf (probe.sizeOf cType).journal ++ startsOf (probe.alignOf cType).journal)
        [.floatingPoint, .signedness]
  /-- The kind compiles and fails. -/
  | kind {error : ProbeError} {size : UInt64}
      (sized : (probe.sizeOf cType).outcome = .ok size)
      (tolerated : ∀ error, ¬(probe.alignOf cType).FailsSeriously error)
      (failed : (probe.numericKind cType).FailsSeriously error) :
      StopsLayout probe cType error
        (startsOf (probe.sizeOf cType).journal ++
          (startsOf (probe.alignOf cType).journal ++
            startsOf (probe.numericKind cType).journal)) []

/-- A question compiles no program of an aspect in another frame. -/
theorem compile_notMem_startsOf_ask {first second : Aspect}
    (differ : first.opening ≠ second.opening) (name other : String) :
    Event.Start.compile (probe.sourceFor second other) ∉
      startsOf (probe.ask first name).journal := by
  intro compiled
  have same := (eq_sourceFor_of_compiled compiled).1
  exact differ (opening_eq_of_sourceFor_eq same).symm

theorem StopsLayout.exists_failure {error : ProbeError} {starts : List Event.Start}
    {later : List Aspect} (stops : probe.StopsLayout cType error starts later) :
    (∃ error, (probe.sizeOf cType).outcome = .error error) ∨
      (∃ error, (probe.alignOf cType).FailsSeriously error) ∨
      ∃ error, (probe.numericKind cType).FailsSeriously error := by
  cases stops with
  | size failed => exact Or.inl ⟨error, failed⟩
  | alignment sized failed => exact Or.inr (Or.inl ⟨error, failed⟩)
  | kind sized tolerated failed => exact Or.inr (Or.inr ⟨error, failed⟩)

/-- Nothing that a stopped layout has not come to is compiled. -/
theorem StopsLayout.unasked {error : ProbeError} {starts : List Event.Start} {later : List Aspect}
    (stops : probe.StopsLayout cType error starts later) :
    ∀ aspect ∈ later, Event.Start.compile (probe.sourceFor aspect cType) ∉ starts := by
  have sizeFrame : ∀ aspect ∈ [Aspect.alignment, .floatingPoint, .signedness],
      Aspect.size.opening ≠ aspect.opening := by decide +kernel
  have alignmentFrame : ∀ aspect ∈ [Aspect.floatingPoint, .signedness],
      Aspect.alignment.opening ≠ aspect.opening := by decide +kernel
  intro aspect member
  cases stops with
  | size failed => exact compile_notMem_startsOf_ask (sizeFrame aspect member) cType cType
  | alignment sized failed =>
      rw [List.mem_append, not_or]
      have apart := sizeFrame aspect (List.mem_cons_of_mem _ member)
      exact ⟨compile_notMem_startsOf_ask apart cType cType,
        compile_notMem_startsOf_ask (alignmentFrame aspect member) cType cType⟩
  | kind sized tolerated failed => cases member

/-- A layout has an outcome unless one of its questions stops it. -/
theorem outcome_layoutOf_cases (probe : Probe) (cType : String) :
    (∃ error later, (probe.layoutOf cType).outcome = .error error ∧
      probe.StopsLayout cType error (startsOf (probe.layoutOf cType).journal) later) ∨
    ∃ layout, (probe.layoutOf cType).outcome = .ok layout := by
  unfold layoutOf
  -- Along the questions: a failure ends the journal, an answer or a tolerated failure extends it.
  cases sized : (probe.sizeOf cType).outcome with
  | error error =>
      rw [Inquiry.bind_error sized]
      exact Or.inl ⟨error, _, rfl, .size sized⟩
  | ok size =>
      rw [Inquiry.bind_ok sized, startsOf_append]
      cases aligned : (probe.ifCompiles (probe.alignOf cType)).outcome with
      | error error =>
          rw [Inquiry.bind_error aligned, startsOf_ifCompiles]
          have failed := outcome_ifCompiles_eq_error_iff.mp aligned
          exact Or.inl ⟨error, _, rfl, .alignment sized failed⟩
      | ok align =>
          have tolerated (error : ProbeError) : ¬(probe.alignOf cType).FailsSeriously error := by
            intro failed
            cases aligned.symm.trans (outcome_ifCompiles_eq_error_iff.mpr failed)
          rw [Inquiry.bind_ok aligned, startsOf_append, startsOf_ifCompiles]
          cases known : (probe.ifCompiles (probe.numericKind cType)).outcome with
          | error error =>
              rw [Inquiry.bind_error known, startsOf_ifCompiles]
              have failed := outcome_ifCompiles_eq_error_iff.mp known
              exact Or.inl ⟨error, _, rfl, .kind sized tolerated failed⟩
          | ok kind =>
              rw [Inquiry.bind_ok known]
              exact Or.inr ⟨_, rfl⟩

/-! ## Layouts that are found -/

/-- What a layout says of a type, and where it says nothing. -/
structure Explains (probe : Probe) (cType : String) (layout : TypeLayout) : Prop where
  named : layout.cType = cType
  size : (probe.sizeOf cType).outcome = .ok layout.size
  align : ∀ align, layout.align = some align ↔ (probe.alignOf cType).outcome = .ok align
  /-- The alignment is left open where its program does not compile. -/
  align_eq_none_iff : layout.align = none ↔ (probe.blockOf .alignment cType).Uncompiled
  kind : ∀ kind, layout.kind = some kind ↔ (probe.numericKind cType).outcome = .ok kind
  /-- The kind is left open where one of its programs is asked for and does not compile. -/
  kind_eq_none_iff : layout.kind = none ↔
    (probe.blockOf .floatingPoint cType).Uncompiled ∨
      (probe.isFloatingPoint cType).outcome = .ok false ∧
        (probe.blockOf .signedness cType).Uncompiled

theorem explains_of_outcome {layout : TypeLayout}
    (found : (probe.layoutOf cType).outcome = .ok layout) : probe.Explains cType layout := by
  obtain ⟨size, align, kind, sized, aligned, known, rfl⟩ := outcome_layoutOf_eq_ok_iff.mp found
  -- A failure of the system is not tolerated, so neither of the last two questions has one.
  have unaligned : (∃ output, (probe.alignOf cType).outcome = .error (.compile output)) ↔
      (probe.blockOf .alignment cType).Uncompiled := by
    refine exists_outcome_pose_eq_compile_iff fun reason failed => ?_
    cases aligned.symm.trans (outcome_ifCompiles_eq_error_iff.mpr ⟨failed, nofun⟩)
  have unknown : ∀ reason, (probe.numericKind cType).outcome ≠ .error (.system reason) := by
    intro reason failed
    cases known.symm.trans (outcome_ifCompiles_eq_error_iff.mpr ⟨failed, nofun⟩)
  refine ⟨rfl, sized, fun found => ?_, ?_, fun found => ?_, ?_⟩
  · rw [← outcome_ifCompiles_eq_some_iff, aligned, Except.ok.injEq]
    rfl
  · rw [← unaligned, ← outcome_ifCompiles_eq_none_iff, aligned, Except.ok.injEq]
    rfl
  · rw [← outcome_ifCompiles_eq_some_iff, known, Except.ok.injEq]
    rfl
  · rw [← exists_outcome_numericKind_eq_compile_iff unknown, ← outcome_ifCompiles_eq_none_iff,
      known, Except.ok.injEq]
    rfl

theorem exists_outcome_layoutOf_eq_error_iff :
    (∃ error, (probe.layoutOf cType).outcome = .error error) ↔
      (∃ error, (probe.sizeOf cType).outcome = .error error) ∨
      (∃ error, (probe.alignOf cType).FailsSeriously error) ∨
      ∃ error, (probe.numericKind cType).FailsSeriously error := by
  rcases outcome_layoutOf_cases probe cType with ⟨error, later, failed, stops⟩ | ⟨layout, found⟩
  · exact iff_of_true ⟨error, failed⟩ stops.exists_failure
  · obtain ⟨size, align, kind, sized, aligned, known, -⟩ := outcome_layoutOf_eq_ok_iff.mp found
    refine iff_of_false ?_ ?_
    · rintro ⟨error, failed⟩
      cases found.symm.trans failed
    · rintro (⟨error, failed⟩ | ⟨error, failed⟩ | ⟨error, failed⟩)
      · cases sized.symm.trans failed
      · cases aligned.symm.trans (outcome_ifCompiles_eq_error_iff.mpr failed)
      · cases known.symm.trans (outcome_ifCompiles_eq_error_iff.mpr failed)

/-- **A layout tolerates programs that do not compile, and nothing else.** It fails where the size
fails, or where the alignment or the kind fails seriously, with the error of the first of them,
and compiles no program of a later question. Otherwise it is found, and open exactly where a
program does not compile. -/
theorem layoutOf_tolerates (probe : Probe) (cType : String) :
    ((∃ error, (probe.layoutOf cType).outcome = .error error) ↔
      (∃ error, (probe.sizeOf cType).outcome = .error error) ∨
      (∃ error, (probe.alignOf cType).FailsSeriously error) ∨
      ∃ error, (probe.numericKind cType).FailsSeriously error) ∧
    (∀ error, (probe.layoutOf cType).outcome = .error error →
      ∃ later, probe.StopsLayout cType error (startsOf (probe.layoutOf cType).journal) later ∧
        ∀ aspect ∈ later, Event.Start.compile (probe.sourceFor aspect cType) ∉
          startsOf (probe.layoutOf cType).journal) ∧
    ((∃ error, (probe.layoutOf cType).outcome = .error error) ∨
      ∃ layout, (probe.layoutOf cType).outcome = .ok layout ∧ probe.Explains cType layout) := by
  refine ⟨exists_outcome_layoutOf_eq_error_iff, fun error failed => ?_, ?_⟩
  · rcases outcome_layoutOf_cases probe cType with ⟨other, later, stopped, stops⟩ | ⟨layout, found⟩
    · obtain rfl : other = error := Except.error.inj (stopped.symm.trans failed)
      exact ⟨later, stops, stops.unasked⟩
    · cases found.symm.trans failed
  · rcases outcome_layoutOf_cases probe cType with ⟨error, -, failed, -⟩ | ⟨layout, found⟩
    · exact Or.inl ⟨error, failed⟩
    · exact Or.inr ⟨layout, found, explains_of_outcome found⟩

end Probe

end AbiProbe
