import AbiProbe.Probe.Finding
import AbiProbe.Proofs.Probe.Trial

/-! # Layouts and the ways to a primitive

A layout, the kind of a type and its equivalent primitives are found by the same questions asked
in different orders and with different tolerance for failures. They agree nevertheless
(`AbiProbe.Probe.layoutOf_agrees`): what a layout says of a type is what the other questions
answer, and what it leaves open is what they fail to compile.
-/

namespace AbiProbe.Probe

/-! ## Answers that may be left open -/

section Tolerance

variable {α : Type} {probe : Probe} {inquiry : Inquiry ProbeError α}

private theorem outcome_ifCompiles (probe : Probe) (inquiry : Inquiry ProbeError α) :
    (probe.ifCompiles inquiry).outcome =
      match inquiry.outcome with
      | .ok answer => .ok (some answer)
      | .error (.compile _) => .ok none
      | .error error => .error error := by
  unfold ifCompiles
  cases ended : inquiry.outcome with
  | ok answer => rw [Inquiry.recover_ok ended]
  | error error =>
      rw [Inquiry.recover_error ended]
      cases error <;> rfl

/-- Tolerance adds to a journal at most that the log tells of an answer that was left open. -/
theorem journal_ifCompiles (probe : Probe) (inquiry : Inquiry ProbeError α) :
    (probe.ifCompiles inquiry).journal = inquiry.journal ∨
      ∃ record, (probe.ifCompiles inquiry).journal =
        inquiry.journal ++ (Inquiry.tell probe.log record : Inquiry ProbeError Unit).journal := by
  unfold ifCompiles
  cases ended : inquiry.outcome with
  | ok answer =>
      rw [Inquiry.recover_ok ended]
      exact Or.inl rfl
  | error error =>
      rw [Inquiry.recover_error ended]
      cases error with
      | compile output =>
          refine Or.inr ⟨.leftUnknown output, ?_⟩
          dsimp only
          rw [Inquiry.journal_bind_silent fun _ => rfl]
      | _ => exact Or.inl (List.append_nil _)

/-- Tolerance starts no command. -/
theorem startsOf_ifCompiles (probe : Probe) (inquiry : Inquiry ProbeError α) :
    startsOf (probe.ifCompiles inquiry).journal = startsOf inquiry.journal := by
  rcases probe.journal_ifCompiles inquiry with same | ⟨record, noted⟩
  · rw [same]
  · rw [noted, startsOf_append, Inquiry.startsOf_tell, List.append_nil]

/-- An answer is kept. -/
theorem outcome_ifCompiles_eq_some_iff {answer : α} :
    (probe.ifCompiles inquiry).outcome = .ok (some answer) ↔ inquiry.outcome = .ok answer := by
  rw [outcome_ifCompiles]
  rcases inquiry.outcome with (error | found)
  · cases error <;> simp
  · simp

/-- An answer is left open when its program does not compile. -/
theorem outcome_ifCompiles_eq_none_iff :
    (probe.ifCompiles inquiry).outcome = .ok none ↔
      ∃ output, inquiry.outcome = .error (.compile output) := by
  rw [outcome_ifCompiles]
  rcases inquiry.outcome with (error | found)
  · cases error <;> simp
  · simp

/-- Any other failure stays one. -/
theorem outcome_ifCompiles_eq_error_iff {error : ProbeError} :
    (probe.ifCompiles inquiry).outcome = .error error ↔
      inquiry.outcome = .error error ∧ ∀ output, error ≠ .compile output := by
  rw [outcome_ifCompiles]
  rcases inquiry.outcome with (failure | found)
  · cases failure with
    | compile output =>
        simp only [reduceCtorEq, Except.error.injEq, false_iff, not_and]
        rintro rfl different
        exact different output rfl
    | _ =>
        simp only [Except.error.injEq, iff_self_and]
        rintro rfl output
        exact nofun
  · simp

end Tolerance

/-! ## What is found of a type -/

variable {probe : Probe} {cType : String}

/-- A layout is the size, the alignment and the kind that were found, the last two of which may
be left open. -/
theorem outcome_layoutOf_eq_ok_iff {layout : TypeLayout} :
    (probe.layoutOf cType).outcome = .ok layout ↔
      ∃ size align kind, (probe.sizeOf cType).outcome = .ok size ∧
        (probe.ifCompiles (probe.alignOf cType)).outcome = .ok align ∧
        (probe.ifCompiles (probe.numericKind cType)).outcome = .ok kind ∧
        TypeLayout.ofKind cType size align kind = layout := by
  simp only [layoutOf, Inquiry.outcome_bind_eq_ok_iff, Inquiry.outcome_pure, Except.ok.injEq]
  constructor
  · rintro ⟨size, sized, align, aligned, kind, known, rfl⟩
    exact ⟨size, align, kind, sized, aligned, known, rfl⟩
  · rintro ⟨size, align, kind, sized, aligned, known, rfl⟩
    exact ⟨size, sized, align, aligned, kind, known, rfl⟩

/-- The equivalent primitive of a type is the one of its kind and size. -/
theorem outcome_equivalentPrimitive_eq_ok_iff {found : Option Primitive} :
    (probe.equivalentPrimitive cType).outcome = .ok found ↔
      ∃ kind size, (probe.numericKind cType).outcome = .ok kind ∧
        (probe.sizeOf cType).outcome = .ok size ∧ Primitive.ofLayout? kind size = found := by
  simp only [equivalentPrimitive, Inquiry.outcome_bind_eq_ok_iff, Inquiry.outcome_pure,
    Except.ok.injEq]
  constructor
  · rintro ⟨kind, known, size, sized, rfl⟩
    exact ⟨kind, size, known, sized, rfl⟩
  · rintro ⟨kind, size, known, sized, rfl⟩
    exact ⟨kind, known, size, sized, rfl⟩

/-- Without a kind there is no equivalent primitive, for the same reason. -/
theorem outcome_equivalentPrimitive_of_error {error : ProbeError}
    (unknown : (probe.numericKind cType).outcome = .error error) :
    (probe.equivalentPrimitive cType).outcome = .error error :=
  Inquiry.outcome_bind_eq_error_iff.mpr (Or.inl unknown)

/-- Without a kind there is no equivalent integer, for the same reason. -/
theorem outcome_equivalentInteger_of_error {error : ProbeError}
    (unknown : (probe.numericKind cType).outcome = .error error) :
    (probe.equivalentInteger cType).outcome = .error error :=
  Inquiry.outcome_bind_eq_error_iff.mpr (Or.inl unknown)

/-- The equivalent integer of a type of known kind and size; a floating-point type has none. -/
theorem outcome_equivalentInteger_of_known {kind : NumericKind} {size : UInt64}
    (known : (probe.numericKind cType).outcome = .ok kind)
    (sized : (probe.sizeOf cType).outcome = .ok size) :
    (probe.equivalentInteger cType).outcome =
      .ok (if kind = .float then none else Primitive.ofLayout? kind size) := by
  refine Inquiry.outcome_bind_eq_ok_iff.mpr ⟨kind, known, ?_⟩
  by_cases floating : kind = .float
  · simp only [floating, if_true, Inquiry.outcome_pure]
  · simp only [floating, if_false]
    exact Inquiry.outcome_bind_eq_ok_iff.mpr ⟨size, sized, rfl⟩

/-- **The ways to a primitive agree.** Of a type with a layout, the kind and the primitives found
by other ways are those of the layout, and a kind that the layout leaves open does not compile
there either. Conversely a primitive found for a type is that of its layout, unless the layout
fails with the failure of the alignment, which is not one to compile. -/
theorem layoutOf_agrees (probe : Probe) (cType : String) :
    (∀ layout, (probe.layoutOf cType).outcome = .ok layout →
      (∀ kind, layout.kind = some kind →
        (probe.numericKind cType).outcome = .ok kind ∧
        (probe.equivalentPrimitive cType).outcome = .ok layout.primitive ∧
        (probe.equivalentInteger cType).outcome =
          .ok (if kind = .float then none else layout.primitive) ∧
        (probe.sizeOf cType).outcome = .ok layout.size ∧
        ∀ primitive, layout.primitive = some primitive ↔
          primitive.kind = kind ∧ primitive.size = layout.size) ∧
      (layout.kind = none →
        layout.primitive = none ∧
        ∃ output, (probe.numericKind cType).outcome = .error (.compile output) ∧
          (probe.equivalentPrimitive cType).outcome = .error (.compile output) ∧
          (probe.equivalentInteger cType).outcome = .error (.compile output))) ∧
    (∀ found, (probe.equivalentPrimitive cType).outcome = .ok found →
      (∃ layout, (probe.layoutOf cType).outcome = .ok layout ∧ layout.primitive = found) ∨
      (∃ error, (∀ output, error ≠ .compile output) ∧
        (probe.alignOf cType).outcome = .error error ∧
        (probe.layoutOf cType).outcome = .error error)) := by
  constructor
  · intro layout laidOut
    obtain ⟨size, align, asked, sized, -, known, rfl⟩ := outcome_layoutOf_eq_ok_iff.mp laidOut
    constructor
    · rintro kind (rfl : asked = some kind)
      have answered := outcome_ifCompiles_eq_some_iff.mp known
      exact ⟨answered,
        outcome_equivalentPrimitive_eq_ok_iff.mpr ⟨kind, size, answered, sized, rfl⟩,
        outcome_equivalentInteger_of_known answered sized, sized,
        fun primitive => Primitive.ofLayout?_eq_some_iff⟩
    · rintro (rfl : asked = none)
      obtain ⟨output, failed⟩ := outcome_ifCompiles_eq_none_iff.mp known
      exact ⟨rfl, output, failed, outcome_equivalentPrimitive_of_error failed,
        outcome_equivalentInteger_of_error failed⟩
  · intro found equivalent
    obtain ⟨kind, size, answered, sized, rfl⟩ :=
      outcome_equivalentPrimitive_eq_ok_iff.mp equivalent
    have known : (probe.ifCompiles (probe.numericKind cType)).outcome = .ok (some kind) :=
      outcome_ifCompiles_eq_some_iff.mpr answered
    cases aligned : (probe.ifCompiles (probe.alignOf cType)).outcome with
    | ok align =>
        exact Or.inl ⟨TypeLayout.ofKind cType size align (some kind),
          outcome_layoutOf_eq_ok_iff.mpr ⟨size, align, some kind, sized, aligned, known, rfl⟩,
          rfl⟩
    | error error =>
        obtain ⟨failed, serious⟩ := outcome_ifCompiles_eq_error_iff.mp aligned
        refine Or.inr ⟨error, serious, failed, ?_⟩
        refine Inquiry.outcome_bind_eq_error_iff.mpr (Or.inr ⟨size, sized, ?_⟩)
        exact Inquiry.outcome_bind_eq_error_iff.mpr (Or.inl aligned)

end AbiProbe.Probe
