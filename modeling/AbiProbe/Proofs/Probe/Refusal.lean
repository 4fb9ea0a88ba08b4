import AbiProbe.Proofs.Bindings.Generation
import AbiProbe.Proofs.Bindings.Scope
import AbiProbe.Proofs.Probe.Layout
import AbiProbe.Proofs.Probe.Operation
import AbiProbe.Proofs.Probe.Verdict

/-! # Names that are refused

Only two questions refuse a name: whether a macro is defined, where the name is no identifier, and
the generation of bindings, where it has no spelling. The first writes no program at all. Bindings
are generated one request after the other, so a refused request comes after everything that was
done for the requests before it (`AbiProbe.Probe.perform_refuses_iff`).
-/

namespace AbiProbe

variable {α β : Type}

/-- An inquiry that ends with the refusal of a name. -/
def Inquiry.Refuses (inquiry : Inquiry ProbeError α) (name : String) : Prop :=
  inquiry.outcome = .error (.invalidIdentifier name)

namespace Inquiry

variable {name : String}

theorem not_refuses_pure (answer : α) : ¬(pure answer : Inquiry ProbeError α).Refuses name :=
  nofun

theorem not_refuses_bind {first : Inquiry ProbeError α} {next : α → Inquiry ProbeError β}
    (begun : ¬first.Refuses name) (continued : ∀ answer, ¬(next answer).Refuses name) :
    ¬(first >>= next).Refuses name := by
  intro refused
  rcases outcome_bind_eq_error_iff.mp refused with failed | ⟨answer, -, failed⟩
  · exact begun failed
  · exact continued answer failed

/-- What is made of an answer does not refuse a name. -/
theorem refuses_bind_pure_iff {first : Inquiry ProbeError α} (tell : α → β) :
    (first >>= fun answer => pure (tell answer)).Refuses name ↔ first.Refuses name := by
  unfold Refuses
  rw [outcome_bind_eq_error_iff]
  simp

theorem not_refuses_ifCompiles {probe : Probe} {inquiry : Inquiry ProbeError α}
    (accepted : ¬inquiry.Refuses name) : ¬(probe.ifCompiles inquiry).Refuses name := by
  intro refused
  exact accepted (Probe.outcome_ifCompiles_eq_error_iff.mp refused).1

end Inquiry

open Inquiry

namespace Probe

variable {probe : Probe} {aspect : Aspect} {name cType token : String}

/-! ## Questions about types and values -/

theorem not_refuses_pose : ¬(probe.pose aspect token).Refuses name := by
  intro refused
  -- None of the ways in which a question ends is a refusal.
  cases outcome_pose_iff_ends.mp refused

theorem not_refuses_ask (aspect : Aspect) (differs : aspect ≠ .definedness) :
    ¬(probe.ask aspect token).Refuses name := by
  rw [ask_eq_pose differs]
  exact not_refuses_pose

theorem not_refuses_numericKind : ¬(probe.numericKind cType).Refuses name := by
  apply not_refuses_bind (not_refuses_ask .floatingPoint nofun)
  intro floating
  split
  · exact not_refuses_pure _
  · apply not_refuses_bind (not_refuses_ask .signedness nofun)
    intro signed
    split
    · exact not_refuses_pure _
    · exact not_refuses_pure _

theorem not_refuses_equivalentInteger : ¬(probe.equivalentInteger cType).Refuses name := by
  apply not_refuses_bind not_refuses_numericKind
  intro kind
  split
  · exact not_refuses_pure _
  · exact not_refuses_bind (not_refuses_ask .size nofun) fun _ => not_refuses_pure _

theorem not_refuses_equivalentPrimitive : ¬(probe.equivalentPrimitive cType).Refuses name := by
  apply not_refuses_bind not_refuses_numericKind
  intro kind
  exact not_refuses_bind (not_refuses_ask .size nofun) fun _ => not_refuses_pure _

theorem not_refuses_layoutOf : ¬(probe.layoutOf cType).Refuses name := by
  apply not_refuses_bind (not_refuses_ask .size nofun)
  intro size
  apply not_refuses_bind (not_refuses_ifCompiles (not_refuses_ask .alignment nofun))
  intro align
  apply not_refuses_bind (not_refuses_ifCompiles not_refuses_numericKind)
  intro kind
  exact not_refuses_pure _

/-! ## Macros -/

theorem refuses_isDefinedMacro_iff :
    (probe.isDefinedMacro token).Refuses name ↔
      Identifier.isIdentifier token = false ∧ token = name := by
  unfold isDefinedMacro ask
  by_cases shaped : Identifier.isIdentifier token
  · simp only [shaped, Bool.not_true, Bool.false_eq_true, and_false, ↓reduceIte, reduceCtorEq,
      false_and, iff_false]
    exact not_refuses_pose
  · simp only [shaped, Bool.not_false, and_self, ↓reduceIte, true_and]
    constructor
    · intro refused
      cases refused
      rfl
    · rintro rfl
      rfl

theorem refuses_ask_iff :
    (probe.ask aspect token).Refuses name ↔
      aspect = .definedness ∧ Identifier.isIdentifier token = false ∧ token = name := by
  by_cases same : aspect = .definedness
  · subst same
    rw [eq_self, true_and]
    exact refuses_isDefinedMacro_iff
  · simp only [same, false_and, iff_false]
    exact not_refuses_ask aspect same

theorem journal_isDefinedMacro_of_unshaped (unshaped : Identifier.isIdentifier token = false) :
    (probe.isDefinedMacro token).journal = [] := by
  rw [isDefinedMacro, ask, if_pos ⟨rfl, by rw [unshaped, Bool.not_false]⟩]
  rfl

theorem refuses_answer_iff {query : Query} :
    (probe.answer query).Refuses name ↔
      query = .definedness name ∧ Identifier.isIdentifier name = false := by
  have told (aspect : Aspect) (token : String) (text : aspect.answer.Value → String)
      (differs : aspect ≠ .definedness) :
      ¬(probe.ask aspect token >>= fun value => pure (text value)).Refuses name :=
    not_refuses_bind (not_refuses_ask aspect differs) fun _ => not_refuses_pure _
  cases query with
  | definedness token =>
      refine (refuses_bind_pure_iff _).trans (refuses_isDefinedMacro_iff.trans ?_)
      rw [Query.definedness.injEq]
      constructor
      · rintro ⟨unshaped, rfl⟩
        exact ⟨rfl, unshaped⟩
      · rintro ⟨rfl, unshaped⟩
        exact ⟨unshaped, rfl⟩
  | primitive cType =>
      simp only [reduceCtorEq, false_and, iff_false]
      apply not_refuses_bind not_refuses_equivalentPrimitive
      intro found
      cases found with
      | none => exact nofun
      | some primitive => exact not_refuses_pure _
  | _ =>
      simp only [reduceCtorEq, false_and, iff_false]
      refine told _ _ _ ?_
      exact nofun

/-! ## Requests -/

variable {request : Request} {requests before after : List Request}

theorem verdict_eq_refusal_iff :
    probe.verdict request = .error (.invalidIdentifier name) ↔
      Identifier.rustSpelling? request.name = none ∧ request.name = name := by
  rw [← outcome_itemFor, itemFor]
  cases Identifier.rustSpelling? request.name with
  | none => simp
  | some spelling =>
      simp only [reduceCtorEq, false_and, iff_false]
      change ¬(probe.lookUp request).Refuses name
      cases request with
      | typeAlias cType =>
          apply not_refuses_bind not_refuses_equivalentPrimitive
          intro found
          cases found with
          | none => exact nofun
          | some primitive => exact not_refuses_pure _
      | signedConstant constant =>
          exact not_refuses_bind (not_refuses_ask .signedValue nofun) fun _ => not_refuses_pure _
      | unsignedConstant constant =>
          exact not_refuses_bind (not_refuses_ask .unsignedValue nofun) fun _ => not_refuses_pure _

theorem refuses_generate_iff :
    (probe.generate requests).Refuses name ↔
      ∃ before request after, requests = before ++ request :: after ∧
        (∀ earlier ∈ before, probe.Answers earlier) ∧
        Identifier.rustSpelling? request.name = none ∧ request.name = name := by
  constructor
  · intro refused
    rcases probe.answers_or_refuses requests with
      answered | ⟨before, request, after, error, rfl, answered, failed⟩
    · obtain ⟨bindings, outcome, -⟩ := generate_of_answered answered
      rw [Refuses, outcome] at refused
      cases refused
    · have ended := (foldlM_extend_of_refused answered failed after Bindings.empty).1
      obtain rfl := Except.error.inj (ended.symm.trans refused)
      exact ⟨before, request, after, rfl, answered, verdict_eq_refusal_iff.mp failed⟩
  · rintro ⟨before, request, after, rfl, answered, unspelled⟩
    exact (foldlM_extend_of_refused answered (verdict_eq_refusal_iff.mpr unspelled) after
      Bindings.empty).1

/-- Nothing happens for a refused request and for those behind it. -/
theorem journal_generate_of_unspelled (answered : ∀ earlier ∈ before, probe.Answers earlier)
    (unspelled : Identifier.rustSpelling? request.name = none) :
    (probe.generate (before ++ request :: after)).journal = (probe.generate before).journal := by
  obtain ⟨bindings, generated, -⟩ := generate_of_answered answered
  have refused : (probe.extend bindings request).outcome =
      .error (.invalidIdentifier request.name) :=
    (extend_of_refused (verdict_eq_refusal_iff.mpr ⟨unspelled, rfl⟩) bindings).1
  have silent : (probe.extend bindings request).journal = [] := by
    rw [extend, itemFor, unspelled]
    rfl
  unfold generate at generated ⊢
  rw [List.foldlM_append, Inquiry.journal_bind_ok generated, List.foldlM_cons,
    Inquiry.journal_bind_error refused, silent, List.append_nil]

/-! ## Answered requests -/

/-- An inquiry that has no answer without a compile. -/
def CompilesFirst (inquiry : Inquiry ProbeError α) : Prop :=
  ∀ answer, inquiry.outcome = .ok answer →
    ∃ source, Event.Start.compile source ∈ startsOf inquiry.journal

theorem CompilesFirst.bind {first : Inquiry ProbeError α} (compiles : CompilesFirst first)
    (next : α → Inquiry ProbeError β) : CompilesFirst (first >>= next) := by
  intro answer answered
  obtain ⟨middle, begun, -⟩ := outcome_bind_eq_ok_iff.mp answered
  obtain ⟨source, member⟩ := compiles middle begun
  refine ⟨source, ?_⟩
  rw [Inquiry.journal_bind_ok begun, startsOf_append]
  exact List.mem_append_left _ member

theorem compilesFirst_ask (aspect : Aspect) (differs : aspect ≠ .definedness) (text : String) :
    CompilesFirst (probe.ask aspect text) := by
  rw [ask_eq_pose differs]
  intro answer answered
  obtain ⟨path, made⟩ := (hasScratch_of_outcome_pose answered nofun).made
  exact ⟨_, compile_mem_startsOf_pose made⟩

theorem compilesFirst_itemFor (request : Request) : CompilesFirst (probe.itemFor request) := by
  unfold itemFor
  cases Identifier.rustSpelling? request.name with
  | none => exact nofun
  | some spelling =>
      cases request with
      | typeAlias cType =>
          exact ((compilesFirst_ask .floatingPoint nofun cType).bind _).bind _ |>.bind _
      | signedConstant constant => exact (compilesFirst_ask .signedValue nofun constant).bind _
      | unsignedConstant constant => exact (compilesFirst_ask .unsignedValue nofun constant).bind _

/-- A request that is answered has started the compiler. -/
theorem exists_compile_of_answers (answered : probe.Answers request) :
    ∃ source, Event.Start.compile source ∈ probe.startsFor request := by
  obtain ⟨item, given⟩ := answered
  rw [← outcome_itemFor] at given
  rw [← startsOf_itemFor]
  exact compilesFirst_itemFor request item given

theorem exists_compile_of_generate (answered : ∀ earlier ∈ before, probe.Answers earlier)
    (given : before ≠ []) :
    ∃ source, Event.Start.compile source ∈ startsOf (probe.generate before).journal := by
  obtain ⟨request, others, rfl⟩ := List.exists_cons_of_ne_nil given
  obtain ⟨source, member⟩ := exists_compile_of_answers (answered request List.mem_cons_self)
  obtain ⟨-, -, -, -, starts⟩ := generate_of_answered answered
  refine ⟨source, ?_⟩
  rw [starts, List.flatMap_cons]
  exact List.mem_append_left _ member

/-! ## Operations -/

/-- The ways in which an operation refuses a name, each with the requests answered before. -/
inductive Refused (probe : Probe) : Operation → String → List Request → Prop
  | asked {name : String} (unshaped : Identifier.isIdentifier name = false) :
      Refused probe (.ask .definedness name) name []
  | queried {name : String} (unshaped : Identifier.isIdentifier name = false) :
      Refused probe (.query (.definedness name)) name []
  | requested {before : List Request} {request : Request} (after : List Request)
      (answered : ∀ earlier ∈ before, probe.Answers earlier)
      (unspelled : Identifier.rustSpelling? request.name = none) :
      Refused probe (.generate (before ++ request :: after)) request.name before

theorem journal_of_refused {operation : Operation} (refused : probe.Refused operation name before) :
    (probe.perform operation).journal = (probe.generate before).journal := by
  cases refused with
  | asked unshaped => exact journal_isDefinedMacro_of_unshaped unshaped
  | queried unshaped =>
      refine (Inquiry.journal_bind_silent fun _ => rfl).trans ?_
      exact journal_isDefinedMacro_of_unshaped unshaped
  | requested after answered unspelled => exact journal_generate_of_unspelled answered unspelled

theorem answers_of_refused {operation : Operation} (refused : probe.Refused operation name before) :
    ∀ earlier ∈ before, probe.Answers earlier := by
  cases refused with
  | asked unshaped => exact nofun
  | queried unshaped => exact nofun
  | requested after answered unspelled => exact answered

/-- **A name is refused after the requests before it.** An operation refuses a name exactly when
it asks whether a name that is no identifier is a defined macro, or when it comes to a request
whose name has no spelling. What happened until then is what generating the answered requests
before the refused one takes: nothing if there is none, and at least one compile otherwise. -/
theorem perform_refuses_iff (probe : Probe) (operation : Operation) (name : String) :
    ((probe.perform operation).outcome = .error (.invalidIdentifier name) ↔
      ∃ before, probe.Refused operation name before) ∧
    ∀ before, probe.Refused operation name before →
      (probe.perform operation).journal = (probe.generate before).journal ∧
      ((probe.perform operation).journal = [] ↔ before = []) ∧
      (before ≠ [] → ∃ source,
        Event.Start.compile source ∈ startsOf (probe.perform operation).journal) := by
  constructor
  · constructor
    · intro refused
      cases operation with
      | ask aspect token =>
          obtain ⟨rfl, unshaped, rfl⟩ := refuses_ask_iff.mp refused
          exact ⟨[], .asked unshaped⟩
      | numericKind cType => exact (not_refuses_numericKind refused).elim
      | equivalentInteger cType => exact (not_refuses_equivalentInteger refused).elim
      | equivalentPrimitive cType => exact (not_refuses_equivalentPrimitive refused).elim
      | layout cType => exact (not_refuses_layoutOf refused).elim
      | query query =>
          obtain ⟨rfl, unshaped⟩ := refuses_answer_iff.mp refused
          exact ⟨[], .queried unshaped⟩
      | generate requests =>
          obtain ⟨before, request, after, rfl, answered, unspelled, rfl⟩ :=
            refuses_generate_iff.mp refused
          exact ⟨before, .requested after answered unspelled⟩
    · rintro ⟨before, refused⟩
      cases refused with
      | asked unshaped => exact refuses_ask_iff.mpr ⟨rfl, unshaped, rfl⟩
      | queried unshaped => exact refuses_answer_iff.mpr ⟨rfl, unshaped⟩
      | requested after answered unspelled =>
          exact refuses_generate_iff.mpr ⟨_, _, after, rfl, answered, unspelled, rfl⟩
  · intro before refused
    have journal := journal_of_refused refused
    have compiles := exists_compile_of_generate (answers_of_refused refused)
    rw [journal]
    refine ⟨rfl, ⟨?_, ?_⟩, compiles⟩
    · intro silent
      apply Decidable.of_not_not
      intro given
      obtain ⟨source, member⟩ := compiles given
      rw [silent] at member
      cases member
    · rintro rfl
      rfl

/-- The second of two requests is refused after a program for the first was compiled and run. -/
theorem generate_refuses_after_compile :
    ((Bindings.printingProbe "7\n").generate
        [.signedConstant "LIMIT", .typeAlias "self"]).outcome =
      .error (.invalidIdentifier "self") ∧
    startsOf ((Bindings.printingProbe "7\n").generate
        [.signedConstant "LIMIT", .typeAlias "self"]).journal =
      [.compile ((Bindings.printingProbe "7\n").sourceFor .signedValue "LIMIT"), .run] := by
  constructor
  · have answered : ∀ earlier ∈ [Request.signedConstant "LIMIT"],
        (Bindings.printingProbe "7\n").Answers earlier := by
      intro earlier member
      obtain rfl := List.mem_singleton.mp member
      exact ⟨.signedConstant 7, by decide +kernel⟩
    exact refuses_generate_iff.mpr ⟨_, .typeAlias "self", [], rfl, answered, by decide, rfl⟩
  · decide +kernel

end Probe

end AbiProbe
