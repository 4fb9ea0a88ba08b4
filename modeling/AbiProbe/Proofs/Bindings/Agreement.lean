import AbiProbe.Bindings.Request
import AbiProbe.Probe.Query
import AbiProbe.Proofs.Probe.Trial
import AbiProbe.Toolchain.Script
import Mathlib.Data.List.Basic

/-! # Questions agree with declarations

A type or a constant can be asked about, which gives a line of text, or it can be declared. Both
ways start the same commands and go by what these print, so the line tells what is declared, and
where there is none nothing is declared either, for the same reason
(`AbiProbe.Probe.answer_agrees_with_generate`).
-/

namespace AbiProbe

/-- The question about what a request declares. -/
def Request.question : Request → Query
  | typeAlias cType => .primitive cType
  | signedConstant name => .signedConstant name
  | unsignedConstant name => .unsignedConstant name

open Text in
/-- Whether a line of text tells what a request declares by an item: the name of the primitive of
a type, or the decimal digits of a constant. -/
inductive Request.TellsOf : Request → Item → String → Prop
  | typeAlias (cType : String) (primitive : Primitive) :
      TellsOf (.typeAlias cType) (.typeAlias primitive) primitive.name
  | signedConstant (name : String) (value : Int64) :
      TellsOf (.signedConstant name) (.signedConstant value) (Decimal.ofInt value.toInt)
  | unsignedConstant (name : String) (value : UInt64) :
      TellsOf (.unsignedConstant name) (.unsignedConstant value) (Decimal.ofNat value.toNat)

theorem Request.TellsOf.unique {request : Request} {item : Item} {first second : String}
    (told : request.TellsOf item first) (toldToo : request.TellsOf item second) :
    first = second := by
  cases told <;> cases toldToo <;> rfl

/-- A failed question is told of in the words of its error. -/
theorem Query.failureMessage_eq (error : ProbeError) : failureMessage error = error.message := by
  cases error <;> rfl

/-! ## Inquiries that agree -/

/-- Two inquiries that start the same commands and either have related answers or fail with the
same error. -/
structure Inquiry.Agrees {α β : Type} (related : α → β → Prop) (first : Inquiry ProbeError α)
    (second : Inquiry ProbeError β) : Prop where
  commands : commandsOf first.journal = commandsOf second.journal
  outcomes : (∃ answer other, first.outcome = .ok answer ∧ second.outcome = .ok other ∧
      related answer other) ∨
    ∃ error, first.outcome = .error error ∧ second.outcome = .error error

namespace Inquiry

variable {α β γ : Type} {related : β → γ → Prop}

theorem Agrees.refused (error : ProbeError) :
    Agrees related (settled (.error error)) (settled (.error error)) :=
  ⟨rfl, Or.inr ⟨error, rfl, rfl⟩⟩

/-- Inquiries agree that begin alike and then go on in agreement. -/
theorem Agrees.bind {first : Inquiry ProbeError α} {next : α → Inquiry ProbeError β}
    {other : α → Inquiry ProbeError γ}
    (goesOn : ∀ answer, (next answer).Agrees related (other answer)) :
    (first >>= next).Agrees related (first >>= other) := by
  cases ended : first.outcome with
  | error error =>
      rw [bind_error ended, bind_error ended]
      exact ⟨rfl, Or.inr ⟨error, rfl, rfl⟩⟩
  | ok answer =>
      obtain ⟨commands, outcomes⟩ := goesOn answer
      rw [bind_ok ended, bind_ok ended]
      refine ⟨?_, outcomes⟩
      rw [commandsOf_append, commandsOf_append, commands]

end Inquiry

/-! ## Single requests -/

namespace Probe

variable {probe : Probe} {request : Request}

/-- Declares one item and nothing else. -/
def declareOnly (probe : Probe) (name : String) (item : Item) : Inquiry ProbeError Bindings := do
  Inquiry.tell probe.log (itemRecord name item)
  return Bindings.empty.insert name item

/-- A single request is looked up, and what is found is all that is declared. -/
theorem generate_singleton_eq (spelled : (Identifier.rustSpelling? request.name).isSome) :
    probe.generate [request] = probe.lookUp request >>= probe.declareOnly request.name := by
  obtain ⟨spelling, found⟩ := Option.isSome_iff_exists.mp spelled
  have looked : probe.itemFor request = probe.lookUp request := by
    rw [itemFor, found]
  rw [generate, List.foldlM_cons, extend, looked]
  simp only [List.foldlM_nil, bind_pure]
  rfl

theorem declareOnly_agrees {text : String} {item : Item} (told : request.TellsOf item text) :
    (pure text : Inquiry ProbeError String).Agrees
      (fun text bindings => ∃ item, bindings.entries = [(request.name, item)] ∧
        request.TellsOf item text)
      (probe.declareOnly request.name item) where
  commands := by
    rw [declareOnly, Inquiry.commandsOf_bind_silent fun _ => rfl, Inquiry.commandsOf_tell]
    rfl
  outcomes := Or.inl ⟨text, _, rfl, rfl, item, rfl, told⟩

/-- The question about a request agrees with its declaration. -/
theorem answer_agrees_declareOnly (probe : Probe) (request : Request) :
    (probe.answer request.question).Agrees
      (fun text bindings => ∃ item, bindings.entries = [(request.name, item)] ∧
        request.TellsOf item text)
      (probe.lookUp request >>= probe.declareOnly request.name) := by
  cases request with
  | typeAlias cType =>
      rw [lookUp, bind_assoc]
      refine Inquiry.Agrees.bind fun found => ?_
      cases found with
      | none => exact .refused (.unrepresentable cType)
      | some primitive => exact declareOnly_agrees (.typeAlias cType primitive)
  | signedConstant name =>
      rw [lookUp, bind_assoc]
      exact Inquiry.Agrees.bind fun value => declareOnly_agrees (.signedConstant name value)
  | unsignedConstant name =>
      rw [lookUp, bind_assoc]
      exact Inquiry.Agrees.bind fun value => declareOnly_agrees (.unsignedConstant name value)

/-- **Questions agree with declarations.** A question about a request of a name that has a
spelling is answered by a text exactly when the request by itself is answered by an item of which
the text tells what it declares. Otherwise both fail, and are told of in the same words. Either
way the same programs are compiled and run, with the same results. -/
theorem answer_agrees_with_generate (probe : Probe) (request : Request)
    (spelled : (Identifier.rustSpelling? request.name).isSome) :
    (∀ text, (probe.answer request.question).outcome = .ok text ↔
      ∃ bindings item, (probe.generate [request]).outcome = .ok bindings ∧
        bindings.entries = [(request.name, item)] ∧ request.TellsOf item text) ∧
    ((∀ text, (probe.answer request.question).outcome ≠ .ok text) →
      ∃ failure error, (probe.answer request.question).outcome = .error failure ∧
        (probe.generate [request]).outcome = .error error ∧
        Query.failureMessage failure = error.message) ∧
    commandsOf (probe.answer request.question).journal =
      commandsOf (probe.generate [request]).journal := by
  rw [generate_singleton_eq spelled]
  obtain ⟨commands, outcomes⟩ := answer_agrees_declareOnly probe request
  refine ⟨?_, ?_, commands⟩
  · intro text
    rcases outcomes with ⟨answer, bindings, answered, declared, item, entries, told⟩ |
      ⟨error, failed, undeclared⟩
    · rw [answered, declared]
      constructor
      · intro same
        obtain rfl := Except.ok.inj same
        exact ⟨bindings, item, rfl, entries, told⟩
      · -- One item is declared, and only one text tells of it.
        rintro ⟨_, other, ⟨⟩, entriesToo, toldToo⟩
        have same : item = other :=
          congrArg Prod.snd (List.singleton_inj.mp (entries.symm.trans entriesToo))
        subst same
        rw [told.unique toldToo]
    · rw [failed, undeclared]
      exact ⟨nofun, nofun⟩
  · intro unanswered
    rcases outcomes with ⟨answer, bindings, answered, -⟩ | ⟨error, failed, undeclared⟩
    · exact absurd answered (unanswered answer)
    · exact ⟨error, error, failed, undeclared, Query.failureMessage_eq error⟩

/-- A probe to which every type is an unsigned integer of sixteen bytes, and every limit seven. -/
def wideProbe : Probe where
  includes := .ofHeaders []
  workDir := "."
  toolchain := .ofScript
    [⟨["sizeof"], .ok (Toolchain.printed 0 "" ""), .ok (Toolchain.printed 0 "16\n" "")⟩,
      ⟨["LIMIT"], .ok (Toolchain.printed 0 "" ""), .ok (Toolchain.printed 0 "7\n" "")⟩,
      ⟨[], .ok (Toolchain.printed 0 "" ""), .ok (Toolchain.printed 0 "false\n" "")⟩]

/-- A limit is declared as it is answered. A type that no primitive represents is reported as such
both ways, in the same words and after the same three programs. -/
theorem answer_agrees_with_generate_wide :
    (∃ bindings item,
      (wideProbe.answer (.signedConstant "LIMIT")).outcome = .ok "7" ∧
      (wideProbe.generate [.signedConstant "LIMIT"]).outcome = .ok bindings ∧
      bindings.entries = [("LIMIT", item)] ∧
      (Request.signedConstant "LIMIT").TellsOf item "7") ∧
    ∃ error,
      (wideProbe.answer (.primitive "wide")).outcome = .error (.unrepresentable "wide") ∧
      (wideProbe.generate [.typeAlias "wide"]).outcome = .error error ∧
      Query.failureMessage (.unrepresentable "wide") = error.message ∧
      commandsOf (wideProbe.answer (.primitive "wide")).journal =
        commandsOf (wideProbe.generate [.typeAlias "wide"]).journal := by
  have spelledLimit : (Identifier.rustSpelling? (Request.signedConstant "LIMIT").name).isSome := by
    decide
  have spelledWide : (Identifier.rustSpelling? (Request.typeAlias "wide").name).isSome := by
    decide
  have answered : (wideProbe.answer (.signedConstant "LIMIT")).outcome = .ok "7" := by
    decide +kernel
  have failed : (wideProbe.answer (.primitive "wide")).outcome =
      .error (.unrepresentable "wide") := by
    decide +kernel
  obtain ⟨answers, -, -⟩ :=
    answer_agrees_with_generate wideProbe (.signedConstant "LIMIT") spelledLimit
  obtain ⟨-, fails, commands⟩ :=
    answer_agrees_with_generate wideProbe (.typeAlias "wide") spelledWide
  constructor
  · obtain ⟨bindings, item, generated, entries, told⟩ := (answers "7").mp answered
    exact ⟨bindings, item, answered, generated, entries, told⟩
  · have unanswered : ∀ text, (wideProbe.answer (.primitive "wide")).outcome ≠ .ok text := by
      intro text other
      cases failed.symm.trans other
    obtain ⟨failure, error, same, undeclared, message⟩ := fails unanswered
    obtain rfl : failure = .unrepresentable "wide" := Except.error.inj (same.symm.trans failed)
    exact ⟨error, failed, undeclared, message, commands⟩

end Probe

end AbiProbe
