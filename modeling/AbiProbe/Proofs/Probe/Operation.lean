import AbiProbe.Bindings.Request
import AbiProbe.Probe.Query
import AbiProbe.Proofs.Probe.Layout

/-! # Operations of a probe

Everything a probe can be asked is put together from single questions, each of them a program
that is compiled and run. What holds of every single question and is kept when one inquiry
follows another therefore holds of every operation, whether it is said of the inquiries of one
probe or relates those of two (`AbiProbe.Probe.Congruent.perform`). The tolerance of a layout for
failures is the one thing that needs an argument of its own. It adds at most a record to the log,
so it keeps whatever a journal has if its parts have it (`AbiProbe.Accumulates.perform`).
-/

namespace AbiProbe

/-- Something a probe can be asked. -/
inductive Operation
  /-- One aspect of a name. -/
  | ask (aspect : Aspect) (name : String)
  | numericKind (cType : String)
  | equivalentInteger (cType : String)
  | equivalentPrimitive (cType : String)
  | layout (cType : String)
  /-- A question answered by one line of text. -/
  | query (query : Query)
  /-- The bindings for some requests. -/
  | generate (requests : List Request)

/-- The answers an operation can have. -/
def Operation.Answer : Operation → Type
  | ask aspect _ => aspect.answer.Value
  | numericKind _ => NumericKind
  | equivalentInteger _ => Option Primitive
  | equivalentPrimitive _ => Option Primitive
  | layout _ => TypeLayout
  | query _ => String
  | generate _ => Bindings

/-- Whether an error tells how compiling or running a program went wrong. The other errors are
verdicts on a name or a type. -/
def ProbeError.IsOfTrial : ProbeError → Prop
  | system _ => True
  | compile _ => True
  | run _ _ => True
  | unexpectedOutput _ _ => True
  | invalidIdentifier _ => False
  | unrepresentable _ => False

namespace Probe

/-- Carries out an operation. -/
def perform (probe : Probe) : (operation : Operation) → Inquiry ProbeError operation.Answer
  | .ask aspect name => probe.ask aspect name
  | .numericKind cType => probe.numericKind cType
  | .equivalentInteger cType => probe.equivalentInteger cType
  | .equivalentPrimitive cType => probe.equivalentPrimitive cType
  | .layout cType => probe.layoutOf cType
  | .query query => probe.answer query
  | .generate requests => probe.generate requests

/-- A relation between the inquiries of two probes in which single questions stand, as well as
settled verdicts and log records, and that is kept when one inquiry follows another. -/
structure Congruent (first second : Probe)
    (Related : ∀ {α : Type}, Inquiry ProbeError α → Inquiry ProbeError α → Prop) : Prop where
  posed : ∀ aspect name, Related (first.pose aspect name) (second.pose aspect name)
  answered : ∀ {α : Type} (answer : α), Related (pure answer) (pure answer)
  refused : ∀ {α : Type} (error : ProbeError), ¬error.IsOfTrial →
    Related (Inquiry.settled (.error error) : Inquiry ProbeError α)
      (Inquiry.settled (.error error))
  told : ∀ record, Related (Inquiry.tell first.log record) (Inquiry.tell second.log record)
  bind : ∀ {α β : Type} {begun also : Inquiry ProbeError α}
    {next other : α → Inquiry ProbeError β},
    Related begun also → (∀ answer, Related (next answer) (other answer)) →
      Related (begun >>= next) (also >>= other)

/-- A property of inquiries that single questions have, as well as settled verdicts and log
records, and that is kept when one inquiry follows another. -/
abbrev Compositional (probe : Probe) (Holds : ∀ {α : Type}, Inquiry ProbeError α → Prop) : Prop :=
  Congruent probe probe fun inquiry _ => Holds inquiry

namespace Congruent

variable {first second : Probe}
  {Related : ∀ {α : Type}, Inquiry ProbeError α → Inquiry ProbeError α → Prop}
  (congruent : Congruent first second Related)

include congruent

theorem ask (aspect : Aspect) (name : String) :
    Related (first.ask aspect name) (second.ask aspect name) := by
  unfold Probe.ask
  by_cases unaskable : aspect = .definedness ∧ !Identifier.isIdentifier name
  · rw [if_pos unaskable, if_pos unaskable]
    exact congruent.refused _ id
  · rw [if_neg unaskable, if_neg unaskable]
    exact congruent.posed aspect name

theorem numericKind (cType : String) :
    Related (first.numericKind cType) (second.numericKind cType) := by
  refine congruent.bind (congruent.ask .floatingPoint cType) fun floating => ?_
  cases floating with
  | true => exact congruent.answered _
  | false =>
      refine congruent.bind (congruent.ask .signedness cType) fun signed => ?_
      cases signed with
      | true => exact congruent.answered _
      | false => exact congruent.answered _

theorem equivalentInteger (cType : String) :
    Related (first.equivalentInteger cType) (second.equivalentInteger cType) := by
  refine congruent.bind (congruent.numericKind cType) fun kind => ?_
  have sized : Related
      (first.sizeOf cType >>= fun size => pure (Primitive.ofLayout? kind size))
      (second.sizeOf cType >>= fun size => pure (Primitive.ofLayout? kind size)) :=
    congruent.bind (congruent.ask .size cType) fun _ => congruent.answered _
  cases kind with
  | float => exact congruent.answered _
  | signedInt => exact sized
  | unsignedInt => exact sized

theorem equivalentPrimitive (cType : String) :
    Related (first.equivalentPrimitive cType) (second.equivalentPrimitive cType) := by
  refine congruent.bind (congruent.numericKind cType) fun kind => ?_
  exact congruent.bind (congruent.ask .size cType) fun _ => congruent.answered _

/-- Layouts are related where tolerance for failures to compile keeps the relation as well. -/
theorem layoutOf
    (tolerant : ∀ {α : Type} {begun also : Inquiry ProbeError α},
      Related begun also → Related (first.ifCompiles begun) (second.ifCompiles also))
    (cType : String) : Related (first.layoutOf cType) (second.layoutOf cType) := by
  refine congruent.bind (congruent.ask .size cType) fun size => ?_
  refine congruent.bind (tolerant (congruent.ask .alignment cType)) fun align => ?_
  refine congruent.bind (tolerant (congruent.numericKind cType)) fun kind => ?_
  exact congruent.answered _

theorem answer (query : Query) : Related (first.answer query) (second.answer query) := by
  have told {aspect : Aspect} {name : String} (text : aspect.answer.Value → String) :
      Related (first.ask aspect name >>= fun value => pure (text value))
        (second.ask aspect name >>= fun value => pure (text value)) :=
    congruent.bind (congruent.ask aspect name) fun _ => congruent.answered _
  cases query with
  | size cType => exact told _
  | alignment cType => exact told _
  | signedness cType => exact told _
  | definedness macroName => exact told _
  | signedConstant name => exact told _
  | unsignedConstant name => exact told _
  | primitive cType =>
      refine congruent.bind (congruent.equivalentPrimitive cType) fun found => ?_
      cases found with
      | none => exact congruent.refused _ id
      | some primitive => exact congruent.answered _

theorem lookUp (request : Request) : Related (first.lookUp request) (second.lookUp request) := by
  cases request with
  | typeAlias cType =>
      refine congruent.bind (congruent.equivalentPrimitive cType) fun found => ?_
      cases found with
      | none => exact congruent.refused _ id
      | some primitive => exact congruent.answered _
  | signedConstant name =>
      exact congruent.bind (congruent.ask .signedValue name) fun _ => congruent.answered _
  | unsignedConstant name =>
      exact congruent.bind (congruent.ask .unsignedValue name) fun _ => congruent.answered _

theorem itemFor (request : Request) :
    Related (first.itemFor request) (second.itemFor request) := by
  unfold Probe.itemFor
  cases Identifier.rustSpelling? request.name with
  | none => exact congruent.refused _ id
  | some spelling => exact congruent.lookUp request

theorem extend (bindings : Bindings) (request : Request) :
    Related (first.extend bindings request) (second.extend bindings request) := by
  refine congruent.bind (congruent.itemFor request) fun item => ?_
  exact congruent.bind (congruent.told _) fun _ => congruent.answered _

theorem generate (requests : List Request) :
    Related (first.generate requests) (second.generate requests) := by
  unfold Probe.generate
  -- The bindings vary, since each request extends those of the requests before it.
  generalize Bindings.empty = bindings
  induction requests generalizing bindings with
  | nil => exact congruent.answered bindings
  | cons request requests ih =>
      rw [List.foldlM_cons, List.foldlM_cons]
      exact congruent.bind (congruent.extend bindings request) ih

/-- **What holds of single questions holds of operations,** of layouts where it is kept by their
tolerance. -/
theorem perform (operation : Operation)
    (layout : ∀ cType, operation = .layout cType →
      Related (first.layoutOf cType) (second.layoutOf cType)) :
    Related (first.perform operation) (second.perform operation) := by
  cases operation with
  | ask aspect name => exact congruent.ask aspect name
  | numericKind cType => exact congruent.numericKind cType
  | equivalentInteger cType => exact congruent.equivalentInteger cType
  | equivalentPrimitive cType => exact congruent.equivalentPrimitive cType
  | layout cType => exact layout cType rfl
  | query query => exact congruent.answer query
  | generate requests => exact congruent.generate requests

end Congruent

end Probe

/-! ## Properties of journals -/

/-- A property that a journal has if its parts have it. -/
structure Accumulates (Holds : List Event → Prop) : Prop where
  nil : Holds []
  append : ∀ {first second : List Event}, Holds first → Holds second → Holds (first ++ second)

namespace Accumulates

variable {Holds : List Event → Prop} (accumulates : Accumulates Holds) {ε α β : Type}

include accumulates

theorem of_events {journal : List Event} (each : ∀ event ∈ journal, Holds [event]) :
    Holds journal := by
  induction journal with
  | nil => exact accumulates.nil
  | cons event journal ih =>
      obtain ⟨first, rest⟩ := List.forall_mem_cons.mp each
      exact accumulates.append first (ih rest)

theorem bind {first : Inquiry ε α} {next : α → Inquiry ε β} (begun : Holds first.journal)
    (continued : ∀ answer, first.outcome = .ok answer → Holds (next answer).journal) :
    Holds (first >>= next).journal := by
  cases ended : first.outcome with
  | error error => rwa [Inquiry.journal_bind_error ended]
  | ok answer =>
      rw [Inquiry.journal_bind_ok ended]
      exact accumulates.append begun (continued answer ended)

section

variable (logged : ∀ record, Holds [.logged record])

include logged

theorem tell (log : Log.Filter) (record : Log.Record) :
    Holds (Inquiry.tell log record : Inquiry ε Unit).journal := by
  refine accumulates.of_events fun event member => ?_
  have recorded := Inquiry.isLogged_of_mem_tell member
  cases event with
  | logged record => exact logged record
  | _ => cases recorded

theorem ifCompiles {inquiry : Inquiry ProbeError α} (probe : Probe)
    (holds : Holds inquiry.journal) : Holds (probe.ifCompiles inquiry).journal := by
  rcases probe.journal_ifCompiles inquiry with same | ⟨record, noted⟩
  · rwa [same]
  · rw [noted]
    exact accumulates.append holds (accumulates.tell logged probe.log record)

variable {probe : Probe} (checked : ∀ source, Holds (probe.checkRun source).journal)

include checked

theorem compositional : probe.Compositional fun inquiry => Holds inquiry.journal where
  posed aspect name := by
    refine accumulates.bind (accumulates.tell logged probe.log _) fun _ _ => ?_
    refine accumulates.bind (checked _) fun trial _ => ?_
    exact accumulates.bind accumulates.nil fun printed _ => accumulates.nil
  answered _ := accumulates.nil
  refused _ _ := accumulates.nil
  told := accumulates.tell logged probe.log
  bind begun continued := accumulates.bind begun fun answer _ => continued answer

/-- What holds of a check of each source and of each record holds of all that happens in an
operation. -/
theorem perform (operation : Operation) : Holds (probe.perform operation).journal :=
  have compositional := accumulates.compositional logged checked
  compositional.perform operation fun cType _ =>
    compositional.layoutOf (accumulates.ifCompiles logged probe) cType

end

end Accumulates

end AbiProbe
