import AbiProbe.Bindings.Request
import AbiProbe.Proofs.Bindings.Insertion
import AbiProbe.Proofs.Probe.Trial
import Mathlib.Tactic.Choose

/-! # Requests answered in order

What a list of requests gives follows from what each of them gives by itself
(`AbiProbe.Probe.verdict`): the bindings when all of them are answered, the error of the first
refused one otherwise. The commands started are those of the single requests up to the first
refused one, one request after the other (`AbiProbe.Probe.generate_settles`).
-/

namespace AbiProbe.Probe

/-- What a request gives by itself: a name without a spelling is refused, a type gives an alias
of the primitive that represents it, and a constant its value. -/
def verdict (probe : Probe) (request : Request) : Except ProbeError Item :=
  if Identifier.rustSpelling? request.name = none then .error (.invalidIdentifier request.name)
  else
    match request with
    | .typeAlias cType =>
        match (probe.equivalentPrimitive cType).outcome with
        | .ok (some primitive) => .ok (.typeAlias primitive)
        | .ok none => .error (.unrepresentable cType)
        | .error error => .error error
    | .signedConstant name => (probe.signedConstant name).outcome.map .signedConstant
    | .unsignedConstant name => (probe.unsignedConstant name).outcome.map .unsignedConstant

/-- The commands a request starts by itself. -/
def startsFor (probe : Probe) (request : Request) : List Event.Start :=
  if Identifier.rustSpelling? request.name = none then []
  else
    match request with
    | .typeAlias cType => startsOf (probe.equivalentPrimitive cType).journal
    | .signedConstant name => startsOf (probe.signedConstant name).journal
    | .unsignedConstant name => startsOf (probe.unsignedConstant name).journal

/-- Whether a request by itself gives an item. -/
def Answers (probe : Probe) (request : Request) : Prop :=
  ∃ item, probe.verdict request = .ok item

/-! ## One request -/

theorem outcome_itemFor (probe : Probe) (request : Request) :
    (probe.itemFor request).outcome = probe.verdict request := by
  unfold itemFor verdict
  cases Identifier.rustSpelling? request.name with
  | none => rfl
  | some spelling =>
      simp only [reduceCtorEq, if_false]
      cases request with
      | typeAlias cType =>
          rw [lookUp, Inquiry.outcome_bind]
          dsimp only
          rcases (probe.equivalentPrimitive cType).outcome with error | (_ | primitive) <;> rfl
      | signedConstant name =>
          rw [lookUp, Inquiry.outcome_bind]
          dsimp only
          cases (probe.signedConstant name).outcome <;> rfl
      | unsignedConstant name =>
          rw [lookUp, Inquiry.outcome_bind]
          dsimp only
          cases (probe.unsignedConstant name).outcome <;> rfl

theorem startsOf_itemFor (probe : Probe) (request : Request) :
    startsOf (probe.itemFor request).journal = probe.startsFor request := by
  unfold itemFor startsFor
  cases Identifier.rustSpelling? request.name with
  | none => rfl
  | some spelling =>
      simp only [reduceCtorEq, if_false]
      cases request with
      | typeAlias cType =>
          refine Inquiry.startsOf_bind_silent fun found => ?_
          cases found <;> rfl
      | signedConstant name => exact Inquiry.startsOf_bind_silent fun value => rfl
      | unsignedConstant name => exact Inquiry.startsOf_bind_silent fun value => rfl

/-- A request that is answered extends the bindings by its item. -/
theorem extend_of_answered {probe : Probe} {request : Request} {item : Item}
    (answered : probe.verdict request = .ok item) (bindings : Bindings) :
    (probe.extend bindings request).outcome = .ok (bindings.insert request.name item) ∧
      startsOf (probe.extend bindings request).journal = probe.startsFor request := by
  rw [← outcome_itemFor] at answered
  constructor
  · rw [extend, Inquiry.outcome_bind, answered]
    rfl
  · rw [extend, Inquiry.startsOf_bind_silent fun item => ?_, startsOf_itemFor]
    rw [Inquiry.startsOf_bind_silent fun _ => rfl, Inquiry.startsOf_tell]

/-- A request that is refused ends the inquiry with its error. -/
theorem extend_of_refused {probe : Probe} {request : Request} {error : ProbeError}
    (refused : probe.verdict request = .error error) (bindings : Bindings) :
    (probe.extend bindings request).outcome = .error error ∧
      startsOf (probe.extend bindings request).journal = probe.startsFor request := by
  rw [← outcome_itemFor] at refused
  constructor
  · rw [extend, Inquiry.outcome_bind, refused]
    rfl
  · rw [extend, Inquiry.startsOf_bind_silent fun item => ?_, startsOf_itemFor]
    rw [Inquiry.startsOf_bind_silent fun _ => rfl, Inquiry.startsOf_tell]

/-! ## Lists of requests -/

/-- Requests that are all answered insert their items one after the other. -/
theorem foldlM_extend_of_answered {probe : Probe} {itemOf : Request → Item}
    {requests : List Request}
    (answered : ∀ request ∈ requests, probe.verdict request = .ok (itemOf request))
    (bindings : Bindings) :
    (requests.foldlM probe.extend bindings).outcome =
        .ok (bindings.insertAll (requests.map fun request => (request.name, itemOf request))) ∧
      startsOf (requests.foldlM probe.extend bindings).journal =
        requests.flatMap probe.startsFor := by
  -- The bindings vary, since the later requests extend those of the earlier ones.
  induction requests generalizing bindings with
  | nil => exact ⟨rfl, rfl⟩
  | cons request requests ih =>
      rw [List.forall_mem_cons] at answered
      obtain ⟨extended, started⟩ := extend_of_answered answered.1 bindings
      obtain ⟨outcome, starts⟩ := ih answered.2 (bindings.insert request.name (itemOf request))
      rw [List.foldlM_cons, Inquiry.bind_ok extended]
      refine ⟨outcome, ?_⟩
      rw [startsOf_append, started, starts, List.flatMap_cons]

/-- After answered requests, a refused one ends the inquiry, and no later request is looked at. -/
theorem foldlM_extend_of_refused {probe : Probe} {before : List Request} {request : Request}
    {error : ProbeError} (answered : ∀ earlier ∈ before, probe.Answers earlier)
    (refused : probe.verdict request = .error error) (after : List Request)
    (bindings : Bindings) :
    ((before ++ request :: after).foldlM probe.extend bindings).outcome = .error error ∧
      startsOf ((before ++ request :: after).foldlM probe.extend bindings).journal =
        (before ++ [request]).flatMap probe.startsFor := by
  induction before generalizing bindings with
  | nil =>
      obtain ⟨ended, started⟩ := extend_of_refused refused bindings
      rw [List.nil_append, List.foldlM_cons, Inquiry.bind_error ended]
      exact ⟨rfl, by simpa using started⟩
  | cons earlier before ih =>
      rw [List.forall_mem_cons] at answered
      obtain ⟨item, given⟩ := answered.1
      obtain ⟨extended, started⟩ := extend_of_answered given bindings
      obtain ⟨outcome, starts⟩ := ih answered.2 (bindings.insert earlier.name item)
      rw [List.cons_append, List.foldlM_cons, Inquiry.bind_ok extended]
      refine ⟨outcome, ?_⟩
      rw [startsOf_append, started, starts, List.cons_append, List.flatMap_cons]

/-- Either all requests are answered, or one of them is the first that is refused. -/
theorem answers_or_refuses (probe : Probe) (requests : List Request) :
    (∀ request ∈ requests, probe.Answers request) ∨
      ∃ before request after error, requests = before ++ request :: after ∧
        (∀ earlier ∈ before, probe.Answers earlier) ∧
        probe.verdict request = .error error := by
  induction requests with
  | nil => exact Or.inl (by simp)
  | cons head requests ih =>
      cases given : probe.verdict head with
      | error error => exact Or.inr ⟨[], head, requests, error, rfl, by simp, given⟩
      | ok item =>
          rcases ih with all | ⟨before, request, after, error, rfl, answered, refused⟩
          · exact Or.inl (List.forall_mem_cons.mpr ⟨⟨item, given⟩, all⟩)
          · exact Or.inr ⟨head :: before, request, after, error, rfl,
              List.forall_mem_cons.mpr ⟨⟨item, given⟩, answered⟩, refused⟩

/-- Bindings are given only when every request is answered. -/
theorem answers_of_generate {probe : Probe} {requests : List Request} {bindings : Bindings}
    (generated : (probe.generate requests).outcome = .ok bindings) :
    ∀ request ∈ requests, probe.Answers request := by
  rcases probe.answers_or_refuses requests with
    answered | ⟨before, request, after, error, rfl, answered, refused⟩
  · exact answered
  · have ended := (foldlM_extend_of_refused answered refused after Bindings.empty).1
    rw [generate, ended] at generated
    cases generated

/-- Only a name that has a spelling is answered. -/
theorem Answers.spelled {probe : Probe} {request : Request} (answered : probe.Answers request) :
    (Identifier.rustSpelling? request.name).isSome := by
  obtain ⟨item, given⟩ := answered
  by_cases unspelled : Identifier.rustSpelling? request.name = none
  · unfold verdict at given
    rw [if_pos unspelled] at given
    cases given
  · exact Option.isSome_iff_ne_none.mpr unspelled

/-- Answered requests give bindings with the names in the order of their first request and the
item of the last request of each. -/
theorem generate_of_answered {probe : Probe} {requests : List Request}
    (answered : ∀ request ∈ requests, probe.Answers request) :
    ∃ bindings, (probe.generate requests).outcome = .ok bindings ∧
      bindings.entries.map Prod.fst = (requests.map Request.name).eraseDups ∧
      (∀ name item, (name, item) ∈ bindings.entries ↔
        ∃ before request after, requests = before ++ request :: after ∧
          request.name = name ∧ name ∉ after.map Request.name ∧
          probe.verdict request = .ok item) ∧
      startsOf (probe.generate requests).journal = requests.flatMap probe.startsFor := by
  -- An item for every request, asked or not, makes the run of insertions a function of the list.
  have total : ∀ request, ∃ item, request ∈ requests → probe.verdict request = .ok item := by
    intro request
    by_cases member : request ∈ requests
    · obtain ⟨item, given⟩ := answered request member
      exact ⟨item, fun _ => given⟩
    · exact ⟨.signedConstant 0, fun asked => (member asked).elim⟩
  choose itemOf given using total
  obtain ⟨outcome, starts⟩ := foldlM_extend_of_answered given Bindings.empty
  refine ⟨_, outcome, ?_, ?_, starts⟩
  · rw [Bindings.map_fst_insertAll_empty, List.map_map]
    rfl
  · intro name item
    rw [Bindings.mem_insertAll_empty]
    constructor
    · rintro ⟨front, back, split, last⟩
      obtain ⟨before, rest, rfl, rfl, tail⟩ := List.map_eq_append_iff.mp split
      obtain ⟨request, after, rfl, same, rfl⟩ := List.map_eq_cons_iff.mp tail
      obtain ⟨rfl, rfl⟩ := Prod.mk.inj same
      refine ⟨before, request, after, rfl, rfl, ?_, given request (by simp)⟩
      rwa [List.map_map] at last
    · rintro ⟨before, request, after, rfl, rfl, last, verdict⟩
      have same : itemOf request = item :=
        Except.ok.inj ((given request (by simp)).symm.trans verdict)
      subst same
      refine ⟨before.map fun request => (request.name, itemOf request),
        after.map fun request => (request.name, itemOf request), by simp, ?_⟩
      rwa [List.map_map]

/-- Every name in generated bindings has a spelling. -/
theorem spelled_of_generate {probe : Probe} {requests : List Request} {bindings : Bindings}
    (generated : (probe.generate requests).outcome = .ok bindings) :
    ∀ entry ∈ bindings.entries, (Identifier.rustSpelling? entry.1).isSome := by
  have answered := answers_of_generate generated
  obtain ⟨given, outcome, -, items, -⟩ := generate_of_answered answered
  obtain rfl : bindings = given := Except.ok.inj (generated.symm.trans outcome)
  rintro ⟨name, item⟩ member
  obtain ⟨before, request, after, rfl, rfl, -, -⟩ := (items name item).mp member
  exact (answered request (by simp)).spelled

/-- **Requests are answered in order up to the first refused one.** Bindings are given exactly
when every request is answered by itself, and then list each requested name once, in the order
of first requests, with the item of its last request. Otherwise the error is that of the first
refused request. Either way the commands started are those of the single requests, in order, up
to the first refused one. -/
theorem generate_settles (probe : Probe) (requests : List Request) :
    ((∃ bindings, (probe.generate requests).outcome = .ok bindings) ↔
      ∀ request ∈ requests, ∃ item, probe.verdict request = .ok item) ∧
    (∀ bindings, (probe.generate requests).outcome = .ok bindings →
      bindings.entries.map Prod.fst = (requests.map Request.name).eraseDups ∧
      (∀ name item, (name, item) ∈ bindings.entries ↔
        ∃ before request after, requests = before ++ request :: after ∧
          request.name = name ∧ name ∉ after.map Request.name ∧
          probe.verdict request = .ok item) ∧
      startsOf (probe.generate requests).journal = requests.flatMap probe.startsFor) ∧
    (∀ error, (probe.generate requests).outcome = .error error →
      ∃ before request after, requests = before ++ request :: after ∧
        (∀ earlier ∈ before, ∃ item, probe.verdict earlier = .ok item) ∧
        probe.verdict request = .error error ∧
        startsOf (probe.generate requests).journal =
          (before ++ [request]).flatMap probe.startsFor) := by
  refine ⟨⟨?_, ?_⟩, ?_, ?_⟩
  · rintro ⟨bindings, generated⟩
    exact answers_of_generate generated
  · intro answered
    obtain ⟨bindings, outcome, -⟩ := generate_of_answered answered
    exact ⟨bindings, outcome⟩
  · intro bindings generated
    obtain ⟨given, outcome, names, items, starts⟩ :=
      generate_of_answered (answers_of_generate generated)
    obtain rfl : bindings = given := Except.ok.inj (generated.symm.trans outcome)
    exact ⟨names, items, starts⟩
  · intro error failed
    rcases probe.answers_or_refuses requests with
      answered | ⟨before, request, after, reason, rfl, answered, refused⟩
    · obtain ⟨bindings, outcome, -⟩ := generate_of_answered answered
      rw [outcome] at failed
      cases failed
    · obtain ⟨outcome, starts⟩ :=
        foldlM_extend_of_refused answered refused after Bindings.empty
      obtain rfl : error = reason := Except.error.inj (failed.symm.trans outcome)
      exact ⟨before, request, after, rfl, answered, refused, starts⟩

end AbiProbe.Probe
