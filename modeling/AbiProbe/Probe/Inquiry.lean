import AbiProbe.Probe.Event

/-! # Inquiries

An inquiry has an outcome and the journal of what happened on the way to it. A later part of an
inquiry happens after the earlier ones and only if they succeeded, so the journal of a whole is
the journals of its parts up to the first failure, one after the other
(`AbiProbe.Inquiry.journal_bind_ok`).
-/

namespace AbiProbe

/-- An outcome and what happened on the way to it. -/
structure Inquiry (ε α : Type) where
  /-- What happened, in order. -/
  journal : List Event
  /-- How it ended. -/
  outcome : Except ε α

namespace Inquiry

variable {ε ε' α β : Type}

/-- A settled inquiry, in which nothing happens. -/
def settled (outcome : Except ε α) : Inquiry ε α :=
  ⟨[], outcome⟩

/-- A single event. -/
def note (event : Event) : Inquiry ε Unit :=
  ⟨[event], .ok ()⟩

/-- Puts a record into a log, if the log shows it. -/
def tell (log : Log.Filter) (record : Log.Record) : Inquiry ε Unit :=
  ⟨if log.shows record then [.logged record] else [], .ok ()⟩

/-- An inquiry followed, if it succeeds, by another on its answer. -/
def andThen (first : Inquiry ε α) (next : α → Inquiry ε β) : Inquiry ε β :=
  match first.outcome with
  | .error error => ⟨first.journal, .error error⟩
  | .ok answer => ⟨first.journal ++ (next answer).journal, (next answer).outcome⟩

/-- What an inquiry answers, as it is told by a function, or else what comes of its error. -/
def recover (inquiry : Inquiry ε α) (tell : α → β) (resume : ε → Inquiry ε' β) : Inquiry ε' β :=
  match inquiry.outcome with
  | .ok answer => ⟨inquiry.journal, .ok (tell answer)⟩
  | .error error => ⟨inquiry.journal ++ (resume error).journal, (resume error).outcome⟩

instance : Monad (Inquiry ε) where
  pure answer := settled (.ok answer)
  bind := andThen

/-- The same inquiry with its error told in other terms. -/
def mapError (tell : ε → ε') (inquiry : Inquiry ε α) : Inquiry ε' α :=
  ⟨inquiry.journal, inquiry.outcome.mapError tell⟩

@[simp]
theorem journal_pure (answer : α) : (pure answer : Inquiry ε α).journal = [] := rfl

@[simp]
theorem outcome_pure (answer : α) : (pure answer : Inquiry ε α).outcome = .ok answer := rfl

@[simp]
theorem journal_settled (outcome : Except ε α) : (settled outcome).journal = [] := rfl

@[simp]
theorem outcome_settled (outcome : Except ε α) : (settled outcome).outcome = outcome := rfl

@[simp]
theorem journal_note (event : Event) : (note event : Inquiry ε Unit).journal = [event] := rfl

@[simp]
theorem outcome_note (event : Event) : (note event : Inquiry ε Unit).outcome = .ok () := rfl

@[simp]
theorem outcome_tell (log : Log.Filter) (record : Log.Record) :
    (tell log record : Inquiry ε Unit).outcome = .ok () := rfl

/-- Only records get into a log. -/
theorem isLogged_of_mem_tell {log : Log.Filter} {record : Log.Record} {event : Event}
    (member : event ∈ (tell log record : Inquiry ε Unit).journal) : event.isLogged = true := by
  unfold tell at member
  dsimp only at member
  split at member
  · obtain rfl := List.mem_singleton.mp member
    rfl
  · cases member

@[simp]
theorem journal_mapError (tell : ε → ε') (inquiry : Inquiry ε α) :
    (inquiry.mapError tell).journal = inquiry.journal := rfl

@[simp]
theorem outcome_mapError (tell : ε → ε') (inquiry : Inquiry ε α) :
    (inquiry.mapError tell).outcome = inquiry.outcome.mapError tell := rfl

theorem bind_error {first : Inquiry ε α} {error : ε} (failed : first.outcome = .error error)
    (next : α → Inquiry ε β) : first >>= next = ⟨first.journal, .error error⟩ := by
  change andThen first next = _
  rw [andThen, failed]

theorem bind_ok {first : Inquiry ε α} {answer : α} (answered : first.outcome = .ok answer)
    (next : α → Inquiry ε β) :
    first >>= next = ⟨first.journal ++ (next answer).journal, (next answer).outcome⟩ := by
  change andThen first next = _
  rw [andThen, answered]

/-- Parts of an inquiry may be grouped in any way. -/
instance : LawfulMonad (Inquiry ε) :=
  LawfulMonad.mk' _
    (fun inquiry => by
      change andThen inquiry (fun answer => pure answer) = inquiry
      cases inquiry with
      | mk journal outcome => cases outcome <;> simp [andThen])
    (fun answer next => bind_ok rfl next)
    (fun first second third => by
      cases begun : first.outcome with
      | error error => rw [bind_error begun, bind_error begun, bind_error rfl]
      | ok answer =>
          rw [bind_ok begun, bind_ok begun]
          cases continued : (second answer).outcome with
          | error error => rw [bind_error continued, bind_error rfl]
          | ok middle => rw [bind_ok continued, bind_ok rfl, List.append_assoc])

/-- Where an inquiry has an answer, nothing is made up for it. -/
theorem recover_ok {inquiry : Inquiry ε α} {answer : α} (answered : inquiry.outcome = .ok answer)
    (tell : α → β) (resume : ε → Inquiry ε' β) :
    inquiry.recover tell resume = ⟨inquiry.journal, .ok (tell answer)⟩ := by
  rw [recover, answered]

/-- Where an inquiry fails, what comes of its error happens after it. -/
theorem recover_error {inquiry : Inquiry ε α} {error : ε} (failed : inquiry.outcome = .error error)
    (tell : α → β) (resume : ε → Inquiry ε' β) :
    inquiry.recover tell resume =
      ⟨inquiry.journal ++ (resume error).journal, (resume error).outcome⟩ := by
  rw [recover, failed]

/-- After an answer, the journal goes on with the journal of what follows. -/
theorem journal_bind_ok {first : Inquiry ε α} {answer : α} (answered : first.outcome = .ok answer)
    (next : α → Inquiry ε β) :
    (first >>= next).journal = first.journal ++ (next answer).journal := by
  rw [bind_ok answered]

/-- After an error nothing happens. -/
theorem journal_bind_error {first : Inquiry ε α} {error : ε}
    (failed : first.outcome = .error error) (next : α → Inquiry ε β) :
    (first >>= next).journal = first.journal := by
  rw [bind_error failed]

/-- Where nothing happens in what follows, the journal stays as it is. -/
theorem journal_bind_silent {first : Inquiry ε α} {next : α → Inquiry ε β}
    (silent : ∀ answer, (next answer).journal = []) :
    (first >>= next).journal = first.journal := by
  cases ended : first.outcome with
  | error error => rw [journal_bind_error ended]
  | ok answer => rw [journal_bind_ok ended, silent answer, List.append_nil]

/-- What holds of all that happens in the parts holds of all that happens in the whole. -/
theorem forall_mem_journal_bind {holds : Event → Prop} {first : Inquiry ε α}
    {next : α → Inquiry ε β} (begun : ∀ event ∈ first.journal, holds event)
    (continued : ∀ answer, ∀ event ∈ (next answer).journal, holds event) :
    ∀ event ∈ (first >>= next).journal, holds event := by
  cases ended : first.outcome with
  | error error => rwa [journal_bind_error ended]
  | ok answer =>
      rw [journal_bind_ok ended]
      exact List.forall_mem_append.mpr ⟨begun, continued answer⟩

/-- The outcome of a whole is the outcome of its second part on the answer of its first. -/
theorem outcome_bind (first : Inquiry ε α) (next : α → Inquiry ε β) :
    (first >>= next).outcome = first.outcome.bind fun answer => (next answer).outcome := by
  cases ended : first.outcome with
  | error error =>
      rw [bind_error ended]
      rfl
  | ok answer =>
      rw [bind_ok ended]
      rfl

/-- A whole has an answer when both its parts have. -/
theorem outcome_bind_eq_ok_iff {first : Inquiry ε α} {next : α → Inquiry ε β} {answer : β} :
    (first >>= next).outcome = .ok answer ↔
      ∃ middle, first.outcome = .ok middle ∧ (next middle).outcome = .ok answer := by
  rw [outcome_bind]
  cases first.outcome <;> simp [Except.bind]

/-- A whole fails with the error of its first part, or of its second after an answer. -/
theorem outcome_bind_eq_error_iff {first : Inquiry ε α} {next : α → Inquiry ε β} {error : ε} :
    (first >>= next).outcome = .error error ↔
      first.outcome = .error error ∨
        ∃ middle, first.outcome = .ok middle ∧ (next middle).outcome = .error error := by
  rw [outcome_bind]
  cases first.outcome <;> simp [Except.bind]

end Inquiry

end AbiProbe
