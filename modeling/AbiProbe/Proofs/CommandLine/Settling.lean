import AbiProbe.Proofs.CommandLine.Grammar
import AbiProbe.Proofs.Outcome

/-! # Pending options

An option whose value may be the next word is pending until it is settled, when it is recorded
with its value. It makes no difference whether that happens at once
(`AbiProbe.CommandLine.Progress.readRest_of_settle`), and a command line is accepted only if it
can happen at all (`AbiProbe.CommandLine.Progress.exists_settled_of_readRest`).
-/

namespace AbiProbe.CommandLine

variable {subcommand : Subcommand}

namespace Progress

/-- Reads the words that are left and settles what is pending. -/
def readRest (subcommand : Subcommand) (progress : Progress) (words : List String) :
    Except UsageError Scanned := do
  let progress ← words.foldlM (word subcommand) progress
  let progress ← progress.finish subcommand
  return ⟨progress.occurrences, progress.operands⟩

theorem readRest_nil (progress : Progress) :
    readRest subcommand progress [] = progress.finish subcommand >>= fun finished =>
      pure ⟨finished.occurrences, finished.operands⟩ := by
  unfold readRest
  rw [List.foldlM_nil, pure_bind]

theorem readRest_cons (progress : Progress) (text : String) (words : List String) :
    readRest subcommand progress (text :: words) =
      word subcommand progress text >>= fun next => readRest subcommand next words := by
  unfold readRest
  rw [List.foldlM_cons, bind_assoc]

/-! ## Settling -/

section Settling

variable {progress settled : Progress}

theorem settle_eq_ok (done : progress.settle = .ok settled) :
    settled.pending = none ∧ settled.operands = progress.operands ∧
      settled.operandsOnly = progress.operandsOnly := by
  unfold settle at done
  split at done
  · cases done
    exact ⟨‹_›, rfl, rfl⟩
  · unfold record at done
    split at done
    · cases done
    · cases done
      exact ⟨rfl, rfl, rfl⟩

theorem settle_settled (done : progress.settle = .ok settled) : settled.settle = .ok settled := by
  unfold settle
  rw [(settle_eq_ok done).1]

theorem awaiting?_settled (done : progress.settle = .ok settled) : settled.awaiting? = none := by
  unfold awaiting?
  rw [(settle_eq_ok done).1]

/-- What only concerns the words to come does not matter to what is pending. -/
theorem settle_operandsOnly (progress : Progress) :
    { progress with operandsOnly := true }.settle =
      progress.settle.map fun settled => { settled with operandsOnly := true } := by
  obtain ⟨occurrences, pending, operands, only⟩ := progress
  cases pending with
  | none => rfl
  | some occurrence =>
      unfold settle record
      dsimp only
      cases fault? occurrences occurrence <;> rfl

theorem operand_of_settle (done : progress.settle = .ok settled) (text : String) :
    progress.operand subcommand text = settled.operand subcommand text := by
  unfold operand
  rw [(settle_eq_ok done).2.1, done, settle_settled done]

theorem await_of_settle (done : progress.settle = .ok settled) (option : OptionName) :
    progress.await option = settled.await option := by
  unfold await
  rw [done, settle_settled done]

theorem attach_of_settle (done : progress.settle = .ok settled) (option : OptionName)
    (value : String) : progress.attach option value = settled.attach option value := by
  unfold attach
  rw [done, settle_settled done]

theorem raise_of_settle (done : progress.settle = .ok settled) (option : OptionName) :
    progress.raise option = settled.raise option := by
  unfold raise
  rw [done, settle_settled done]

theorem long_of_settle (done : progress.settle = .ok settled) (name : String)
    (value : Option String) :
    progress.long subcommand name value = settled.long subcommand name value := by
  unfold long
  simp only [await_of_settle done, attach_of_settle done, raise_of_settle done]

theorem cluster_of_settle (done : progress.settle = .ok settled) (letter : Char)
    (letters : List Char) :
    cluster subcommand progress (letter :: letters) =
      cluster subcommand settled (letter :: letters) := by
  unfold cluster
  simp only [await_of_settle done, attach_of_settle done, raise_of_settle done]

/-- **It makes no difference when a pending option is recorded,** unless it waits for its value
or has a fault. -/
theorem readRest_of_settle (done : progress.settle = .ok settled)
    (supplied : progress.awaiting? = none) (words : List String) :
    readRest subcommand progress words = readRest subcommand settled words := by
  induction words generalizing progress settled with
  | nil =>
      rw [readRest_nil, readRest_nil, finish, finish, done, settle_settled done]
  | cons text words ih =>
      rw [readRest_cons, readRest_cons]
      have alike : settled.operandsOnly = progress.operandsOnly := (settle_eq_ok done).2.2
      unfold word
      rw [supplied, awaiting?_settled done, alike]
      cases only : progress.operandsOnly with
      | true => simp only [↓reduceIte, operand_of_settle done]
      | false =>
          simp only [Bool.false_eq_true, ↓reduceIte]
          rcases word_cases text with
            rfl | ⟨rest, given, rfl⟩ | ⟨letter, letters, noDash, rfl⟩ | plain
          · -- The option stays pending behind two dashes.
            have pending : { progress with operandsOnly := true }.settle =
                .ok { settled with operandsOnly := true } := by
              rw [settle_operandsOnly, done]
              rfl
            exact ih pending supplied
          · rw [ofText_long given]
            simp only [form, long_of_settle done]
          · rw [ofText_cluster noDash]
            simp only [form, cluster_of_settle done]
          · rw [ofText_plain plain]
            simp only [form, supplied, awaiting?_settled done, operand_of_settle done]

end Settling

/-! ## What has to be settled -/

section Required

variable {progress reached : Progress}

theorem exists_settled_of_bind {β : Type} {next : Progress → Except UsageError β} {answer : β}
    (read : progress.settle >>= next = .ok answer) :
    ∃ settled, progress.settle = .ok settled := by
  obtain ⟨settled, done, -⟩ := bind_eq_ok_iff.mp read
  exact ⟨settled, done⟩

theorem exists_settled_of_operand {text : String}
    (read : progress.operand subcommand text = .ok reached) :
    ∃ settled, progress.settle = .ok settled := by
  unfold operand at read
  split at read
  · exact exists_settled_of_bind read
  · cases read

theorem exists_settled_of_long {name : String} {value : Option String}
    (read : progress.long subcommand name value = .ok reached) :
    ∃ settled, progress.settle = .ok settled := by
  unfold long at read
  split at read
  · cases read
  · split at read
    · exact exists_settled_of_bind read
    · exact exists_settled_of_bind read
    · cases read
    · exact exists_settled_of_bind read

theorem exists_settled_of_cluster {letter : Char} {letters : List Char}
    (read : cluster subcommand progress (letter :: letters) = .ok reached) :
    ∃ settled, progress.settle = .ok settled := by
  unfold cluster at read
  split at read
  · cases read
  · split at read
    · split at read
      · exact exists_settled_of_bind read
      · exact exists_settled_of_bind read
    · obtain ⟨raised, done, -⟩ := bind_eq_ok_iff.mp read
      exact exists_settled_of_bind done

theorem exists_settled_of_nil {scanned : Scanned}
    (read : readRest subcommand progress [] = .ok scanned) :
    ∃ settled, progress.settle = .ok settled := by
  rw [readRest_nil] at read
  obtain ⟨finished, done, -⟩ := bind_eq_ok_iff.mp read
  exact exists_settled_of_bind done

/-- A command line is accepted only if what is pending can be recorded, unless the next word can
still be its value. -/
theorem exists_settled_of_readRest {words : List String} {scanned : Scanned}
    (read : readRest subcommand progress words = .ok scanned)
    (firm : progress.operandsOnly = true ∨ progress.awaiting? = none) :
    ∃ settled, progress.settle = .ok settled := by
  induction words generalizing progress with
  | nil => exact exists_settled_of_nil read
  | cons text words ih =>
      rw [readRest_cons, bind_eq_ok_iff] at read
      obtain ⟨reached, step, read⟩ := read
      unfold word at step
      cases only : progress.operandsOnly with
      | true =>
          simp only [only, ↓reduceIte] at step
          exact exists_settled_of_operand step
      | false =>
          have supplied : progress.awaiting? = none := by simpa [only] using firm
          simp only [only, Bool.false_eq_true, ↓reduceIte, supplied] at step
          rcases word_cases text with
            rfl | ⟨rest, given, rfl⟩ | ⟨letter, letters, noDash, rfl⟩ | plain
          · obtain rfl := Except.ok.inj step
            obtain ⟨settled, done⟩ := ih read (Or.inl rfl)
            rw [settle_operandsOnly] at done
            cases ended : progress.settle with
            | ok settled => exact ⟨settled, rfl⟩
            | error error =>
                rw [ended] at done
                cases done
          · rw [ofText_long given] at step
            exact exists_settled_of_long step
          · rw [ofText_cluster noDash] at step
            exact exists_settled_of_cluster step
          · rw [ofText_plain plain] at step
            simp only [form, supplied] at step
            exact exists_settled_of_operand step

end Required

end Progress

end AbiProbe.CommandLine
