import AbiProbe.Probe.WorkDir
import AbiProbe.Proofs.Probe.Layout
import AbiProbe.Proofs.Probe.Operation
import AbiProbe.Proofs.Probe.Verdict

/-! # No scratch directory outlives a check

A check opens a scratch directory, works in it and removes it, however the check ends. Where
scratch directories can be removed, what happens in a step of a probe therefore leaves the entries
of the work directory as they were (`AbiProbe.Probe.entries_after_step`), and at no moment of a
step is there more than one scratch directory beside them.
-/

namespace AbiProbe

namespace WorkDir

/-- The scratch directories of a work directory were all opened before the next one, whose
serial number is therefore fresh. -/
def IsNumbered (dir : WorkDir) : Prop :=
  ∀ serial source hasProgram,
    WorkDirEntry.scratch serial source hasProgram ∈ dir.entries → serial ≤ dir.opened

/-- A work directory with a new scratch directory in it. -/
def withScratch (dir : WorkDir) (source : String) (hasProgram : Bool) : WorkDir :=
  ⟨dir.entries ++ [.scratch (dir.opened + 1) source hasProgram], dir.opened + 1⟩

theorem isNumbered_ofNames (names : List String) : (ofNames names).IsNumbered := by
  intro serial source hasProgram member
  obtain ⟨name, -, same⟩ := List.mem_map.mp member
  cases same

theorem IsNumbered.mono {dir : WorkDir} (numbered : dir.IsNumbered) {opened : Nat}
    (later : dir.opened ≤ opened) : IsNumbered ⟨dir.entries, opened⟩ := by
  intro serial source hasProgram member
  exact Nat.le_trans (numbered serial source hasProgram member) later

@[simp]
theorem replay_nil (dir : WorkDir) : dir.replay [] = dir := rfl

@[simp]
theorem replay_cons (dir : WorkDir) (event : Event) (journal : List Event) :
    dir.replay (event :: journal) = (dir.apply event).replay journal := rfl

theorem replay_append (dir : WorkDir) (first second : List Event) :
    dir.replay (first ++ second) = (dir.replay first).replay second :=
  List.foldl_append

/-! ## Inside a scratch directory -/

/-- A successful compile puts a program into the open scratch directory and into no other. -/
theorem map_withProgram {dir : WorkDir} (numbered : dir.IsNumbered) :
    dir.entries.map (withProgram (dir.opened + 1)) = dir.entries := by
  have unchanged : ∀ entry ∈ dir.entries, withProgram (dir.opened + 1) entry = entry := by
    intro entry member
    cases entry with
    | foreign name => rfl
    | scratch serial source hasProgram =>
        have earlier := numbered serial source hasProgram member
        have other : serial ≠ dir.opened + 1 := by omega
        simp [withProgram, other]
  rw [List.map_congr_left unchanged, List.map_id']

/-- What happens inside a scratch directory leaves nothing but a program there. -/
theorem apply_withScratch {dir : WorkDir} (numbered : dir.IsNumbered) (source : String)
    (hasProgram : Bool) {event : Event}
    (inside : event.isLogged = true ∨ event.isCommand = true) :
    ∃ hasProgram', (dir.withScratch source hasProgram).apply event =
      dir.withScratch source hasProgram' := by
  cases event with
  | compiled command compiledSource result =>
      cases result with
      | error reason => exact ⟨hasProgram, rfl⟩
      | ok output =>
          by_cases success : output.status = .code 0
          · refine ⟨true, ?_⟩
            simp only [apply, ExitStatus.isSuccess_iff, success, ↓reduceIte, withScratch,
              List.map_append, map_withProgram numbered]
            simp [withProgram]
          · exact ⟨hasProgram, by simp [apply, success]⟩
  | ran ranSource result => exact ⟨hasProgram, rfl⟩
  | logged record => exact ⟨hasProgram, rfl⟩
  | _ => rcases inside with logged | command <;> contradiction

theorem replay_withScratch {dir : WorkDir} (numbered : dir.IsNumbered) (source : String)
    (hasProgram : Bool) {inside : List Event}
    (only : ∀ event ∈ inside, event.isLogged = true ∨ event.isCommand = true) :
    ∃ hasProgram', (dir.withScratch source hasProgram).replay inside =
      dir.withScratch source hasProgram' := by
  induction inside generalizing hasProgram with
  | nil => exact ⟨hasProgram, rfl⟩
  | cons event inside ih =>
      rw [List.forall_mem_cons] at only
      obtain ⟨next, applied⟩ := apply_withScratch numbered source hasProgram only.1
      obtain ⟨last, replayed⟩ := ih next only.2
      exact ⟨last, by rw [replay_cons, applied, replayed]⟩

/-- Removing the open scratch directory leaves what was there before it. -/
theorem apply_scratchClosed {dir : WorkDir} (numbered : dir.IsNumbered) (source : String)
    (hasProgram : Bool) :
    (dir.withScratch source hasProgram).apply (.scratchClosed (.ok ())) =
      ⟨dir.entries, dir.opened + 1⟩ := by
  have kept : dir.entries.filter (fun entry => !isScratch (dir.opened + 1) entry) =
      dir.entries := by
    rw [List.filter_eq_self]
    intro entry member
    cases entry with
    | foreign name => rfl
    | scratch serial source hasProgram =>
        have earlier := numbered serial source hasProgram member
        have other : serial ≠ dir.opened + 1 := by omega
        simp [isScratch, other]
  simp only [apply, withScratch, List.filter_append, kept]
  simp [isScratch]

end WorkDir

open WorkDir

/-! ## Journals that clean up -/

/-- What happens leaves the entries of a work directory as they were, and at every moment there
is at most one scratch directory beside them. -/
structure Tidy (journal : List Event) : Prop where
  restores : ∀ dir : WorkDir, dir.IsNumbered →
    ∃ opened, dir.opened ≤ opened ∧ dir.replay journal = ⟨dir.entries, opened⟩
  moments : ∀ dir : WorkDir, dir.IsNumbered → ∀ moment, moment <+: journal →
    (dir.replay moment).entries = dir.entries ∨
      ∃ serial source hasProgram, (dir.replay moment).entries =
        dir.entries ++ [.scratch serial source hasProgram]

namespace Tidy

theorem nil : Tidy [] where
  restores dir _ := ⟨dir.opened, Nat.le_refl _, rfl⟩
  moments dir _ moment before := by
    rw [List.prefix_nil.mp before]
    exact Or.inl rfl

theorem append {first second : List Event} (tidy : Tidy first) (also : Tidy second) :
    Tidy (first ++ second) where
  restores dir numbered := by
    obtain ⟨opened, later, replayed⟩ := tidy.restores dir numbered
    obtain ⟨final, last, restored⟩ := also.restores _ (numbered.mono later)
    exact ⟨final, Nat.le_trans later last, by rw [replay_append, replayed, restored]⟩
  moments dir numbered moment before := by
    obtain ⟨opened, later, replayed⟩ := tidy.restores dir numbered
    obtain ⟨after, same⟩ := before
    rcases List.append_eq_append_iff.mp same with ⟨rest, early, -⟩ | ⟨rest, rfl, late⟩
    · exact tidy.moments dir numbered moment ⟨rest, early.symm⟩
    · rw [replay_append, replayed]
      exact also.moments _ (numbered.mono later) rest ⟨after, late.symm⟩

/-- An event that does not touch work directories is tidy. -/
theorem of_apply_eq_self {event : Event} (untouched : ∀ dir : WorkDir, dir.apply event = dir) :
    Tidy [event] where
  restores dir _ := ⟨dir.opened, Nat.le_refl _, untouched dir⟩
  moments dir _ moment before := by
    rcases List.prefix_cons_iff.mp before with rfl | ⟨rest, rfl, empty⟩
    · exact Or.inl rfl
    · rw [List.prefix_nil.mp empty]
      exact Or.inl (congrArg WorkDir.entries (untouched dir))

theorem accumulates : Accumulates Tidy :=
  ⟨nil, append⟩

theorem logged (record : Log.Record) : Tidy [.logged record] :=
  of_apply_eq_self fun _ => rfl

/-- What happens between opening a scratch directory and removing it is tidy. -/
theorem scratch (source : String) {inside : List Event}
    (only : ∀ event ∈ inside, event.isLogged = true ∨ event.isCommand = true) :
    Tidy (.scratchOpened source :: (inside ++ [.scratchClosed (.ok ())])) := by
  have restored : ∀ dir : WorkDir, dir.IsNumbered →
      dir.replay (.scratchOpened source :: (inside ++ [.scratchClosed (.ok ())])) =
        ⟨dir.entries, dir.opened + 1⟩ := by
    intro dir numbered
    obtain ⟨hasProgram, worked⟩ := replay_withScratch numbered source false only
    change (dir.withScratch source false).replay (inside ++ [.scratchClosed (.ok ())]) = _
    rw [replay_append, worked]
    exact apply_scratchClosed numbered source hasProgram
  refine ⟨fun dir numbered => ⟨dir.opened + 1, Nat.le_succ _, restored dir numbered⟩, ?_⟩
  intro dir numbered moment before
  rcases List.prefix_cons_iff.mp before with rfl | ⟨within, rfl, started⟩
  · exact Or.inl rfl
  · rcases List.prefix_concat_iff.mp started with rfl | working
    · refine Or.inl ?_
      rw [restored dir numbered]
    · have withinOnly : ∀ event ∈ within, event.isLogged = true ∨ event.isCommand = true :=
        fun event member => only event (working.subset member)
      obtain ⟨hasProgram, worked⟩ := replay_withScratch numbered source false withinOnly
      refine Or.inr ⟨dir.opened + 1, source, hasProgram, ?_⟩
      change ((dir.withScratch source false).replay within).entries = _
      rw [worked]
      rfl

end Tidy

namespace Probe

/-- Whatever scratch directory was made can be removed. -/
def RemovesScratch (probe : Probe) : Prop :=
  ∀ source, probe.removeScratch source = .ok ()

section Steps

variable {probe : Probe} (removes : probe.RemovesScratch)

include removes

/-! ## Steps of a probe -/

/-- What is done in a scratch directory is tidy, also where the directory or the source in it
cannot be made. -/
theorem tidy_inScratch {α : Type} (source : String) {inside : String → Inquiry SystemError α}
    (only : ∀ path, ∀ event ∈ (inside path).journal,
      event.isLogged = true ∨ event.isCommand = true) :
    Tidy (probe.inScratch source inside).journal := by
  unfold inScratch
  rw [removes source]
  cases probe.makeScratch source with
  | ok path => exact Tidy.scratch source (only path)
  | error fault =>
      cases fault with
      | unmade reason => exact Tidy.nil
      | unwritten reason =>
          have nothing : ∀ event ∈ ([] : List Event),
              event.isLogged = true ∨ event.isCommand = true := by simp
          exact Tidy.scratch source nothing

theorem tidy_checkCompile (source : String) : Tidy (probe.checkCompile source).journal :=
  tidy_inScratch removes source fun path => probe.forall_mem_compileSource path source

theorem tidy_checkRun (source : String) : Tidy (probe.checkRun source).journal :=
  tidy_inScratch removes source (probe.forall_mem_tryOut source)

theorem tidy_perform (operation : Operation) : Tidy (probe.perform operation).journal :=
  Tidy.accumulates.perform Tidy.logged (tidy_checkRun removes) operation

end Steps

/-- A step of a probe: a bare check of a source, or an operation. -/
inductive Step
  | checkCompile (source : String)
  | checkRun (source : String)
  | perform (operation : Operation)

/-- What happens in a step, whether it has an answer or fails. -/
def journalOf (probe : Probe) : Step → List Event
  | .checkCompile source => (probe.checkCompile source).journal
  | .checkRun source => (probe.checkRun source).journal
  | .perform operation => (probe.perform operation).journal

theorem tidy_journalOf {probe : Probe} (removes : probe.RemovesScratch) (step : Step) :
    Tidy (probe.journalOf step) := by
  cases step with
  | checkCompile source => exact tidy_checkCompile removes source
  | checkRun source => exact tidy_checkRun removes source
  | perform operation => exact tidy_perform removes operation

theorem tidy_flatMap_journalOf {probe : Probe} (removes : probe.RemovesScratch)
    (steps : List Step) : Tidy (steps.flatMap probe.journalOf) := by
  induction steps with
  | nil => exact Tidy.nil
  | cons step steps ih => exact (tidy_journalOf removes step).append ih

/-- **No scratch directory outlives a step.** After some steps in a work directory from which
scratch directories can be removed, and after each further one however it ends, the entries are
those from before all of them. While a step goes on there is at most one scratch directory beside
them. -/
theorem entries_after_step (probe : Probe) (removes : probe.RemovesScratch)
    (names : List String) (before : List Step) (step : Step) :
    let dir := (WorkDir.ofNames names).replay (before.flatMap probe.journalOf)
    dir.entries = names.map .foreign ∧
      (dir.replay (probe.journalOf step)).entries = dir.entries ∧
      ∀ moment, moment <+: probe.journalOf step →
        (dir.replay moment).entries = dir.entries ∨
          ∃ serial source hasProgram, (dir.replay moment).entries =
            dir.entries ++ [.scratch serial source hasProgram] := by
  have numbered := WorkDir.isNumbered_ofNames names
  obtain ⟨opened, later, replayed⟩ := (tidy_flatMap_journalOf removes before).restores _ numbered
  have tidy := tidy_journalOf removes step
  rw [replayed]
  refine ⟨rfl, ?_, tidy.moments _ (numbered.mono later)⟩
  obtain ⟨final, -, restored⟩ := tidy.restores _ (numbered.mono later)
  rw [restored]

/-- A program that is killed leaves nothing in its work directory, and no more does a type after
it whose programs all are. -/
theorem entries_after_step_killed :
    let probe := killed 9 []
    let dir := (WorkDir.ofNames ["notes"]).replay (probe.journalOf (.checkRun "int main;"))
    dir.entries = [.foreign "notes"] ∧
      (dir.replay (probe.journalOf (.perform (.layout "int")))).entries =
        [.foreign "notes"] := by
  intro probe dir
  obtain ⟨before, after, -⟩ := entries_after_step probe (fun _ => rfl) ["notes"]
    [.checkRun "int main;"] (.perform (.layout "int"))
  rw [List.flatMap_singleton] at before after
  exact ⟨before, after.trans before⟩

end Probe

end AbiProbe
