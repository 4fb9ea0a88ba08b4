import AbiProbe.Proofs.Probe.Layout
import AbiProbe.Proofs.Probe.Operation
import AbiProbe.Proofs.Probe.Printed

/-! # Operations stop at their first failure

The commands of an operation are blocks, each of them a compile and the run of what compiled. An
operation goes on after a block only when the block gave a value; the alignment of a layout is
the one question that may also fail to compile. The error of an operation that is no verdict on a
name or a type is the outcome of its last block, or comes from a scratch directory that cannot be
made or removed (`AbiProbe.Probe.perform_stops_at_failure`).
-/

namespace AbiProbe

open Probe

variable {probe : Probe} {tolerated : Block probe → Prop} {α β : Type}

/-- What an error of an operation comes from that went through some blocks. -/
inductive Blames (tolerated : Block probe → Prop) (blocks : List (Block probe)) :
    ProbeError → Prop
  /-- It is the outcome of the last block. -/
  | outcome {block : Block probe} {error : ProbeError} (last : blocks.getLast? = some block)
      (outcome : block.outcome = .error error) : Blames tolerated blocks error
  /-- The blocks allowed to go on, and there is no scratch directory for the next program. -/
  | unmade {aspect : Aspect} {name : String} {fault : ScratchFault}
      (unmade : probe.makeScratch (probe.sourceFor aspect name) = .error fault)
      (proceeded : ∀ block ∈ blocks, block.Answered ∨ tolerated block) :
      Blames tolerated blocks (.system fault.reason)
  /-- The commands of the last block were started, and its scratch directory cannot be removed. -/
  | unremoved {block : Block probe} {reason : SystemError} (last : blocks.getLast? = some block)
      (started : block.Started) (unremoved : probe.removeScratch block.source = .error reason) :
      Blames tolerated blocks (.system reason)

/-- The commands of an inquiry are those of some blocks. Each block but the last gave a value or
is tolerated, and an error of a trial comes from the last block or from a scratch directory. -/
structure Inquiry.ToldBy (inquiry : Inquiry ProbeError α) (tolerated : Block probe → Prop)
    (blocks : List (Block probe)) : Prop where
  commands : commandsOf inquiry.journal = blocks.flatMap Block.commands
  earlier : ∀ block ∈ blocks.dropLast, block.Answered ∨ tolerated block
  failed : ∀ error, inquiry.outcome = .error error → error.IsOfTrial →
    Blames tolerated blocks error

/-- An inquiry told by blocks that all gave a value or are tolerated where it has an answer, so
that another inquiry may follow it. -/
structure Inquiry.ProceedsBy (inquiry : Inquiry ProbeError α) (tolerated : Block probe → Prop)
    (blocks : List (Block probe)) : Prop extends inquiry.ToldBy tolerated blocks where
  answered : ∀ answer, inquiry.outcome = .ok answer →
    ∀ block ∈ blocks, block.Answered ∨ tolerated block

/-- What the error of a later part comes from, the error of the whole comes from. -/
theorem Blames.append {blocks more : List (Block probe)} {error : ProbeError}
    (blames : Blames tolerated more error)
    (proceeded : ∀ block ∈ blocks, block.Answered ∨ tolerated block) :
    Blames tolerated (blocks ++ more) error := by
  have ends {block : Block probe} (last : more.getLast? = some block) :
      (blocks ++ more).getLast? = some block := by
    rw [List.getLast?_append, last, Option.some_or]
  cases blames with
  | outcome last outcome => exact .outcome (ends last) outcome
  | unmade unmade also =>
      exact .unmade unmade (List.forall_mem_append.mpr ⟨proceeded, also⟩)
  | unremoved last started unremoved => exact .unremoved (ends last) started unremoved

namespace Inquiry

variable {first : Inquiry ProbeError α} {next : α → Inquiry ProbeError β}
  {blocks more : List (Block probe)}

/-! ## One inquiry after another -/

theorem ToldBy.bind_of_error (told : first.ToldBy tolerated blocks) {error : ProbeError}
    (failed : first.outcome = .error error) : (first >>= next).ToldBy tolerated blocks := by
  rw [bind_error failed]
  refine ⟨told.commands, told.earlier, ?_⟩
  intro other same ofTrial
  obtain rfl : error = other := Except.error.inj same
  exact told.failed error failed ofTrial

theorem ProceedsBy.bind_of_ok (proceeds : first.ProceedsBy tolerated blocks) {answer : α}
    (answered : first.outcome = .ok answer) (told : (next answer).ToldBy tolerated more) :
    (first >>= next).ToldBy tolerated (blocks ++ more) := by
  rw [bind_ok answered]
  refine ⟨?_, ?_, ?_⟩
  · rw [commandsOf_append, proceeds.commands, told.commands, List.flatMap_append]
  · intro block member
    have early : block ∈ blocks ∨ block ∈ more.dropLast := by
      rw [List.dropLast_append] at member
      split at member
      · exact Or.inl (List.dropLast_subset _ member)
      · exact List.mem_append.mp member
    rcases early with before | after
    · exact proceeds.answered answer answered block before
    · exact told.earlier block after
  · intro error failed ofTrial
    exact (told.failed error failed ofTrial).append (proceeds.answered answer answered)

/-- What follows an inquiry with an answer may end in a failure of its own. -/
theorem ProceedsBy.toldBy_bind (proceeds : first.ProceedsBy tolerated blocks)
    (told : ∀ answer, ∃ more, (next answer).ToldBy tolerated more) :
    ∃ all, (first >>= next).ToldBy tolerated all := by
  cases ended : first.outcome with
  | error error => exact ⟨blocks, proceeds.toToldBy.bind_of_error ended⟩
  | ok answer =>
      obtain ⟨more, rest⟩ := told answer
      exact ⟨blocks ++ more, proceeds.bind_of_ok ended rest⟩

theorem ProceedsBy.bind (proceeds : first.ProceedsBy tolerated blocks)
    (continues : ∀ answer, ∃ more, (next answer).ProceedsBy tolerated more) :
    ∃ all, (first >>= next).ProceedsBy tolerated all := by
  cases ended : first.outcome with
  | error error =>
      refine ⟨blocks, proceeds.toToldBy.bind_of_error ended, ?_⟩
      intro answer answered
      rw [bind_error ended] at answered
      cases answered
  | ok answer =>
      obtain ⟨more, rest⟩ := continues answer
      refine ⟨blocks ++ more, proceeds.bind_of_ok ended rest.toToldBy, ?_⟩
      intro result answered block member
      rw [bind_ok ended] at answered
      rcases List.mem_append.mp member with before | after
      · exact proceeds.answered answer ended block before
      · exact rest.answered result answered block after

/-- An inquiry without commands is told by no block. -/
theorem proceedsBy_nil {inquiry : Inquiry ProbeError α} (silent : commandsOf inquiry.journal = [])
    (harmless : ∀ error, inquiry.outcome = .error error → ¬error.IsOfTrial) :
    inquiry.ProceedsBy tolerated [] where
  commands := silent
  earlier := by simp
  failed error failed ofTrial := (harmless error failed ofTrial).elim
  answered := by simp

end Inquiry

open Inquiry

/-! ## Questions -/

/-- The block of a question, if there is a scratch directory for its program. -/
def Probe.blocksOf (probe : Probe) (aspect : Aspect) (name : String) : List (Block probe) :=
  match probe.makeScratch (probe.sourceFor aspect name) with
  | .ok _ => [probe.blockOf aspect name]
  | .error _ => []

theorem blocksOf_of_made {aspect : Aspect} {name path : String}
    (made : probe.makeScratch (probe.sourceFor aspect name) = .ok path) :
    probe.blocksOf aspect name = [probe.blockOf aspect name] := by
  rw [blocksOf, made]

theorem blocksOf_of_unmade {aspect : Aspect} {name : String} {fault : ScratchFault}
    (unmade : probe.makeScratch (probe.sourceFor aspect name) = .error fault) :
    probe.blocksOf aspect name = [] := by
  rw [blocksOf, unmade]

/-- A question is told by its block. -/
theorem toldBy_pose (aspect : Aspect) (name : String) :
    (probe.pose aspect name).ToldBy tolerated (probe.blocksOf aspect name) := by
  cases made : probe.makeScratch (probe.sourceFor aspect name) with
  | error fault =>
      rw [blocksOf_of_unmade made]
      refine ⟨commandsOf_pose_of_unmade made, by simp, ?_⟩
      intro error failed _
      obtain rfl := Except.error.inj ((outcome_pose_of_unmade made).symm.trans failed)
      exact .unmade made (by simp)
  | ok path =>
      rw [blocksOf_of_made made]
      refine ⟨?_, by simp, ?_⟩
      · rw [commandsOf_pose_of_made made, List.flatMap_singleton]
      · intro error failed _
        rcases outcome_pose_of_made made with same | ⟨reason, unremoved, started, ended⟩
        · exact .outcome rfl (same.symm.trans failed)
        · obtain rfl := Except.error.inj (ended.symm.trans failed)
          exact .unremoved rfl started unremoved

/-- A question that is answered has the outcome of its block, which is the only one. -/
theorem eq_blockOf_of_mem {aspect : Aspect} {name : String} {block : Block probe}
    (member : block ∈ probe.blocksOf aspect name) : block = probe.blockOf aspect name := by
  unfold blocksOf at member
  split at member
  · exact List.mem_singleton.mp member
  · cases member

theorem proceedsBy_pose (aspect : Aspect) (name : String) :
    (probe.pose aspect name).ProceedsBy tolerated (probe.blocksOf aspect name) where
  toToldBy := toldBy_pose aspect name
  answered answer answered block member := by
    obtain rfl := eq_blockOf_of_mem member
    have scratch := hasScratch_of_outcome_pose answered nofun
    rw [outcome_pose_of_hasScratch scratch] at answered
    exact Or.inl ⟨answer, answered⟩

theorem compositional_proceedsBy (probe : Probe) (tolerated : Block probe → Prop) :
    Compositional probe fun inquiry => ∃ blocks, inquiry.ProceedsBy tolerated blocks where
  posed aspect name := ⟨_, proceedsBy_pose aspect name⟩
  answered answer := ⟨[], proceedsBy_nil rfl (by simp)⟩
  refused error harmless := by
    refine ⟨[], proceedsBy_nil rfl ?_⟩
    intro other same
    obtain rfl : error = other := Except.error.inj same
    exact harmless
  told record := ⟨[], proceedsBy_nil (commandsOf_tell probe.log record) (by simp)⟩
  bind := by
    rintro α β first - next - ⟨blocks, proceeds⟩ continues
    exact proceeds.bind continues

/-! ## Layouts -/

/-- Tolerance for failures to compile adds no command. -/
theorem commandsOf_ifCompiles (probe : Probe) (inquiry : Inquiry ProbeError α) :
    commandsOf (probe.ifCompiles inquiry).journal = commandsOf inquiry.journal := by
  rcases probe.journal_ifCompiles inquiry with same | ⟨record, noted⟩
  · rw [same]
  · rw [noted, commandsOf_append, commandsOf_tell, List.append_nil]

theorem Inquiry.ToldBy.ifCompiles {inquiry : Inquiry ProbeError α} {blocks : List (Block probe)}
    (told : inquiry.ToldBy tolerated blocks) :
    (probe.ifCompiles inquiry).ToldBy tolerated blocks where
  commands := by rw [commandsOf_ifCompiles, told.commands]
  earlier := told.earlier
  failed error failed := told.failed error (outcome_ifCompiles_eq_error_iff.mp failed).1

/-- A block whose program did not compile ran nothing. -/
theorem Block.uncompiled_of_outcome {block : Block probe} {output : Output}
    (failed : block.outcome = .error (.compile output)) : block.Uncompiled := by
  unfold Block.outcome at failed
  split at failed
  · cases failed
  · rename_i compiled started unrun
    refine ⟨compiled, started, fun success => ?_⟩
    have ran := block.ran_isSome_iff.mpr ⟨compiled, started, success⟩
    rw [unrun] at ran
    cases ran
  · cases failed
  · split at failed
    · unfold readAnswer at failed
      dsimp only at failed
      split at failed <;> cases failed
    · cases failed

/-- The one failure after which an operation goes on: the alignment of a layout may fail to
compile. -/
def Operation.Tolerates (operation : Operation) (block : Block probe) : Prop :=
  operation = .layout block.name ∧ block.aspect = .alignment ∧ block.Uncompiled

theorem proceedsBy_alignOf (probe : Probe) (cType : String) :
    (probe.ifCompiles (probe.alignOf cType)).ProceedsBy (Operation.layout cType).Tolerates
      (probe.blocksOf .alignment cType) where
  toToldBy := (toldBy_pose .alignment cType).ifCompiles
  answered answer answered block member := by
    obtain rfl := eq_blockOf_of_mem member
    have posed (result : Except ProbeError UInt64)
        (ended : (probe.pose .alignment cType).outcome = result)
        (unfailing : ∀ reason, result ≠ .error (.system reason)) :
        (probe.blockOf .alignment cType).outcome = result := by
      rw [← outcome_pose_of_hasScratch (hasScratch_of_outcome_pose ended unfailing)]
      exact ended
    cases answer with
    | some align =>
        have found := outcome_ifCompiles_eq_some_iff.mp answered
        exact Or.inl ⟨align, posed _ found nofun⟩
    | none =>
        obtain ⟨output, failed⟩ := outcome_ifCompiles_eq_none_iff.mp answered
        exact Or.inr ⟨rfl, rfl, Block.uncompiled_of_outcome (posed _ failed nofun)⟩

theorem toldBy_layoutOf (probe : Probe) (cType : String) :
    ∃ blocks : List (Block probe),
      (probe.layoutOf cType).ToldBy (Operation.layout cType).Tolerates blocks := by
  have compositional := compositional_proceedsBy probe (Operation.layout cType).Tolerates
  unfold layoutOf
  obtain ⟨sizeBlocks, sized⟩ := compositional.ask .size cType
  refine sized.toldBy_bind fun size => ?_
  refine (proceedsBy_alignOf probe cType).toldBy_bind fun align => ?_
  -- The kind is asked for last, so its own failure to compile is the last block.
  obtain ⟨kindBlocks, known⟩ := compositional.numericKind cType
  cases ended : (probe.ifCompiles (probe.numericKind cType)).outcome with
  | error error => exact ⟨kindBlocks, known.toToldBy.ifCompiles.bind_of_error ended⟩
  | ok kind =>
      refine ⟨kindBlocks, ?_, known.earlier, ?_⟩
      · rw [journal_bind_silent fun _ => rfl, commandsOf_ifCompiles, known.commands]
      · intro error failed
        rw [bind_ok ended] at failed
        cases failed

/-! ## Operations -/

namespace Probe

/-- **An operation stops at its first failure.** Its commands are blocks: one compile of a
generated source and, directly behind it, one run exactly where the compile was started and ended
with exit code zero. Each block but the last gave a value, except that the alignment of a layout
may have failed to compile. An error of a trial is the outcome of the last block, unless a scratch
directory cannot be made for the next one or not be removed after it. -/
theorem perform_stops_at_failure (probe : Probe) (operation : Operation) :
    ∃ blocks : List (Block probe),
      commandsOf (probe.perform operation).journal = blocks.flatMap Block.commands ∧
      (∀ block ∈ blocks.dropLast, block.Answered ∨ operation.Tolerates block) ∧
      ∀ error, (probe.perform operation).outcome = .error error → error.IsOfTrial →
        Blames operation.Tolerates blocks error := by
  have told : ∃ blocks : List (Block probe),
      (probe.perform operation).ToldBy operation.Tolerates blocks := by
    by_cases isLayout : ∃ cType, operation = .layout cType
    · obtain ⟨cType, rfl⟩ := isLayout
      exact toldBy_layoutOf probe cType
    · obtain ⟨blocks, proceeds⟩ :=
        (compositional_proceedsBy probe operation.Tolerates).perform operation
          fun cType same => (isLayout ⟨cType, same⟩).elim
      exact ⟨blocks, proceeds.toToldBy⟩
  obtain ⟨blocks, told⟩ := told
  exact ⟨blocks, told.commands, told.earlier, told.failed⟩

/-- **An operation may fail before its first block.** Where no path to a source is short enough, a
question fails with an error of the system and has no block to blame. -/
theorem perform_fails_without_block :
    let inquiry := (printingIn longTempDir (Text.Utf8.encode "4\n")).perform (.ask .size "int")
    inquiry.outcome = .error (.system .nameTooLong) ∧
      ¬∃ blocks : List (Block (printingIn longTempDir (Text.Utf8.encode "4\n"))),
        commandsOf inquiry.journal = blocks.flatMap Block.commands ∧
        ∃ block, blocks.getLast? = some block ∧
          block.outcome = .error (.system .nameTooLong) := by
  intro inquiry
  have unmade := makeScratch_longTempDir (Text.Utf8.encode "4\n")
    ((printingIn longTempDir (Text.Utf8.encode "4\n")).sourceFor .size "int")
  refine ⟨outcome_pose_of_unmade unmade, ?_⟩
  rintro ⟨blocks, commands, block, last, -⟩
  have silent : commandsOf inquiry.journal = [] := commandsOf_pose_of_unmade unmade
  rw [silent] at commands
  -- Each block has a compile, so without a command there is no last block.
  have empty := List.flatMap_eq_nil_iff.mp commands.symm block (List.mem_of_getLast? last)
  cases empty

end Probe

end AbiProbe
