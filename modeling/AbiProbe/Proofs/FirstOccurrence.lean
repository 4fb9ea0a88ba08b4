import AbiProbe.Header
import Mathlib.Data.List.Induction
import Mathlib.Data.List.Sort

/-! # First occurrences

Removing repetitions gives the one list that has the members of a list in the order of their
first occurrences (`AbiProbe.inFirstOrder_iff`). It may be done in stages
(`AbiProbe.eraseDups_eraseDups_append`), and what has occurred before may be left out
(`AbiProbe.eraseDups_append_cons_of_mem`).
-/

namespace AbiProbe

variable {α : Type} [BEq α] [LawfulBEq α]

/-- The members of a list, each once, in the order of their first occurrences. -/
structure InFirstOrder (kept given : List α) : Prop where
  mem_iff : ∀ element, element ∈ kept ↔ element ∈ given
  ordered : kept.Pairwise fun first second => given.idxOf first < given.idxOf second

theorem eraseDups_concat (given : List α) (element : α) [Decidable (element ∈ given)] :
    (given ++ [element]).eraseDups =
      if element ∈ given then given.eraseDups else given.eraseDups ++ [element] := by
  rw [List.eraseDups_append, List.removeAll]
  split
  · rename_i known
    simp [known]
  · rename_i new
    simp [new, List.eraseDups_cons]

/-- Without repetitions nothing is removed. -/
theorem eraseDups_of_nodup {given : List α} (nodup : given.Nodup) : given.eraseDups = given := by
  induction given with
  | nil => rfl
  | cons head given ih =>
      rw [List.nodup_cons] at nodup
      have kept : (given.filter fun other => !other == head) = given := by
        rw [List.filter_eq_self]
        intro other member
        have different : other ≠ head := fun same => nodup.1 (same ▸ member)
        simpa using different
      rw [List.eraseDups_cons, kept, ih nodup.2]

/-- Repetitions may be removed from a front first. -/
theorem eraseDups_eraseDups_append (front given : List α) :
    (front.eraseDups ++ given).eraseDups = (front ++ given).eraseDups := by
  have sameMembers (element : α) : front.eraseDups.elem element = front.elem element := by
    rw [Bool.eq_iff_iff, List.elem_iff, List.elem_iff, List.mem_eraseDups]
  rw [List.eraseDups_append, List.eraseDups_append, eraseDups_of_nodup (nodup_eraseDups front)]
  simp only [List.removeAll, sameMembers]

/-- What has occurred before may be left out. -/
theorem eraseDups_append_cons_of_mem {front : List α} {element : α} (known : element ∈ front)
    (given : List α) : (front ++ element :: given).eraseDups = (front ++ given).eraseDups := by
  have dropped : (element :: given).removeAll front = given.removeAll front := by
    simp [List.removeAll, known]
  rw [List.eraseDups_append, dropped, ← List.eraseDups_append]

theorem inFirstOrder_eraseDups (given : List α) : InFirstOrder given.eraseDups given where
  mem_iff _ := List.mem_eraseDups
  ordered := by
    classical
    -- A new last element comes behind all others, and changes the place of none of them.
    induction given using List.reverseRecOn with
    | nil => exact .nil
    | append_singleton given element ih =>
        have kept : given.eraseDups.Pairwise fun first second =>
            (given ++ [element]).idxOf first < (given ++ [element]).idxOf second := by
          apply ih.imp_of_mem
          intro first second firstMember secondMember before
          rw [List.idxOf_append, List.idxOf_append, if_pos (List.mem_eraseDups.mp firstMember),
            if_pos (List.mem_eraseDups.mp secondMember)]
          exact before
        rw [eraseDups_concat]
        split
        · exact kept
        · rename_i new
          refine List.pairwise_append.mpr ⟨kept, List.pairwise_singleton _ _, ?_⟩
          intro earlier member last same
          obtain rfl := List.mem_singleton.mp same
          have listed : earlier ∈ given := List.mem_eraseDups.mp member
          rw [List.idxOf_append, List.idxOf_append, if_pos listed, if_neg new]
          exact Nat.lt_add_left _ (List.idxOf_lt_length_iff.mpr listed)

/-- Members and order determine the list. -/
theorem inFirstOrder_iff {kept given : List α} :
    InFirstOrder kept given ↔ kept = given.eraseDups := by
  constructor
  · intro first
    have second := inFirstOrder_eraseDups given
    have irreflexive : Std.Irrefl fun first second => given.idxOf first < given.idxOf second :=
      ⟨fun _ => Nat.lt_irrefl _⟩
    have antisymmetric : Std.Antisymm fun first second => given.idxOf first < given.idxOf second :=
      ⟨fun _ _ before after => absurd before (Nat.lt_asymm after)⟩
    have sameMembers (element : α) : element ∈ kept ↔ element ∈ given.eraseDups :=
      (first.mem_iff element).trans (second.mem_iff element).symm
    exact first.ordered.eq_of_mem_iff second.ordered sameMembers
  · rintro rfl
    exact inFirstOrder_eraseDups given

end AbiProbe
