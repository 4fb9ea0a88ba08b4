import Mathlib.Data.List.Basic

/-! # Cutting a text at a delimiter

A part that holds no delimiter ends where the first delimiter stands, so the text determines it
and what follows (`AbiProbe.Text.append_cons_inj`). A part that is repeated behind something in
front of it holds only what stands in front (`AbiProbe.Text.notMem_of_append_eq`).
-/

namespace AbiProbe.Text

/-- The first delimiter of a text cuts it in one way. -/
theorem append_cons_inj {delimiter : Char} {first second rest other : List Char}
    (absent : delimiter ∉ first) (missing : delimiter ∉ second)
    (same : first ++ delimiter :: rest = second ++ delimiter :: other) :
    first = second ∧ rest = other := by
  induction first generalizing second with
  | nil =>
      cases second with
      | nil => exact ⟨rfl, (List.cons.inj same).2⟩
      | cons head second =>
          obtain ⟨rfl, -⟩ := List.cons.inj same
          exact (missing List.mem_cons_self).elim
  | cons head first ih =>
      cases second with
      | nil =>
          obtain ⟨rfl, -⟩ := List.cons.inj same
          exact (absent List.mem_cons_self).elim
      | cons next second =>
          obtain ⟨rfl, tails⟩ := List.cons.inj same
          rw [List.mem_cons, not_or] at absent missing
          obtain ⟨rfl, rests⟩ := ih absent.2 missing.2 tails
          exact ⟨rfl, rests⟩

/-- A part that also begins behind a front is made of characters of the front: it starts like
the front, and what is left of it begins behind the front again. -/
theorem notMem_of_append_eq {c : Char} {front part rest other : List Char} (nonempty : front ≠ [])
    (absent : c ∉ front) (same : part ++ rest = front ++ (part ++ other)) : c ∉ part := by
  -- Either the front covers the part, or a shorter part is left that begins behind it again.
  induction length : part.length using Nat.strongRecOn generalizing part with
  | ind n ih =>
      rcases List.append_eq_append_iff.mp same with ⟨left, rfl, -⟩ | ⟨left, rfl, again⟩
      · rw [List.mem_append, not_or] at absent
        exact absent.1
      · have shorter : left.length < n := by
          have := List.length_pos_iff.mpr nonempty
          rw [List.length_append] at length
          omega
        rw [List.mem_append, not_or]
        refine ⟨absent, ih left.length shorter ?_ rfl⟩
        rw [← again, List.append_assoc]

end AbiProbe.Text
