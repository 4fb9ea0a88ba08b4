import AbiProbe.Bindings.Basic
import AbiProbe.Proofs.FirstOccurrence
import Mathlib.Data.List.Induction
import Mathlib.Data.List.Nodup

/-! # Runs of insertions

Bindings built by a run of insertions (`AbiProbe.Bindings.insertAll`) list the inserted names in
the order of their first insertion (`AbiProbe.Bindings.map_fst_insertAll_empty`), each with the
item of its last (`AbiProbe.Bindings.mem_insertAll_empty`).
-/

namespace AbiProbe.Bindings

/-- An assignment leaves the items of other names as they are and gives its name its item. -/
theorem mem_assign {name other : String} {item kept : Item} {entries : List (String × Item)}
    (nodup : (entries.map Prod.fst).Nodup) :
    (other, kept) ∈ assign name item entries ↔
      (other = name ∧ kept = item) ∨ (other ≠ name ∧ (other, kept) ∈ entries) := by
  induction entries with
  | nil => simp [assign]
  | cons entry entries ih =>
      obtain ⟨head, former⟩ := entry
      rw [List.map_cons, List.nodup_cons] at nodup
      by_cases same : head = name
      · subst same
        have absent : other = head → (other, kept) ∉ entries := by
          rintro rfl member
          exact nodup.1 (List.mem_map.mpr ⟨_, member, rfl⟩)
        simp only [assign, if_true, List.mem_cons, Prod.mk.injEq]
        tauto
      · simp only [assign, same, if_false, List.mem_cons, Prod.mk.injEq, ih nodup.2]
        constructor
        · rintro (⟨rfl, rfl⟩ | new | ⟨different, member⟩)
          · exact Or.inr ⟨same, Or.inl ⟨rfl, rfl⟩⟩
          · exact Or.inl new
          · exact Or.inr ⟨different, Or.inr member⟩
        · rintro (new | ⟨different, here | member⟩)
          · exact Or.inr (Or.inl new)
          · exact Or.inl here
          · exact Or.inr (Or.inr ⟨different, member⟩)

/-- A name has one item. -/
theorem item_unique (bindings : Bindings) {name : String} {first second : Item}
    (member : (name, first) ∈ bindings.entries) (also : (name, second) ∈ bindings.entries) :
    first = second :=
  congrArg Prod.snd (List.inj_on_of_nodup_map bindings.nodup member also rfl)

theorem mem_entries_insert (bindings : Bindings) {name other : String} {item kept : Item} :
    (other, kept) ∈ (bindings.insert name item).entries ↔
      (other = name ∧ kept = item) ∨ (other ≠ name ∧ (other, kept) ∈ bindings.entries) :=
  mem_assign bindings.nodup

/-- The bindings after a run of insertions, one after the other. -/
def insertAll (bindings : Bindings) (entries : List (String × Item)) : Bindings :=
  entries.foldl (fun bindings entry => bindings.insert entry.1 entry.2) bindings

@[simp]
theorem insertAll_nil (bindings : Bindings) : bindings.insertAll [] = bindings := rfl

@[simp]
theorem insertAll_cons (bindings : Bindings) (entry : String × Item)
    (entries : List (String × Item)) :
    bindings.insertAll (entry :: entries) =
      (bindings.insert entry.1 entry.2).insertAll entries := rfl

theorem insertAll_concat (bindings : Bindings) (entries : List (String × Item))
    (entry : String × Item) :
    bindings.insertAll (entries ++ [entry]) =
      (bindings.insertAll entries).insert entry.1 entry.2 := by
  rw [insertAll, List.foldl_append]
  rfl

/-- **Names in the order of first insertion.** Each inserted name is listed once. -/
theorem map_fst_insertAll_empty (entries : List (String × Item)) :
    (empty.insertAll entries).entries.map Prod.fst = (entries.map Prod.fst).eraseDups := by
  induction entries using List.reverseRecOn with
  | nil => rfl
  | append_singleton entries entry ih =>
      rw [insertAll_concat, insert, map_fst_assign, ih, List.map_append, List.map_singleton,
        eraseDups_concat]
      simp only [List.mem_eraseDups]

/-- **The last insertion of a name counts.** After a run of insertions a name has the item of the
insertion after which the name is inserted no more. -/
theorem mem_insertAll_empty {entries : List (String × Item)} {name : String} {item : Item} :
    (name, item) ∈ (empty.insertAll entries).entries ↔
      ∃ before after, entries = before ++ (name, item) :: after ∧
        name ∉ after.map Prod.fst := by
  -- The induction is from the end, since the last insertion is the one that counts.
  induction entries using List.reverseRecOn with
  | nil => simp [empty]
  | append_singleton entries entry ih =>
      rw [insertAll_concat, mem_entries_insert, ih]
      constructor
      · rintro (⟨rfl, rfl⟩ | ⟨different, before, after, rfl, last⟩)
        · exact ⟨entries, [], rfl, by simp⟩
        · refine ⟨before, after ++ [entry], by simp, ?_⟩
          rw [List.map_append, List.mem_append, not_or]
          exact ⟨last, by simpa using different⟩
      · rintro ⟨before, after, split, last⟩
        rcases List.eq_nil_or_concat after with rfl | ⟨front, final, rfl⟩
        · obtain ⟨-, same⟩ := List.append_inj' split rfl
          obtain rfl := List.singleton_inj.mp same
          exact Or.inl ⟨rfl, rfl⟩
        · rw [List.concat_eq_append] at split last
          have regrouped : entries ++ [entry] = (before ++ (name, item) :: front) ++ [final] := by
            simpa using split
          obtain ⟨rfl, same⟩ := List.append_inj' regrouped rfl
          obtain rfl := List.singleton_inj.mp same
          rw [List.map_append, List.mem_append, not_or] at last
          exact Or.inr ⟨by simpa using last.2, before, front, rfl, last.1⟩

end AbiProbe.Bindings
