import AbiProbe.Proofs.Bindings.Insertion
import Mathlib.Data.Finset.Card

/-! # What bindings show of their insertions

Bindings show of the insertions that made them which names were inserted, in which order for the
first time, and the last item of each (`AbiProbe.Bindings.insertAll_shows`). An insertion tells
the item it replaces, and no other entry changes its item or its place
(`AbiProbe.Bindings.getElem?_entries_insert`).
-/

namespace AbiProbe.Bindings

variable {name other : String} {item kept : Item}

/-- An item is the last one inserted for a name when the name is inserted with it and not again. -/
def LastInserted (history : List (String × Item)) (name : String) (item : Item) : Prop :=
  ∃ before after, history = before ++ (name, item) :: after ∧ name ∉ after.map Prod.fst

/-! ## One insertion -/

theorem get?_eq_some_iff (bindings : Bindings) :
    bindings.get? name = some item ↔ (name, item) ∈ bindings.entries := by
  constructor
  · intro found
    obtain ⟨front, back, split, -⟩ := List.lookup_eq_some_iff.mp found
    rw [split]
    exact List.mem_append_cons_self
  · intro listed
    have found : (bindings.entries.lookup name).isSome :=
      List.lookup_isSome_iff.mpr ⟨_, listed, beq_self_eq_true name⟩
    obtain ⟨former, found⟩ := Option.isSome_iff_exists.mp found
    obtain ⟨front, back, split, -⟩ := List.lookup_eq_some_iff.mp found
    have also : (name, former) ∈ bindings.entries := by
      rw [split]
      exact List.mem_append_cons_self
    rw [get?, found, bindings.item_unique listed also]

theorem get?_eq_none_iff (bindings : Bindings) :
    bindings.get? name = none ↔ name ∉ bindings.entries.map Prod.fst := by
  rw [get?, List.lookup_eq_none_iff, List.mem_map]
  constructor
  · rintro absent ⟨entry, listed, rfl⟩
    exact bne_iff_ne.mp (absent entry listed) rfl
  · intro absent entry listed
    exact bne_iff_ne.mpr fun same => absent ⟨entry, listed, same.symm⟩

/-- An assignment changes the item and the place of no other name. -/
theorem getElem?_assign (different : other ≠ name) (entries : List (String × Item)) (place : Nat) :
    (assign name item entries)[place]? = some (other, kept) ↔
      entries[place]? = some (other, kept) := by
  induction entries generalizing place with
  | nil =>
      cases place with
      | zero => simp [assign, different.symm]
      | succ place => simp [assign]
  | cons entry entries ih =>
      obtain ⟨head, former⟩ := entry
      unfold assign
      split
      · rename_i same
        cases place with
        | zero => simp [same, different.symm]
        | succ place => rfl
      · cases place with
        | zero => rfl
        | succ place => exact ih place

theorem getElem?_entries_insert (bindings : Bindings) (different : other ≠ name) (place : Nat) :
    (bindings.insert name item).entries[place]? = some (other, kept) ↔
      bindings.entries[place]? = some (other, kept) :=
  getElem?_assign different bindings.entries place

/-! ## A run of insertions -/

variable (history : List (String × Item))

theorem mem_map_fst_insertAll_empty :
    name ∈ (empty.insertAll history).entries.map Prod.fst ↔ name ∈ history.map Prod.fst := by
  rw [map_fst_insertAll_empty, List.mem_eraseDups]

theorem size_insertAll_empty :
    (empty.insertAll history).size = (history.map Prod.fst).toFinset.card := by
  have names : ((empty.insertAll history).entries.map Prod.fst).toFinset =
      (history.map Prod.fst).toFinset := by
    ext name
    rw [List.mem_toFinset, List.mem_toFinset, mem_map_fst_insertAll_empty]
  rw [← names, List.toFinset_card_of_nodup (empty.insertAll history).nodup, List.length_map]
  rfl

theorem isEmpty_insertAll_empty : (empty.insertAll history).isEmpty = true ↔ history = [] := by
  rw [isEmpty, List.isEmpty_iff]
  constructor
  · intro nothing
    have none (name : String) : name ∉ history.map Prod.fst := by
      rw [← mem_map_fst_insertAll_empty, nothing]
      exact List.not_mem_nil
    exact List.map_eq_nil_iff.mp (List.eq_nil_iff_forall_not_mem.mpr none)
  · rintro rfl
    rfl

theorem get?_insertAll_empty_eq_some_iff :
    (empty.insertAll history).get? name = some item ↔ LastInserted history name item := by
  rw [get?_eq_some_iff]
  exact mem_insertAll_empty

theorem get?_insertAll_empty_eq_none_iff :
    (empty.insertAll history).get? name = none ↔ name ∉ history.map Prod.fst := by
  rw [get?_eq_none_iff, mem_map_fst_insertAll_empty]

/-- **What bindings show of their insertions.** After any run of insertions the inserted names are
listed once each, in the order of their first insertions, and with the items of their last ones;
looking a name up gives the item it is listed with, or nothing for a name that was never inserted;
the size is the number of names, and only a run without insertions leaves nothing. One more
insertion tells the item the name was last inserted with, if it was, and leaves every other name
with its item in its place. -/
theorem insertAll_shows (history : List (String × Item)) :
    let bindings := empty.insertAll history
    (bindings.entries.map Prod.fst).Nodup ∧
    InFirstOrder (bindings.entries.map Prod.fst) (history.map Prod.fst) ∧
    (∀ name item, (name, item) ∈ bindings.entries ↔ LastInserted history name item) ∧
    (∀ name item, bindings.get? name = some item ↔ (name, item) ∈ bindings.entries) ∧
    (∀ name, bindings.get? name = none ↔ name ∉ history.map Prod.fst) ∧
    bindings.size = (history.map Prod.fst).toFinset.card ∧
    (bindings.isEmpty = true ↔ history = []) ∧
    ∀ name item,
      let inserted := bindings.getThenInsert? name item
      inserted.2 = empty.insertAll (history ++ [(name, item)]) ∧
      (∀ former, inserted.1 = some former ↔ LastInserted history name former) ∧
      (inserted.1 = none ↔ name ∉ history.map Prod.fst) ∧
      ∀ other kept (place : Nat), other ≠ name →
        (inserted.2.entries[place]? = some (other, kept) ↔
          bindings.entries[place]? = some (other, kept)) := by
  intro bindings
  refine ⟨bindings.nodup, ?_, fun _ _ => mem_insertAll_empty,
    fun _ _ => bindings.get?_eq_some_iff, fun _ => get?_insertAll_empty_eq_none_iff history,
    size_insertAll_empty history, isEmpty_insertAll_empty history, ?_⟩
  · rw [inFirstOrder_iff]
    exact map_fst_insertAll_empty history
  · intro name item inserted
    refine ⟨(insertAll_concat empty history (name, item)).symm, ?_, ?_, ?_⟩
    · intro former
      exact get?_insertAll_empty_eq_some_iff history
    · exact get?_insertAll_empty_eq_none_iff history
    · intro other kept place different
      exact bindings.getElem?_entries_insert different place

end AbiProbe.Bindings
