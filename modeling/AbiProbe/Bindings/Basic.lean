import AbiProbe.Bindings.Item

/-! # Bindings

Bindings give items to names, each name once, in the order in which the names were first given
one (`AbiProbe.Bindings.insert`).
-/

namespace AbiProbe

/-- Items by name in the order of first insertion. -/
structure Bindings where
  /-- The names with their items. -/
  entries : List (String × Item)
  /-- No name has two items. -/
  nodup : (entries.map Prod.fst).Nodup

namespace Bindings

/-- Gives a name its item: in the place of its former item, or at the end. -/
def assign (name : String) (item : Item) : List (String × Item) → List (String × Item)
  | [] => [(name, item)]
  | (other, former) :: rest =>
      if other = name then (name, item) :: rest else (other, former) :: assign name item rest

/-- The names after an assignment: those before, and the new name at the end if it is new. -/
theorem map_fst_assign (name : String) (item : Item) (entries : List (String × Item)) :
    (assign name item entries).map Prod.fst =
      if name ∈ entries.map Prod.fst then entries.map Prod.fst
      else entries.map Prod.fst ++ [name] := by
  induction entries with
  | nil => simp [assign]
  | cons entry entries ih =>
      obtain ⟨other, former⟩ := entry
      by_cases same : other = name
      · simp [assign, same]
      · have different : ¬name = other := fun equal => same equal.symm
        simp only [assign, same, if_false, List.map_cons, List.mem_cons, different, false_or, ih]
        split <;> simp

/-- No bindings. -/
def empty : Bindings :=
  ⟨[], List.nodup_nil⟩

/-- The bindings with an item for a name. -/
def insert (bindings : Bindings) (name : String) (item : Item) : Bindings where
  entries := assign name item bindings.entries
  nodup := by
    rw [map_fst_assign]
    split
    · exact bindings.nodup
    · rename_i fresh
      rw [List.nodup_append]
      refine ⟨bindings.nodup, by simp, fun first member second same => ?_⟩
      rw [List.mem_singleton] at same
      rintro rfl
      exact fresh (same ▸ member)

/-- The item of a name. -/
def get? (bindings : Bindings) (name : String) : Option Item :=
  bindings.entries.lookup name

/-- The item a name had so far, and the bindings with another for it. -/
def getThenInsert? (bindings : Bindings) (name : String) (item : Item) : Option Item × Bindings :=
  (bindings.get? name, bindings.insert name item)

/-- The number of names. -/
def size (bindings : Bindings) : Nat :=
  bindings.entries.length

/-- Whether there are no names. -/
def isEmpty (bindings : Bindings) : Bool :=
  bindings.entries.isEmpty

/-- The bindings as a JSON object from names to items. -/
def toJson (bindings : Bindings) : Json.Value :=
  .object (bindings.entries.map fun (name, item) => (name, item.toJson))

end Bindings

end AbiProbe
