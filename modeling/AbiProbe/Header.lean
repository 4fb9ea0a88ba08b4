import AbiProbe.Text.Blank

/-! # Headers and include lists

A header name becomes the operand of an `#include` line: a name already between angle brackets
or double quotes stands as it is, any other is put between double quotes
(`AbiProbe.Header.operand`). A program includes each operand once, at the place where it is
first asked for (`AbiProbe.IncludeList`).
-/

namespace AbiProbe

namespace Header

/-- Whether a text already stands between the marks of an include operand. -/
def isDelimited (text : List Char) : Bool :=
  (text.head? = some '<' && text.getLast? = some '>') ||
    (2 ≤ text.length && text.head? = some '"' && text.getLast? = some '"')

/-- The include operand of a header name: trimmed, and quoted unless already delimited. -/
def operand (header : String) : String :=
  let name := Text.trim header.toList
  if isDelimited name then String.ofList name else String.ofList ('"' :: (name ++ ['"']))

end Header

/-- Removing repetitions leaves none. -/
theorem nodup_eraseDups {α : Type} [BEq α] [LawfulBEq α] (list : List α) :
    list.eraseDups.Nodup := by
  generalize bound : list.length = n
  induction n using Nat.strongRecOn generalizing list with
  | ind n ih =>
      cases list with
      | nil => simp
      | cons first rest =>
          rw [List.eraseDups_cons, List.nodup_cons]
          have shorter : (rest.filter fun other => !other == first).length < n := by
            have := List.length_filter_le (fun other => !other == first) rest
            simp only [List.length_cons] at bound
            omega
          refine ⟨?_, ih _ shorter _ rfl⟩
          simp [List.mem_eraseDups]

/-- Include operands in the order of their first request, each once. -/
structure IncludeList where
  /-- The operands. -/
  operands : List String
  /-- No operand is included twice. -/
  nodup : operands.Nodup
deriving DecidableEq, Repr

namespace IncludeList

/-- The include list of header names in the order they are asked for. -/
def ofHeaders (headers : List String) : IncludeList where
  operands := (headers.map Header.operand).eraseDups
  nodup := nodup_eraseDups _

/-- The include list with further headers at its end; those already included stay in place. -/
def append (includes : IncludeList) (headers : List String) : IncludeList where
  operands := (includes.operands ++ headers.map Header.operand).eraseDups
  nodup := nodup_eraseDups _

/-- The include lines of a program. -/
def lines (includes : IncludeList) : String :=
  String.join (includes.operands.map fun operand => "#include " ++ operand ++ "\n")

end IncludeList

end AbiProbe
