/-! # How deep the parts of a regular expression are nested

The depth of a part is the number of parts around one another in it. Characters, places and flags
have none. A group, a repetition, a class, a row of several parts and a choice between rows are
one deeper than the deepest part in them.
-/

namespace AbiProbe.Log.Pattern

/-- The greatest depth of a regular expression. -/
def nestingLimit : Nat := 250

/-- The depth of the deepest of some parts. -/
def deepest (depths : List Nat) : Nat :=
  depths.foldl max 0

/-- The depth of a row of parts. A part alone is no row. -/
def rowDepth : List Nat → Nat
  | [] => 0
  | [depth] => depth
  | depths => deepest depths + 1

/-- The depth of what stands between two ends and is parted by marks: of the last row alone, or of
that and of what stands before it. -/
def partedDepth (before : Option Nat) (row : List Nat) : Nat :=
  match before with
  | none => rowDepth row
  | some depth => max depth (rowDepth row) + 1

end AbiProbe.Log.Pattern
