import AbiProbe.Breakdown
import AbiProbe.TypeLayout.Basic

/-! # The table of layouts

One row for each layout under a heading (`AbiProbe.TypeLayout.table`). The first column is as
wide as the longest type name counted in bytes, so it never is too narrow for its characters;
numbers are aligned to the right and widen their row where they need it. No cell can be asked to be
wider than `AbiProbe.TypeLayout.widthLimit`, so with a longer type name there is no table.
-/

namespace AbiProbe.TypeLayout

open Text

/-- The greatest width a cell can be asked to have. -/
def widthLimit : Nat := 65535

/-- A text at the left of a cell of a width. -/
def leftAligned (width : Nat) (text : String) : String :=
  String.ofList (text.toList.rightpad width ' ')

/-- A text at the right of a cell of a width. -/
def rightAligned (width : Nat) (text : String) : String :=
  String.ofList (text.toList.leftpad width ' ')

/-- A text at the left of a cell whose width is worked out on the way. -/
def leftCell (width : Nat) (text : String) : Except Breakdown String :=
  if width ≤ widthLimit then .ok (leftAligned width text) else .error .cellTooWide

/-- The heading of the column of type names. -/
def typeHeading : String := "TYPE"

/-- The width of the column of type names: of the longest of them in bytes, and of the heading
at least. -/
def typeWidth (layouts : List TypeLayout) : Nat :=
  layouts.foldl (fun width layout => max width layout.cType.utf8ByteSize)
    typeHeading.utf8ByteSize

/-- The line above the rows. -/
def tableHeading (width : Nat) : Except Breakdown String := do
  return (← leftCell width typeHeading) ++ "  SIZE  ALIGN  RUST\n"

/-- The row of one layout. -/
def tableRow (width : Nat) (layout : TypeLayout) : Except Breakdown String := do
  return (← leftCell width layout.cType) ++ "  " ++
    rightAligned 4 (Decimal.ofNat layout.size.toNat) ++ "  " ++
    rightAligned 5 ((layout.align.map fun align => Decimal.ofNat align.toNat).getD "?") ++ "  " ++
    (layout.primitive.map Primitive.name).getD "-" ++ "\n"

/-- The table of layouts, in order. -/
def table (layouts : List TypeLayout) : Except Breakdown String := do
  let heading ← tableHeading (typeWidth layouts)
  let rows ← layouts.mapM (tableRow (typeWidth layouts))
  return heading ++ String.join rows

end AbiProbe.TypeLayout
