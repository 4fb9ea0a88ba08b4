import AbiProbe.Proofs.Text.Blank
import AbiProbe.Proofs.Text.Line
import AbiProbe.Proofs.Text.Numeral
import AbiProbe.Proofs.Text.Word
import AbiProbe.TypeLayout.Table
import Mathlib.Data.List.Forall2
import Mathlib.Data.List.Induction
import Mathlib.Data.String.Basic
import Mathlib.Order.Bounds.Basic

/-! # Reading the table of layouts

The column of type names is as wide as the longest of them in bytes
(`AbiProbe.TypeLayout.isGreatest_typeWidth`), and no name has more characters than bytes, so every
name ends within its column. Behind it two spaces follow and then cells without a space in them
(`AbiProbe.TypeLayout.IsRow`), however long the numbers are. Hence every row of a table can be
told apart from its neighbours and read cell by cell (`AbiProbe.TypeLayout.table_rows`). A type
name may be too long for a table (`AbiProbe.TypeLayout.no_table_of_long_name`).
-/

namespace AbiProbe.TypeLayout

open Text

/-! ## Cells -/

/-- The cells of a text: its maximal stretches without a space, in order. -/
def cells (text : List Char) : List (List Char) :=
  (text.splitOn ' ').filter fun cell => !cell.isEmpty

/-- A space ends a cell and is part of none. -/
theorem cells_append_space (front rest : List Char) :
    cells (front ++ ' ' :: rest) = cells front ++ cells rest := by
  unfold cells
  rw [List.splitOn_append_cons_self, List.filter_append]

theorem cells_space_cons (rest : List Char) : cells (' ' :: rest) = cells rest :=
  cells_append_space [] rest

/-- Spaces in front of a text are part of no cell. -/
theorem cells_replicate_append (count : Nat) (text : List Char) :
    cells (List.replicate count ' ' ++ text) = cells text := by
  induction count with
  | zero => rfl
  | succ count ih => rw [List.replicate_succ, List.cons_append, cells_space_cons, ih]

theorem cells_of_isWord {text : String} (isWord : IsWord text) :
    cells text.toList = [text.toList] := by
  have nonempty : text.toList ≠ [] := by simpa using isWord.nonempty
  have solid : ' ' ∉ text.toList := fun space => absurd (isWord.solid ' ' space) (by decide)
  unfold cells
  rw [List.splitOn_eq_singleton solid]
  exact List.filter_cons_of_pos (by simpa using nonempty)

/-- A word aligned to the right is the one cell of its column. -/
theorem cells_rightAligned {text : String} (isWord : IsWord text) (width : Nat) :
    cells (rightAligned width text).toList = [text.toList] := by
  rw [rightAligned, String.toList_ofList, List.leftpad, cells_replicate_append,
    cells_of_isWord isWord]

/-! ## What the cells of a row say -/

/-- The alignment in a row; a question mark where there is none. -/
def alignText : Option UInt64 → String
  | some align => Decimal.ofNat align.toNat
  | none => "?"

/-- The primitive in a row; a dash where there is none. -/
def primitiveText : Option Primitive → String
  | some primitive => primitive.name
  | none => "-"

/-- The texts behind the type name in the row of a layout. -/
def cellTexts (layout : TypeLayout) : List String :=
  [Decimal.ofNat layout.size.toNat, alignText layout.align, primitiveText layout.primitive]

theorem isWord_ofNat (number : Nat) : IsWord (Decimal.ofNat number) where
  nonempty := by
    rw [Decimal.ofNat, Ne, String.ofList_eq_empty_iff]
    exact Decimal.digits_ne_nil number
  solid c member := by
    rw [Decimal.ofNat, String.toList_ofList] at member
    exact isBlank_eq_false_of_isDigit (Decimal.isDigit_of_mem_digits member)

theorem isWord_of_all {text : String} (nonempty : text ≠ "")
    (solid : (text.toList.all fun c => !isBlank c) = true) : IsWord text :=
  ⟨nonempty, by simpa using solid⟩

theorem isWord_alignText (align : Option UInt64) : IsWord (alignText align) := by
  cases align with
  | none => exact isWord_of_all (by decide) rfl
  | some align => exact isWord_ofNat align.toNat

theorem isWord_primitiveText (primitive : Option Primitive) : IsWord (primitiveText primitive) := by
  cases primitive with
  | none => exact isWord_of_all (by decide) rfl
  | some primitive => cases primitive <;> exact isWord_of_all (by decide) rfl

/-- Reads a cell that may hold the mark of an absent value. -/
def readOptional? {α : Type} (mark : String) (read? : String → Option α) (text : String) :
    Option (Option α) :=
  if text = mark then some none else (read? text).map some

/-- Reads size, alignment and primitive off the cells of a row. -/
def readCells? : List String → Option (UInt64 × Option UInt64 × Option Primitive)
  | [size, align, primitive] => do
      let size ← Decimal.unsigned? size.toList
      let align ← readOptional? "?" (fun text => Decimal.unsigned? text.toList) align
      let primitive ← readOptional? "-" Primitive.ofName? primitive
      return (size, align, primitive)
  | _ => none

theorem unsigned?_ofNat (value : UInt64) :
    Decimal.unsigned? (Decimal.ofNat value.toNat).toList = some value := by
  rw [Decimal.unsigned?_eq_some_iff, Decimal.ofNat, String.toList_ofList]
  exact .bare (Decimal.isNumeral_digits value.toNat)

theorem readOptional?_alignText (align : Option UInt64) :
    readOptional? "?" (fun text => Decimal.unsigned? text.toList) (alignText align) =
      some align := by
  cases align with
  | none => rfl
  | some align =>
      have given : alignText (some align) ≠ "?" := by
        intro same
        have digits := unsigned?_ofNat align
        rw [← alignText, same] at digits
        cases digits
      rw [readOptional?, if_neg given, alignText, unsigned?_ofNat, Option.map_some]

theorem readOptional?_primitiveText (primitive : Option Primitive) :
    readOptional? "-" Primitive.ofName? (primitiveText primitive) = some primitive := by
  cases primitive with
  | none => rfl
  | some primitive =>
      have given : primitive.name ≠ "-" := by cases primitive <;> decide
      rw [readOptional?, primitiveText, if_neg given, Primitive.ofName?_name, Option.map_some]

/-- The cells of a row give back what they say. -/
theorem readCells?_cellTexts (layout : TypeLayout) :
    readCells? layout.cellTexts = some (layout.size, layout.align, layout.primitive) := by
  rw [cellTexts, readCells?, unsigned?_ofNat, readOptional?_alignText,
    readOptional?_primitiveText]
  rfl

/-! ## The column of type names -/

/-- A text has no more characters than bytes. -/
theorem length_toList_le_utf8ByteSize (text : String) :
    text.toList.length ≤ text.utf8ByteSize := by
  rw [← String.utf8Len_toList]
  induction text.toList with
  | nil => exact Nat.le_refl 0
  | cons c text ih =>
      have := c.utf8Size_pos
      rw [String.utf8Len_cons, List.length_cons]
      omega

theorem typeWidth_concat (layouts : List TypeLayout) (layout : TypeLayout) :
    typeWidth (layouts ++ [layout]) = max (typeWidth layouts) layout.cType.utf8ByteSize :=
  List.foldl_concat ..

/-- The column is as wide as its heading or as the longest type name in bytes. -/
theorem isGreatest_typeWidth (layouts : List TypeLayout) :
    IsGreatest {bytes | bytes = 4 ∨ ∃ layout ∈ layouts, bytes = layout.cType.utf8ByteSize}
      (typeWidth layouts) := by
  induction layouts using List.reverseRecOn with
  | nil =>
      have heading : typeWidth [] = 4 := by decide
      rw [heading]
      refine ⟨Or.inl rfl, ?_⟩
      rintro bytes (rfl | ⟨layout, member, -⟩)
      · exact Nat.le_refl 4
      · cases member
  | append_singleton layouts layout ih =>
      obtain ⟨attained, bound⟩ := ih
      rw [typeWidth_concat]
      constructor
      · rcases max_choice (typeWidth layouts) layout.cType.utf8ByteSize with wide | wide
        · rw [wide]
          refine attained.imp_right ?_
          rintro ⟨other, member, same⟩
          exact ⟨other, List.mem_append_left _ member, same⟩
        · rw [wide]
          exact Or.inr ⟨layout, List.mem_append_right _ List.mem_cons_self, rfl⟩
      · rintro bytes (rfl | ⟨other, member, rfl⟩)
        · exact (bound (Or.inl rfl)).trans (le_max_left _ _)
        · rcases List.mem_append.mp member with earlier | last
          · exact (bound (Or.inr ⟨other, earlier, rfl⟩)).trans (le_max_left _ _)
          · rw [List.mem_singleton.mp last]
            exact le_max_right _ _

/-- Every type name ends within its column. -/
theorem length_cType_le_typeWidth {layouts : List TypeLayout} {layout : TypeLayout}
    (member : layout ∈ layouts) : layout.cType.toList.length ≤ typeWidth layouts :=
  (length_toList_le_utf8ByteSize layout.cType).trans
    ((isGreatest_typeWidth layouts).2 (Or.inr ⟨layout, member, rfl⟩))

/-! ## Rows -/

/-- A line of a table: a name in a column of some width with spaces behind it, two spaces, and
cells set apart by spaces. -/
structure IsRow (width : Nat) (name : String) (texts : List String) (line : String) : Prop where
  column : ∃ count, line.toList.take width = name.toList ++ List.replicate count ' '
  gap : (line.toList.drop width).take 2 = [' ', ' ']
  cells : cells (line.toList.drop (width + 2)) = texts.map String.toList

theorem isRow_of_fits {width : Nat} {name rest : String} {texts : List String}
    (fits : name.toList.length ≤ width) (split : cells rest.toList = texts.map String.toList) :
    IsRow width name texts (leftAligned width name ++ ("  " ++ rest)) := by
  have filled : (name.toList.rightpad width ' ').length = width := by
    rw [List.length_rightpad, max_eq_left fits]
  have chars : (leftAligned width name ++ ("  " ++ rest)).toList =
      name.toList.rightpad width ' ' ++ ([' ', ' '] ++ rest.toList) := by
    simp [leftAligned]
  have behind : (leftAligned width name ++ ("  " ++ rest)).toList.drop width =
      [' ', ' '] ++ rest.toList := by
    rw [chars, List.drop_left' filled]
  refine ⟨⟨width - name.toList.length, ?_⟩, ?_, ?_⟩
  · rw [chars, List.take_left' filled, List.rightpad]
  · rw [behind]
    rfl
  · rw [← List.drop_drop, behind]
    exact split

/-- The heading of a table, without its end. -/
def headingLine (width : Nat) : String :=
  leftAligned width "TYPE" ++ ("  " ++ "SIZE  ALIGN  RUST")

/-- The row of a layout, without its end. -/
def rowLine (width : Nat) (layout : TypeLayout) : String :=
  leftAligned width layout.cType ++ ("  " ++
    (rightAligned 4 (Decimal.ofNat layout.size.toNat) ++ ("  " ++
      (rightAligned 5 (alignText layout.align) ++ ("  " ++ primitiveText layout.primitive)))))

/-- A cell that is asked to be too wide is not made. -/
theorem leftCell_of_le {width : Nat} (fits : width ≤ widthLimit) (text : String) :
    leftCell width text = .ok (leftAligned width text) :=
  if_pos fits

theorem leftCell_of_lt {width : Nat} (exceeds : widthLimit < width) (text : String) :
    leftCell width text = .error .cellTooWide :=
  if_neg (Nat.not_le.mpr exceeds)

theorem tableHeading_of_le {width : Nat} (fits : width ≤ widthLimit) :
    tableHeading width = .ok (headingLine width ++ "\n") := by
  rw [tableHeading, leftCell_of_le fits, headingLine, String.append_assoc]
  rfl

theorem tableRow_of_le {width : Nat} (fits : width ≤ widthLimit) (layout : TypeLayout) :
    tableRow width layout = .ok (rowLine width layout ++ "\n") := by
  have align : (layout.align.map fun align => Decimal.ofNat align.toNat).getD "?" =
      alignText layout.align := by
    cases layout.align <;> rfl
  have primitive : (layout.primitive.map Primitive.name).getD "-" =
      primitiveText layout.primitive := by
    cases layout.primitive <;> rfl
  rw [tableRow, leftCell_of_le fits, align, primitive]
  simp only [rowLine, String.append_assoc]
  rfl

/-- A table whose column of type names is not too wide is its lines. -/
theorem table_of_le {layouts : List TypeLayout} (fits : typeWidth layouts ≤ widthLimit) :
    table layouts = .ok (String.join
      ((headingLine (typeWidth layouts) :: layouts.map (rowLine (typeWidth layouts))).map
        (· ++ "\n"))) := by
  have rows : tableRow (typeWidth layouts) =
      fun layout => pure ((rowLine (typeWidth layouts) layout) ++ "\n") :=
    funext (tableRow_of_le fits)
  rw [table, tableHeading_of_le fits, rows, List.mapM_pure, List.map_cons, List.map_map,
    String.join_cons]
  rfl

/-- With a type name that is too long there is no table. -/
theorem table_of_lt {layouts : List TypeLayout} (exceeds : widthLimit < typeWidth layouts) :
    table layouts = .error .cellTooWide := by
  rw [table, tableHeading, leftCell_of_lt exceeds]
  rfl

theorem isRow_headingLine {width : Nat} (fits : 4 ≤ width) :
    IsRow width "TYPE" ["SIZE", "ALIGN", "RUST"] (headingLine width) :=
  isRow_of_fits fits (by decide)

theorem isRow_rowLine {width : Nat} {layout : TypeLayout}
    (fits : layout.cType.toList.length ≤ width) :
    IsRow width layout.cType layout.cellTexts (rowLine width layout) := by
  apply isRow_of_fits fits
  have gap (front rest : String) :
      cells (front ++ ("  " ++ rest)).toList = cells front.toList ++ cells rest.toList := by
    have chars : (front ++ ("  " ++ rest)).toList =
        front.toList ++ ' ' :: ' ' :: rest.toList := by
      simp
    rw [chars, cells_append_space, cells_space_cons]
  rw [gap, gap, cells_rightAligned (isWord_ofNat _), cells_rightAligned (isWord_alignText _),
    cells_of_isWord (isWord_primitiveText _)]
  rfl

/-! ## Lines -/

theorem lineFeed_notMem_of_isWord {text : String} (isWord : IsWord text) : '\n' ∉ text.toList :=
  fun feed => absurd (isWord.solid _ feed) (by decide)

theorem lineFeed_notMem_leftAligned {text : String} (unbroken : '\n' ∉ text.toList) (width : Nat) :
    '\n' ∉ (leftAligned width text).toList := by
  simpa [leftAligned, List.rightpad] using unbroken

theorem lineFeed_notMem_rightAligned {text : String} (unbroken : '\n' ∉ text.toList) (width : Nat) :
    '\n' ∉ (rightAligned width text).toList := by
  simpa [rightAligned, List.leftpad] using unbroken

theorem lineFeed_notMem_headingLine (width : Nat) : '\n' ∉ (headingLine width).toList := by
  rw [headingLine, String.toList_append, List.mem_append, not_or]
  exact ⟨lineFeed_notMem_leftAligned (by decide) width, by decide⟩

theorem lineFeed_notMem_rowLine {layout : TypeLayout} (unbroken : '\n' ∉ layout.cType.toList)
    (width : Nat) : '\n' ∉ (rowLine width layout).toList := by
  have size := lineFeed_notMem_of_isWord (isWord_ofNat layout.size.toNat)
  have align := lineFeed_notMem_of_isWord (isWord_alignText layout.align)
  have primitive := lineFeed_notMem_of_isWord (isWord_primitiveText layout.primitive)
  have gap : '\n' ∉ "  ".toList := by decide
  simp only [rowLine, String.toList_append, List.mem_append, not_or]
  exact ⟨lineFeed_notMem_leftAligned unbroken width, gap, lineFeed_notMem_rightAligned size 4, gap,
    lineFeed_notMem_rightAligned align 5, gap, primitive⟩

/-- **The table of layouts can be read back.** Where no type name holds a line feed, a table
consists of a heading and one row for each layout in order. The column of names is as wide as the
longest of them in bytes, and at least as wide as its heading. In it stands the name with spaces
behind it, and behind it and two spaces there are three cells, which give back size, alignment and
primitive. There is no table if the column had to be wider than any cell can be. -/
theorem table_rows (layouts : List TypeLayout)
    (unbroken : ∀ layout ∈ layouts, '\n' ∉ layout.cType.toList) :
    ∃ width,
      IsGreatest {bytes | bytes = 4 ∨ ∃ layout ∈ layouts, bytes = layout.cType.utf8ByteSize}
        width ∧
      (width ≤ widthLimit → ∃ text heading rows, table layouts = .ok text ∧
        ConsistsOf text (heading :: rows) ∧
        IsRow width "TYPE" ["SIZE", "ALIGN", "RUST"] heading ∧
        List.Forall₂ (fun layout row => IsRow width layout.cType layout.cellTexts row)
          layouts rows ∧
        ∀ layout ∈ layouts,
          readCells? layout.cellTexts = some (layout.size, layout.align, layout.primitive)) ∧
      (widthLimit < width → table layouts = .error .cellTooWide) := by
  have widest := isGreatest_typeWidth layouts
  refine ⟨typeWidth layouts, widest, fun fits => ?_, table_of_lt⟩
  refine ⟨_, headingLine (typeWidth layouts), layouts.map (rowLine (typeWidth layouts)),
    table_of_le fits, ?_, ?_, ?_, fun layout _ => readCells?_cellTexts layout⟩
  · apply consistsOf_join
    intro line member
    rcases List.mem_cons.mp member with rfl | listed
    · exact lineFeed_notMem_headingLine _
    · obtain ⟨layout, given, rfl⟩ := List.mem_map.mp listed
      exact lineFeed_notMem_rowLine (unbroken layout given) _
  · exact isRow_headingLine (widest.2 (Or.inl rfl))
  · rw [List.forall₂_map_right_iff, List.forall₂_same]
    intro layout given
    exact isRow_rowLine (length_cType_le_typeWidth given)

/-- A name with more bytes than characters widens the column to its bytes, and a size of twenty
digits goes beyond the place for sizes; both rows are read alike. -/
theorem table_rows_wide :
    let first : TypeLayout := ⟨"größe_t", 18446744073709551615, none, none, none⟩
    let second : TypeLayout := ⟨"int  ", 4, some 4, some .signedInt, some .i32⟩
    (∀ layout ∈ [first, second], '\n' ∉ layout.cType.toList) ∧
    ∃ text heading row other, table [first, second] = .ok text ∧
      ConsistsOf text [heading, row, other] ∧
      IsRow 9 "TYPE" ["SIZE", "ALIGN", "RUST"] heading ∧
      IsRow 9 "größe_t" ["18446744073709551615", "?", "-"] row ∧
      IsRow 9 "int  " ["4", "4", "i32"] other := by
  intro first second
  have unbroken : ∀ layout ∈ [first, second], '\n' ∉ layout.cType.toList := by
    intro layout member
    rcases List.mem_pair.mp member with rfl | rfl <;> decide
  have nine : typeWidth [first, second] = 9 := by decide +kernel
  obtain ⟨width, widest, reads, -⟩ := table_rows [first, second] unbroken
  obtain rfl : width = 9 := (widest.unique (isGreatest_typeWidth _)).trans nine
  obtain ⟨text, heading, rows, made, consists, headed, listed, -⟩ := reads (by decide)
  obtain ⟨row, _, told, others, rfl⟩ := List.forall₂_cons_left_iff.mp listed
  obtain ⟨other, _, toldToo, ends, rfl⟩ := List.forall₂_cons_left_iff.mp others
  obtain rfl := List.forall₂_nil_left_iff.mp ends
  have firstTexts : first.cellTexts = ["18446744073709551615", "?", "-"] := by decide +kernel
  have secondTexts : second.cellTexts = ["4", "4", "i32"] := by decide +kernel
  exact ⟨unbroken, text, heading, row, other, made, consists, headed, firstTexts ▸ told,
    secondTexts ▸ toldToo⟩

/-- **Not every list of layouts has a table.** A type name of one byte more than the widest cell
holds no line feed, and breaks the table down. -/
theorem no_table_of_long_name :
    let layout : TypeLayout :=
      ⟨String.ofList (List.replicate 65536 'x'), 1, none, none, none⟩
    '\n' ∉ layout.cType.toList ∧ table [layout] = .error .cellTooWide := by
  intro layout
  have unbroken : '\n' ∉ layout.cType.toList := by
    rw [String.toList_ofList, List.mem_replicate]
    rintro ⟨-, same⟩
    cases same
  refine ⟨unbroken, table_of_lt ?_⟩
  have long : 65536 ≤ layout.cType.toList.length := by
    rw [String.toList_ofList, List.length_replicate]
  have within := length_cType_le_typeWidth (List.mem_singleton.mpr (rfl : layout = layout))
  exact Nat.lt_of_lt_of_le (by decide) (long.trans within)

end AbiProbe.TypeLayout
