import AbiProbe.Proofs.Bindings.Reading
import AbiProbe.Proofs.Text.Line
import Mathlib.Data.List.Forall2

/-! # The lines of a source text

Every line of a source text has one origin (`AbiProbe.Bindings.render_lines`). The comment gives
the first lines, all behind two slashes, so nothing in it becomes a declaration; each entry gives
the line of its declaration and perhaps an attribute directly above. Deleting the attributes from a
source text gives the one written without them.
-/

namespace AbiProbe.Bindings

/-- A line of a comment is written behind two slashes, with a blank between unless it is empty. -/
inductive BehindSlashes : String → String → Prop
  | empty : BehindSlashes "" "//"
  | given {line : String} (nonempty : line ≠ "") : BehindSlashes line ("// " ++ line)

/-- The lines above the declarations: those of the comment, if there is one, and an empty line
under them. -/
inductive HeaderLines : Option String → List String → Prop
  | absent : HeaderLines none []
  | comment {comment : String} {written : List String}
      (slashed : List.Forall₂ BehindSlashes (Text.linesOf comment) written) :
      HeaderLines (some comment) (written ++ [""])

/-- The line of an entry's declaration. -/
def declarationLine (style : EmissionStyle) (entry : String × Item) : String :=
  visibilityMark style.visibility ++ (Declaration.ofEntry entry).text

/-- The lines of an entry: that of its declaration, and directly above it at most one attribute
where the style allows attributes. -/
inductive EntryLines (style : EmissionStyle) (entry : String × Item) : List String → Prop
  | bare : EntryLines style entry [declarationLine style entry]
  | attributed {lint : String} (allowed : style.allowNamingLints = true)
      (known : lint ∈ attributes) : EntryLines style entry [lint, declarationLine style entry]

/-! ## Comments -/

theorem behindSlashes_commentLine (line : String) : BehindSlashes line (commentLine line) := by
  unfold commentLine
  split
  · rename_i empty
    rw [empty]
    exact .empty
  · rename_i nonempty
    exact .given nonempty

/-- The lines of the comment in a style, and the empty line under them. -/
def headerOf (style : EmissionStyle) : List String :=
  (style.headerComment.map commentLines).getD []

theorem headerLines_headerOf (style : EmissionStyle) :
    HeaderLines style.headerComment (headerOf style) := by
  unfold headerOf
  cases style.headerComment with
  | none => exact .absent
  | some comment =>
      refine .comment ?_
      rw [List.forall₂_map_right_iff, List.forall₂_same]
      intro line _
      exact behindSlashes_commentLine line

theorem mem_headerOf {style : EmissionStyle} {written : String}
    (member : written ∈ headerOf style) :
    written = "" ∨ ∃ line, '\n' ∉ line.toList ∧ written = commentLine line := by
  unfold headerOf at member
  cases comment : style.headerComment with
  | none =>
      rw [comment] at member
      cases member
  | some text =>
      rw [comment, Option.map_some, Option.getD_some, commentLines, List.mem_append,
        List.mem_singleton] at member
      refine member.symm.imp_right fun commented => ?_
      obtain ⟨line, given, rfl⟩ := List.mem_map.mp commented
      obtain ⟨chars, cut, rfl⟩ := List.mem_map.mp given
      refine ⟨_, ?_, rfl⟩
      rw [String.toList_ofList]
      exact Text.lineFeed_notMem_of_mem_lines cut

theorem lineFeed_notMem_headerOf {style : EmissionStyle} {written : String}
    (member : written ∈ headerOf style) : '\n' ∉ written.toList := by
  rcases mem_headerOf member with rfl | ⟨line, noFeed, rfl⟩
  · simp
  · unfold commentLine
    split
    · decide
    · simpa using noFeed

/-- A line of a comment is no attribute. -/
theorem notMem_attributes_of_mem_headerOf {style : EmissionStyle} {written : String}
    (member : written ∈ headerOf style) : written ∉ attributes := by
  have attribute_head : ∀ lint ∈ attributes, lint.toList.head? = some '#' := by decide
  intro known
  have head := attribute_head written known
  rcases mem_headerOf member with rfl | ⟨line, -, rfl⟩
  · exact absurd head (by decide)
  · unfold commentLine at head
    split at head
    · exact absurd head (by decide)
    · simp at head

/-! ## Entries -/

theorem declarationLine_eq (style : EmissionStyle) (entry : String × Item) :
    visibilityMark style.visibility ++ declaration entry.1 entry.2 =
      declarationLine style entry := by
  rw [declarationLine, Declaration.text_ofEntry]

theorem entryLines_itemLines (style : EmissionStyle) (entry : String × Item) :
    EntryLines style entry (itemLines style entry) := by
  unfold itemLines
  rw [declarationLine_eq]
  split
  · rename_i allowed
    cases lint : lint? entry.1 entry.2 with
    | none => exact .bare
    | some line => exact .attributed allowed (mem_attributes_of_lint? lint)
  · exact .bare

theorem lineFeed_notMem_declarationLine {style : EmissionStyle} {entry : String × Item}
    (oneLine : '\n' ∉ style.visibility.toList)
    (spelled : (Identifier.rustSpelling? entry.1).isSome) :
    '\n' ∉ (declarationLine style entry).toList := by
  have declared := Declaration.lineFeed_notMem_text (Declaration.writable_ofEntry spelled)
  unfold declarationLine visibilityMark
  split
  · simpa using declared
  · simpa using ⟨oneLine, declared⟩

/-- A declaration holds a blank, and an attribute does not. -/
theorem declarationLine_notMem_attributes (style : EmissionStyle) (entry : String × Item) :
    declarationLine style entry ∉ attributes := by
  have blankless : ∀ lint ∈ attributes, ' ' ∉ lint.toList := by decide
  intro known
  apply blankless _ known
  rw [declarationLine, String.toList_append, List.mem_append]
  right
  obtain ⟨name, item⟩ := entry
  cases item <;> simp [Declaration.ofEntry, Declaration.text]

theorem EntryLines.lineFeed_notMem {style : EmissionStyle} {entry : String × Item}
    {lines : List String} (ofEntry : EntryLines style entry lines)
    (oneLine : '\n' ∉ style.visibility.toList)
    (spelled : (Identifier.rustSpelling? entry.1).isSome) {line : String} (member : line ∈ lines) :
    '\n' ∉ line.toList := by
  have attribute_line : ∀ lint ∈ attributes, '\n' ∉ lint.toList := by decide
  have declared := lineFeed_notMem_declarationLine oneLine spelled
  cases ofEntry with
  | bare =>
      rw [List.mem_singleton] at member
      rwa [member]
  | attributed _ known =>
      rw [List.mem_pair] at member
      rcases member with rfl | rfl
      · exact attribute_line _ known
      · exact declared

/-- Without its attribute an entry has the line of its declaration only. -/
theorem EntryLines.filter_eq {style : EmissionStyle} {entry : String × Item}
    {lines : List String} (ofEntry : EntryLines style entry lines) :
    lines.filter (· ∉ attributes) = [declarationLine style entry] := by
  have kept : [declarationLine style entry].filter (· ∉ attributes) =
      [declarationLine style entry] :=
    List.filter_cons_of_pos (by simpa using declarationLine_notMem_attributes style entry)
  cases ofEntry with
  | bare => exact kept
  | attributed _ known =>
      rw [List.filter_cons_of_neg (by simpa using known), kept]

/-! ## Source texts -/

theorem sourceLines_eq (bindings : Bindings) (style : EmissionStyle) :
    bindings.sourceLines style = headerOf style ++ bindings.entries.flatMap (itemLines style) := rfl

theorem consistsOf_render {bindings : Bindings} (spellable : bindings.Spellable)
    {style : EmissionStyle} (oneLine : '\n' ∉ style.visibility.toList) :
    Text.ConsistsOf (bindings.render style) (bindings.sourceLines style) := by
  apply Text.consistsOf_join
  intro line member
  rw [sourceLines_eq, List.mem_append] at member
  rcases member with above | below
  · exact lineFeed_notMem_headerOf above
  · obtain ⟨entry, given, ofEntry⟩ := List.mem_flatMap.mp below
    exact (entryLines_itemLines style entry).lineFeed_notMem oneLine (spellable entry given) ofEntry

theorem filter_sourceLines (bindings : Bindings) (style : EmissionStyle) :
    (bindings.sourceLines { style with allowNamingLints := true }).filter (· ∉ attributes) =
      bindings.sourceLines { style with allowNamingLints := false } := by
  have header : (headerOf style).filter (· ∉ attributes) = headerOf style := by
    rw [List.filter_eq_self]
    intro line member
    simpa using notMem_attributes_of_mem_headerOf member
  rw [sourceLines_eq, sourceLines_eq, List.filter_append, List.filter_flatMap]
  refine congrArg₂ (· ++ ·) header ?_
  congr 1
  funext entry
  rw [(entryLines_itemLines _ entry).filter_eq]
  exact (congrArg (fun line => [line]) (declarationLine_eq style entry)).symm

/-- **The lines of a source text.** Where visibility and names hold no line feed, the text of
bindings consists of the lines of the comment, each behind two slashes, of an empty line under
them, and for each entry in order of its declaration on one line with at most one attribute above
it. The text without attributes is the one with attributes after their lines are deleted. -/
theorem render_lines (style : EmissionStyle) (oneLine : '\n' ∉ style.visibility.toList)
    (bindings : Bindings) (spellable : bindings.Spellable) :
    (∃ header blocks, HeaderLines style.headerComment header ∧
      List.Forall₂ (EntryLines style) bindings.entries blocks ∧
      Text.ConsistsOf (bindings.render style) (header ++ blocks.flatten)) ∧
    bindings.render { style with allowNamingLints := false } =
      Text.withoutLines attributes (bindings.render { style with allowNamingLints := true }) := by
  constructor
  · refine ⟨headerOf style, bindings.entries.map (itemLines style), headerLines_headerOf style,
      ?_, consistsOf_render spellable oneLine⟩
    rw [List.forall₂_map_right_iff, List.forall₂_same]
    intro entry _
    exact entryLines_itemLines style entry
  · symm
    apply Text.withoutLines_eq (consistsOf_render spellable (by exact oneLine))
    · rw [filter_sourceLines]
      exact consistsOf_render spellable (by exact oneLine)
    · decide

/-- A comment that spells declarations and attributes, with line ends of both kinds and a carriage
return at its end, stays a comment. -/
theorem render_lines_commented_code :
    let style : EmissionStyle :=
      ⟨"pub", true, some "\r\n\n#[allow(non_upper_case_globals)]\nconst limit: i64 = 1;\r"⟩
    let bindings := (empty.insert "limit" (.signedConstant (-1))).insert "match" (.typeAlias .u8)
    '\n' ∉ style.visibility.toList ∧ bindings.Spellable ∧
      (∃ header blocks, HeaderLines style.headerComment header ∧
        List.Forall₂ (EntryLines style) bindings.entries blocks ∧
        Text.ConsistsOf (bindings.render style) (header ++ blocks.flatten)) ∧
      bindings.render { style with allowNamingLints := false } =
        Text.withoutLines attributes (bindings.render { style with allowNamingLints := true }) := by
  intro style bindings
  have oneLine : '\n' ∉ style.visibility.toList := by decide
  have spellable : bindings.Spellable := by
    intro entry member
    rcases List.mem_pair.mp member with rfl | rfl <;> decide
  exact ⟨oneLine, spellable, render_lines style oneLine bindings spellable⟩

end AbiProbe.Bindings
