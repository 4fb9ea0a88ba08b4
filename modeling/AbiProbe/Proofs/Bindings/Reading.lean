import AbiProbe.Bindings.Source
import AbiProbe.Proofs.Identifier
import AbiProbe.Proofs.Text.Decimal
import AbiProbe.Proofs.Text.Delimiter

/-! # Reading declarations off source text

A source text written in a style is a header, which the style alone determines, and declarations
behind the visibility of the style, each on a line of its own that may have an attribute above it
(`AbiProbe.EmissionStyle.Reads`). A visibility may itself look like attributes or declarations;
still a text is read in one way (`AbiProbe.EmissionStyle.Reads.unique`), since an attribute holds
no blank and a visibility ends with one. The text of bindings reads as their declarations
(`AbiProbe.Bindings.reads_render`), so it determines the bindings
(`AbiProbe.Bindings.entries_eq_of_render_eq`).
-/

namespace AbiProbe

/-- The primitive to which the declaration of an item refers: that of an alias, or the type of a
constant. -/
def Item.primitive : Item → Primitive
  | typeAlias primitive => primitive
  | signedConstant _ => .i64
  | unsignedConstant _ => .u64

/-- A declaration as it is read off a source text. A name in it is an identifier, without the
mark of a raw one. -/
inductive Declaration
  /-- A type alias of a name for the type of another name. -/
  | typeAlias (name target : String)
  /-- A constant with the name of its type and its value. -/
  | constant (name type : String) (value : Int)
deriving DecidableEq, Repr

namespace Declaration

/-- The text of a declaration after its visibility. -/
def text : Declaration → String
  | typeAlias name target => "type " ++ Bindings.spelling name ++ " = " ++ target ++ ";"
  | constant name type value =>
      "const " ++ Bindings.spelling name ++ ": " ++ type ++ " = " ++ Text.Decimal.ofInt value ++ ";"

/-- The declared name. -/
def name : Declaration → String
  | typeAlias name _ | constant name _ _ => name

/-- The name of the type a declaration refers to. -/
def typeName : Declaration → String
  | typeAlias _ target => target
  | constant _ type _ => type

/-- A declaration of a name that has a spelling, by a type name that is an identifier. -/
structure Writable (declaration : Declaration) : Prop where
  spelled : (Identifier.rustSpelling? declaration.name).isSome
  typeNamed : Identifier.isIdentifier declaration.typeName = true

/-- The declaration of a name with its item. -/
def ofEntry : String × Item → Declaration
  | (name, .typeAlias primitive) => typeAlias name primitive.name
  | (name, .signedConstant value) => constant name "i64" value.toInt
  | (name, .unsignedConstant value) => constant name "u64" value.toNat

end Declaration

/-- The lines that may stand above a declaration, with their ends, and the absence of one. -/
def attributeTexts : List (List Char) :=
  [[], (Bindings.typeLint ++ "\n").toList, (Bindings.constantLint ++ "\n").toList]

/-- A text that consists of declarations, one after the other, each behind a mark, on a line of
its own and possibly under an attribute. -/
inductive ReadsAs (mark : List Char) : List Char → List Declaration → Prop
  | nil : ReadsAs mark [] []
  | cons {lint rest : List Char} {declaration : Declaration}
      {declarations : List Declaration} (attributed : lint ∈ attributeTexts)
      (writable : declaration.Writable) (onward : ReadsAs mark rest declarations) :
      ReadsAs mark (lint ++ (mark ++ (declaration.text.toList ++ '\n' :: rest)))
        (declaration :: declarations)

namespace EmissionStyle

/-- The text above the declarations. -/
def header (style : EmissionStyle) : List Char :=
  ((style.headerComment.map Bindings.commentLines).getD []).flatMap fun line =>
    line.toList ++ ['\n']

/-- What stands in front of every declaration. -/
def mark (style : EmissionStyle) : List Char :=
  (Bindings.visibilityMark style.visibility).toList

/-- A source text in a style reads as declarations when they are what follows its header. -/
def Reads (style : EmissionStyle) (text : String) (declarations : List Declaration) : Prop :=
  ∃ body, text.toList = style.header ++ body ∧ ReadsAs style.mark body declarations

end EmissionStyle

/-! ## Texts of declarations -/

namespace Bindings

theorem spelling_eq_of_rustSpelling? {name spelled : String}
    (known : Identifier.rustSpelling? name = some spelled) : spelling name = spelled := by
  rw [spelling, known, Option.getD_some]

theorem spelling_injective {first second : String}
    (firstSpelled : (Identifier.rustSpelling? first).isSome)
    (secondSpelled : (Identifier.rustSpelling? second).isSome)
    (same : spelling first = spelling second) : first = second := by
  obtain ⟨spelled, known⟩ := Option.isSome_iff_exists.mp firstSpelled
  obtain ⟨other, knownToo⟩ := Option.isSome_iff_exists.mp secondSpelled
  rw [spelling_eq_of_rustSpelling? known, spelling_eq_of_rustSpelling? knownToo] at same
  subst same
  exact Identifier.rustSpelling?_injective known knownToo

/-- A spelling holds no delimiter. -/
theorem notMem_spelling {name : String} (spelled : (Identifier.rustSpelling? name).isSome)
    {c : Char} (foreign : Identifier.isPart c = false) (unmarked : c ≠ '#') :
    c ∉ (spelling name).toList := by
  obtain ⟨text, known⟩ := Option.isSome_iff_exists.mp spelled
  rw [spelling_eq_of_rustSpelling? known]
  intro member
  rcases Identifier.isPart_or_mark_of_mem_spelling known member with part | mark
  · rw [foreign] at part
    cases part
  · exact unmarked mark

/-- A spelling in front of a delimiter tells the spelled name and what follows. -/
theorem spelling_append_inj {first second : String}
    (firstSpelled : (Identifier.rustSpelling? first).isSome)
    (secondSpelled : (Identifier.rustSpelling? second).isSome) {delimiter : Char}
    (foreign : Identifier.isPart delimiter = false) (unmarked : delimiter ≠ '#')
    {rest other : List Char}
    (same : (spelling first).toList ++ delimiter :: rest =
      (spelling second).toList ++ delimiter :: other) : first = second ∧ rest = other := by
  have absent := notMem_spelling firstSpelled foreign unmarked
  have missing := notMem_spelling secondSpelled foreign unmarked
  obtain ⟨spellings, rests⟩ := Text.append_cons_inj absent missing same
  exact ⟨spelling_injective firstSpelled secondSpelled (String.toList_inj.mp spellings), rests⟩

end Bindings

namespace Declaration

open Bindings

private theorem toList_text_typeAlias (name target : String) :
    (typeAlias name target).text.toList =
      "type ".toList ++ ((spelling name).toList ++ ' ' :: ("= ".toList ++ target.toList ++ [';'])) := by
  simp [text, String.toList_append]

private theorem toList_text_constant (name type : String) (value : Int) :
    (constant name type value).text.toList =
      "const ".toList ++ ((spelling name).toList ++ ':' :: ' ' :: (type.toList ++ ' ' ::
        ("= ".toList ++ (Text.Decimal.ofInt value).toList ++ [';']))) := by
  simp [text, String.toList_append]

/-- A blank, a colon or a line feed is no character of an identifier. -/
private theorem notMem_typeName {name : String} (identifier : Identifier.isIdentifier name = true)
    {c : Char} (foreign : Identifier.isPart c = false) : c ∉ name.toList := by
  intro member
  rw [Identifier.isPart_of_mem identifier member] at foreign
  cases foreign

/-- The text of a declaration is one line. -/
theorem lineFeed_notMem_text {declaration : Declaration} (writable : declaration.Writable) :
    '\n' ∉ declaration.text.toList := by
  obtain ⟨spelled, typeNamed⟩ := writable
  have name := notMem_spelling spelled (c := '\n') (by decide) (by decide)
  have type := notMem_typeName typeNamed (c := '\n') (by decide)
  cases declaration with
  | typeAlias _ target =>
      rw [toList_text_typeAlias]
      simpa using ⟨name, type⟩
  | constant _ _ value =>
      have number : '\n' ∉ (Text.Decimal.ofInt value).toList := by
        intro member
        rcases Text.Decimal.isDigit_or_minus_of_mem_ofInt member with digit | minus
        · exact absurd digit (by decide)
        · exact absurd minus (by decide)
      rw [toList_text_constant]
      simpa using ⟨name, type, number⟩

/-- The text of a declaration is that of no other. -/
theorem text_injective {first second : Declaration} (firstWritable : first.Writable)
    (secondWritable : second.Writable) (same : first.text = second.text) : first = second := by
  obtain ⟨firstSpelled, firstTyped⟩ := firstWritable
  obtain ⟨secondSpelled, secondTyped⟩ := secondWritable
  have chars := congrArg String.toList same
  cases first with
  | typeAlias name target =>
      cases second with
      | constant other type value =>
          rw [toList_text_typeAlias, toList_text_constant] at chars
          simp at chars
      | typeAlias other otherTarget =>
          rw [toList_text_typeAlias, toList_text_typeAlias] at chars
          obtain ⟨names, rest⟩ := spelling_append_inj firstSpelled secondSpelled (by decide)
            (by decide) (List.append_cancel_left chars)
          have targets := List.append_cancel_left (List.append_cancel_right rest)
          exact congrArg₂ typeAlias names (String.toList_inj.mp targets)
  | constant name type value =>
      cases second with
      | typeAlias other target =>
          rw [toList_text_typeAlias, toList_text_constant] at chars
          simp at chars
      | constant other otherType otherValue =>
          rw [toList_text_constant, toList_text_constant] at chars
          obtain ⟨names, typed⟩ := spelling_append_inj firstSpelled secondSpelled (by decide)
            (by decide) (List.append_cancel_left chars)
          obtain ⟨types, rest⟩ := Text.append_cons_inj
            (notMem_typeName firstTyped (by decide)) (notMem_typeName secondTyped (by decide))
            (List.cons.inj typed).2
          have values := List.append_cancel_left (List.append_cancel_right rest)
          rw [constant.injEq]
          exact ⟨names, String.toList_inj.mp types,
            Text.Decimal.ofInt_injective (String.toList_inj.mp values)⟩

/-- A declaration does not start like an attribute. -/
theorem head_text_ne (declaration : Declaration) (rest : List Char) :
    (declaration.text.toList ++ rest).head? ≠ some '#' := by
  cases declaration with
  | typeAlias name target => simp [toList_text_typeAlias]
  | constant name type value => simp [toList_text_constant]

end Declaration

/-! ## Readings -/

/-- An attribute starts with a character of its own and holds no blank. -/
private theorem eq_nil_or_blankless :
    ∀ lint ∈ attributeTexts, lint = [] ∨ (lint.head? = some '#' ∧ ' ' ∉ lint) := by
  decide

/-- No attribute begins another. -/
private theorem eq_of_lint_begins :
    ∀ lint ∈ attributeTexts, ∀ other ∈ attributeTexts, lint ≠ [] → lint <+: other →
      lint = other := by
  decide

/-- A declaration behind a mark is not read as one under an attribute. -/
private theorem marked_ne_attributed {mark lint rest other : List Char}
    (marked : mark = [] ∨ ' ' ∈ mark) (declaration : Declaration) (present : lint.head? = some '#')
    (blankless : ' ' ∉ lint) :
    mark ++ (declaration.text.toList ++ rest) ≠ lint ++ (mark ++ other) := by
  intro same
  -- A mark that begins with the attribute begins again behind it, so it has no blank either.
  rcases marked with rfl | blank
  · apply declaration.head_text_ne rest
    rw [List.nil_append] at same
    rw [same, List.head?_append, present, Option.some_or]
  · have nonempty := List.ne_nil_of_mem (List.mem_of_head? present)
    exact Text.notMem_of_append_eq nonempty blankless same blank

/-- The attribute above a marked declaration is determined by the text. -/
private theorem lint_unique {mark lint otherLint rest otherRest : List Char}
    {declaration other : Declaration} (marked : mark = [] ∨ ' ' ∈ mark)
    (attributed : lint ∈ attributeTexts) (otherAttributed : otherLint ∈ attributeTexts)
    (same : lint ++ (mark ++ (declaration.text.toList ++ rest)) =
      otherLint ++ (mark ++ (other.text.toList ++ otherRest))) : lint = otherLint := by
  rcases eq_nil_or_blankless lint attributed with rfl | ⟨present, blankless⟩ <;>
    rcases eq_nil_or_blankless otherLint otherAttributed with
      rfl | ⟨otherPresent, otherBlankless⟩
  · rfl
  · exact (marked_ne_attributed marked declaration otherPresent otherBlankless same).elim
  · exact (marked_ne_attributed marked other present blankless same.symm).elim
  · have nonempty := List.ne_nil_of_mem (List.mem_of_head? present)
    have otherNonempty := List.ne_nil_of_mem (List.mem_of_head? otherPresent)
    -- Both attributes begin the text, so one of them begins the other.
    rcases List.prefix_or_prefix_of_prefix ⟨_, same⟩ ⟨_, rfl⟩ with begins | begins
    · exact eq_of_lint_begins lint attributed otherLint otherAttributed nonempty begins
    · exact (eq_of_lint_begins otherLint otherAttributed lint attributed otherNonempty begins).symm

/-- **Declarations are read in one way.** Behind a mark that is empty or holds a blank, a text is
no two lists of declarations. -/
theorem ReadsAs.unique {mark text : List Char} {first second : List Declaration}
    (marked : mark = [] ∨ ' ' ∈ mark) (reads : ReadsAs mark text first)
    (also : ReadsAs mark text second) : first = second := by
  -- The second reading varies: behind its first declaration it reads what the first one does.
  induction reads generalizing second with
  | nil =>
      generalize blank : ([] : List Char) = text at also
      cases also with
      | nil => rfl
      | cons _ _ _ => simp at blank
  | @cons lint rest declaration declarations attributed writable onward ih =>
      generalize same : lint ++ (mark ++ (declaration.text.toList ++ '\n' :: rest)) = text at also
      cases also with
      | nil => simp at same
      | @cons otherLint otherRest other others otherAttributed otherWritable otherOnward =>
          obtain rfl := lint_unique marked attributed otherAttributed same
          obtain ⟨texts, rfl⟩ := Text.append_cons_inj
            (Declaration.lineFeed_notMem_text writable)
            (Declaration.lineFeed_notMem_text otherWritable)
            (List.append_cancel_left (List.append_cancel_left same))
          obtain rfl := Declaration.text_injective writable otherWritable
            (String.toList_inj.mp texts)
          rw [ih otherOnward]

namespace EmissionStyle

/-- A visibility stands in front of a declaration with a blank, or not at all. -/
theorem blank_mem_mark (style : EmissionStyle) : style.mark = [] ∨ ' ' ∈ style.mark := by
  unfold mark Bindings.visibilityMark
  split
  · exact Or.inl rfl
  · exact Or.inr (by simp)

/-- **A source text is read in one way,** whatever its style. -/
theorem Reads.unique {style : EmissionStyle} {text : String} {first second : List Declaration}
    (reads : style.Reads text first) (also : style.Reads text second) : first = second := by
  obtain ⟨body, split, declared⟩ := reads
  obtain ⟨other, otherSplit, otherDeclared⟩ := also
  rw [split] at otherSplit
  obtain rfl := List.append_cancel_left otherSplit
  exact declared.unique style.blank_mem_mark otherDeclared

end EmissionStyle

/-! ## The text of bindings -/

namespace Declaration

theorem text_ofEntry (entry : String × Item) :
    (ofEntry entry).text = Bindings.declaration entry.1 entry.2 := by
  obtain ⟨name, item⟩ := entry
  cases item with
  | typeAlias primitive => rfl
  | signedConstant value =>
      have typed : ": i64 = " = ": " ++ ("i64" ++ " = ") := by decide
      simp only [ofEntry, text, Bindings.declaration, typed, String.append_assoc]
  | unsignedConstant value =>
      have typed : ": u64 = " = ": " ++ ("u64" ++ " = ") := by decide
      simp only [ofEntry, text, Bindings.declaration, typed, String.append_assoc,
        Text.Decimal.ofNat_eq_ofInt]

theorem name_ofEntry (entry : String × Item) : (ofEntry entry).name = entry.1 := by
  obtain ⟨name, item⟩ := entry
  cases item <;> rfl

theorem typeName_ofEntry (entry : String × Item) :
    (ofEntry entry).typeName = entry.2.primitive.name := by
  obtain ⟨name, item⟩ := entry
  cases item <;> rfl

theorem writable_ofEntry {entry : String × Item}
    (spelled : (Identifier.rustSpelling? entry.1).isSome) : (ofEntry entry).Writable where
  spelled := by rwa [name_ofEntry]
  typeNamed := by
    rw [typeName_ofEntry]
    cases entry.2.primitive <;> decide

/-- The declaration of an entry is that of no other. -/
theorem ofEntry_injective {first second : String × Item} (same : ofEntry first = ofEntry second) :
    first = second := by
  obtain ⟨name, item⟩ := first
  obtain ⟨other, otherItem⟩ := second
  cases item <;> cases otherItem <;> simp only [ofEntry, reduceCtorEq, typeAlias.injEq,
    constant.injEq, Int64.toInt_inj, Int.natCast_inj, UInt64.toNat_inj] at same
  · obtain ⟨rfl, names⟩ := same
    rw [Primitive.name_injective names]
  · obtain ⟨rfl, -, rfl⟩ := same
    rfl
  · exact absurd same.2.1 (by decide)
  · exact absurd same.2.1 (by decide)
  · obtain ⟨rfl, -, rfl⟩ := same
    rfl

end Declaration

namespace Bindings

/-- The names of bindings that can all be spelled. -/
def Spellable (bindings : Bindings) : Prop :=
  ∀ entry ∈ bindings.entries, (Identifier.rustSpelling? entry.1).isSome

/-- The attributes that may stand above a declaration. -/
def attributes : List String := [typeLint, constantLint]

/-- The attribute of an item is one of those that may stand above a declaration. -/
theorem mem_attributes_of_lint? {name line : String} {item : Item}
    (lint : lint? name item = some line) : line ∈ attributes := by
  have known : line = typeLint ∨ line = constantLint := by
    cases item with
    | typeAlias primitive =>
        rw [lint?, Option.ite_none_left_eq_some] at lint
        exact Or.inl (Option.some.inj lint.2).symm
    | signedConstant value | unsignedConstant value =>
        rw [lint?, Option.ite_none_right_eq_some] at lint
        exact Or.inr (Option.some.inj lint.2).symm
  simpa [attributes] using known

private theorem lint?_mem {name line : String} {item : Item} (lint : lint? name item = some line) :
    (line ++ "\n").toList ∈ attributeTexts := by
  have known := mem_attributes_of_lint? lint
  rw [attributes, List.mem_pair] at known
  rcases known with rfl | rfl <;> simp [attributeTexts]

/-- The lines of an entry are its declaration behind the mark, perhaps under an attribute. -/
private theorem exists_lint (style : EmissionStyle) (entry : String × Item) :
    ∃ lint ∈ attributeTexts, ∀ rest,
      ((itemLines style entry).flatMap fun line => line.toList ++ ['\n']) ++ rest =
        lint ++ (style.mark ++ ((Declaration.ofEntry entry).text.toList ++ '\n' :: rest)) := by
  rw [Declaration.text_ofEntry]
  by_cases allowed : style.allowNamingLints = true
  · rcases lint : lint? entry.1 entry.2 with _ | line
    · refine ⟨[], by simp [attributeTexts], fun rest => ?_⟩
      simp [itemLines, allowed, lint, EmissionStyle.mark]
    · refine ⟨_, lint?_mem lint, fun rest => ?_⟩
      simp [itemLines, allowed, lint, EmissionStyle.mark]
  · refine ⟨[], by simp [attributeTexts], fun rest => ?_⟩
    simp [itemLines, allowed, EmissionStyle.mark]

private theorem readsAs_flatMap_itemLines (style : EmissionStyle)
    {entries : List (String × Item)}
    (spelled : ∀ entry ∈ entries, (Identifier.rustSpelling? entry.1).isSome) :
    ReadsAs style.mark
      ((entries.flatMap (itemLines style)).flatMap fun line => line.toList ++ ['\n'])
      (entries.map Declaration.ofEntry) := by
  induction entries with
  | nil => exact .nil
  | cons entry entries ih =>
      rw [List.forall_mem_cons] at spelled
      obtain ⟨lint, attributed, written⟩ := exists_lint style entry
      rw [List.flatMap_cons, List.flatMap_append, written, List.map_cons]
      exact .cons attributed (Declaration.writable_ofEntry spelled.1) (ih spelled.2)

theorem toList_render (bindings : Bindings) (style : EmissionStyle) :
    (bindings.render style).toList = style.header ++
      (bindings.entries.flatMap (itemLines style)).flatMap fun line => line.toList ++ ['\n'] := by
  rw [render, String.toList_join, List.flatMap_map, sourceLines, List.flatMap_append]
  simp only [String.toList_append]
  rfl

/-- The source text of bindings reads as the declarations of their entries. -/
theorem reads_render {bindings : Bindings} (spellable : bindings.Spellable)
    (style : EmissionStyle) :
    style.Reads (bindings.render style) (bindings.entries.map Declaration.ofEntry) :=
  ⟨_, toList_render bindings style, readsAs_flatMap_itemLines style spellable⟩

/-- **A source text determines its bindings.** In every style, bindings whose names have
spellings are written like no others that have: the texts tell names, order, kinds, primitives
and values apart. -/
theorem entries_eq_of_render_eq (style : EmissionStyle) (first second : Bindings)
    (firstSpellable : first.Spellable) (secondSpellable : second.Spellable)
    (same : first.render style = second.render style) : first.entries = second.entries := by
  have reads := reads_render firstSpellable style
  rw [same] at reads
  have declarations := reads.unique (reads_render secondSpellable style)
  exact List.map_injective_iff.mpr (fun _ _ => Declaration.ofEntry_injective) declarations

/-- A visibility that looks like an attribute hides no difference between bindings in which a
name was given two items and bindings in which it was given the second. -/
theorem entries_eq_of_render_eq_reinserted :
    let style : EmissionStyle := ⟨typeLint ++ "\npub", true, some "match"⟩
    let first := (empty.insert "match" (.typeAlias .i8)).insert "match" (.signedConstant (-1))
    let second := empty.insert "match" (.signedConstant (-1))
    first.Spellable ∧ second.Spellable ∧ first.render style = second.render style ∧
      first.entries = second.entries := by
  intro style first second
  have firstSpellable : first.Spellable :=
    List.forall_mem_singleton.mpr (by decide)
  have secondSpellable : second.Spellable :=
    List.forall_mem_singleton.mpr (by decide)
  have same : first.render style = second.render style := rfl
  exact ⟨firstSpellable, secondSpellable, same,
    entries_eq_of_render_eq style first second firstSpellable secondSpellable same⟩

end Bindings

end AbiProbe
