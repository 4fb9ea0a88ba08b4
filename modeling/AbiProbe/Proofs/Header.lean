import AbiProbe.Header
import AbiProbe.Proofs.FirstOccurrence
import AbiProbe.Proofs.Text.Blank
import Mathlib.Logic.Relation

/-! # Spellings of headers

An operand is its own operand (`AbiProbe.Header.operand_operand`), and two headers share theirs
only if their names are the same but for blanks around them and for double quotes that a bare name
lacks (`AbiProbe.Header.operand_canonical`). So all spellings of a header have one operand
(`AbiProbe.Header.Spells.operand_eq`). An include list therefore stays the same when headers are
spelled in another way or repeated (`AbiProbe.Header.eraseDups_of_restated`), and it does not
matter in how many steps it is put together (`AbiProbe.IncludeList.operands_append_ofHeaders`).
-/

namespace AbiProbe

namespace Header

/-! ## Operands -/

theorem operand_of_delimited {header : String}
    (delimited : isDelimited (Text.trim header.toList) = true) :
    operand header = String.ofList (Text.trim header.toList) :=
  if_pos delimited

theorem operand_of_bare {header : String}
    (bare : ¬isDelimited (Text.trim header.toList) = true) :
    operand header = String.ofList ('"' :: (Text.trim header.toList ++ ['"'])) :=
  if_neg bare

theorem isDelimited_quoted (name : List Char) : isDelimited ('"' :: (name ++ ['"'])) = true := by
  simp [isDelimited, List.getLast?_cons]

theorem isDelimited_operand (header : String) : isDelimited (operand header).toList = true := by
  by_cases delimited : isDelimited (Text.trim header.toList) = true
  · rw [operand_of_delimited delimited, String.toList_ofList]
    exact delimited
  · rw [operand_of_bare delimited, String.toList_ofList]
    exact isDelimited_quoted _

theorem trimmed_operand (header : String) : Text.Trimmed (operand header).toList := by
  by_cases delimited : isDelimited (Text.trim header.toList) = true
  · rw [operand_of_delimited delimited, String.toList_ofList]
    exact Text.trimmed_trim _
  · rw [operand_of_bare delimited, String.toList_ofList]
    constructor
    · rintro c ⟨⟩
      rfl
    · intro c ends
      rw [← List.cons_append, List.getLast?_concat] at ends
      obtain rfl := Option.some.inj ends
      rfl

/-- **An operand is its own operand.** -/
theorem operand_operand (header : String) : operand (operand header) = operand header := by
  have trimmed := (trimmed_operand header).trim_eq
  rw [operand_of_delimited, trimmed, String.ofList_toList]
  rw [trimmed]
  exact isDelimited_operand header

/-- Blanks around a header are no part of its operand. -/
theorem operand_padded {front behind : String} (blank : ∀ c ∈ front.toList, Text.isBlank c = true)
    (blankBehind : ∀ c ∈ behind.toList, Text.isBlank c = true) (header : String) :
    operand (front ++ (header ++ behind)) = operand header := by
  unfold operand
  rw [String.toList_append, String.toList_append, Text.trim_padded blank blankBehind]

/-! ## Headers with one operand -/

/-- A text between the marks of an include operand: angle brackets, or two double quotes. -/
inductive Delimited : List Char → Prop
  | angled (name : List Char) : Delimited ('<' :: (name ++ ['>']))
  | quoted (name : List Char) : Delimited ('"' :: (name ++ ['"']))

/-- A bare name and the same name between double quotes. -/
def QuotedAs (name text : List Char) : Prop :=
  ¬Delimited name ∧ text = '"' :: (name ++ ['"'])

/-- A text of two characters or more stands between its first and its last. -/
theorem exists_between {text : List Char} {opening closing : Char}
    (starts : text.head? = some opening) (ends : text.getLast? = some closing)
    (long : 2 ≤ text.length) : ∃ name, text = opening :: (name ++ [closing]) := by
  obtain ⟨rest, rfl⟩ := List.head?_eq_some_iff.mp starts
  cases rest with
  | nil => simp at long
  | cons next rest =>
      rw [List.getLast?_cons_cons] at ends
      obtain ⟨name, split⟩ := List.getLast?_eq_some_iff.mp ends
      exact ⟨name, by rw [split]⟩

theorem isDelimited_iff {text : List Char} : isDelimited text = true ↔ Delimited text := by
  constructor
  · intro marked
    simp only [isDelimited, Bool.or_eq_true, Bool.and_eq_true, decide_eq_true_eq] at marked
    rcases marked with ⟨starts, ends⟩ | ⟨⟨long, starts⟩, ends⟩
    · -- The two brackets differ, so they are two characters of the text.
      have long : 2 ≤ text.length := by
        obtain ⟨rest, rfl⟩ := List.head?_eq_some_iff.mp starts
        cases rest with
        | nil => exact absurd (Option.some.inj ends) (by decide)
        | cons next rest => simp
      obtain ⟨name, rfl⟩ := exists_between starts ends long
      exact .angled name
    · obtain ⟨name, rfl⟩ := exists_between starts ends long
      exact .quoted name
  · rintro (name | name)
    · simp [isDelimited, List.getLast?_cons]
    · exact isDelimited_quoted name

/-- A bare name is no name between double quotes. -/
theorem ne_quoted_of_bare {name : List Char} (bare : ¬isDelimited name = true)
    (other : List Char) : name ≠ '"' :: (other ++ ['"']) := by
  rintro rfl
  exact bare (isDelimited_quoted other)

/-- Two headers have one operand exactly when their trimmed names are equal, or one of these is
bare and the other is that name between double quotes. -/
theorem operand_eq_iff (first second : String) :
    operand first = operand second ↔
      Text.trim first.toList = Text.trim second.toList ∨
        QuotedAs (Text.trim first.toList) (Text.trim second.toList) ∨
        QuotedAs (Text.trim second.toList) (Text.trim first.toList) := by
  simp only [QuotedAs, ← isDelimited_iff]
  by_cases delimited : isDelimited (Text.trim first.toList) = true <;>
    by_cases also : isDelimited (Text.trim second.toList) = true
  · rw [operand_of_delimited delimited, operand_of_delimited also, String.ofList_inj]
    simp [delimited, also]
  · have differ : Text.trim first.toList ≠ Text.trim second.toList :=
      fun same => also (same ▸ delimited)
    rw [operand_of_delimited delimited, operand_of_bare also, String.ofList_inj]
    simp [delimited, also, differ]
  · have differ : Text.trim first.toList ≠ Text.trim second.toList :=
      fun same => delimited (same ▸ also)
    rw [operand_of_bare delimited, operand_of_delimited also, String.ofList_inj, eq_comm]
    simp [delimited, also, differ]
  · rw [operand_of_bare delimited, operand_of_bare also, String.ofList_inj]
    simp [ne_quoted_of_bare delimited, ne_quoted_of_bare also]

/-- **Operands are the canonical names of headers.** Every operand stands between marks without
blanks around it and is its own operand. Two headers share theirs exactly when their trimmed names
are equal, or one of these is bare and the other is that name between double quotes. -/
theorem operand_canonical :
    (∀ header, Delimited (operand header).toList ∧ Text.Trimmed (operand header).toList ∧
      operand (operand header) = operand header) ∧
    ∀ first second,
      operand first = operand second ↔
        Text.trim first.toList = Text.trim second.toList ∨
          QuotedAs (Text.trim first.toList) (Text.trim second.toList) ∨
          QuotedAs (Text.trim second.toList) (Text.trim first.toList) :=
  ⟨fun header => ⟨isDelimited_iff.mp (isDelimited_operand header), trimmed_operand header,
    operand_operand header⟩, operand_eq_iff⟩

/-! ## Spellings -/

/-- Another way to write a header: with blanks around it, or as its operand. -/
inductive Respelled (header : String) : String → Prop
  | padded {front behind : String} (blank : ∀ c ∈ front.toList, Text.isBlank c = true)
      (blankBehind : ∀ c ∈ behind.toList, Text.isBlank c = true) :
      Respelled header (front ++ (header ++ behind))
  | operand : Respelled header (operand header)

/-- The spellings of a header, made by any number of changes and undone ones. -/
abbrev Spells : String → String → Prop :=
  Relation.EqvGen Respelled

/-- All spellings of a header have its operand. -/
theorem Spells.operand_eq {header other : String} (spelled : Spells header other) :
    Header.operand header = Header.operand other := by
  induction spelled with
  | rel header other respelled =>
      cases respelled with
      | padded blank blankBehind => exact (operand_padded blank blankBehind header).symm
      | operand => exact (operand_operand header).symm
  | refl header => rfl
  | symm header other _ ih => exact ih.symm
  | trans header middle other _ _ first second => exact first.trans second

/-- A list of headers with one of them spelled in another way, or repeated further behind. -/
inductive Restated : List String → List String → Prop
  | respelled (before after : List String) {header other : String}
      (spelled : Spells header other) :
      Restated (before ++ header :: after) (before ++ other :: after)
  | repeated (before after : List String) {header again : String}
      (earlier : header ∈ before) (spelled : Spells header again) :
      Restated (before ++ after) (before ++ again :: after)

/-- Restating headers leaves the first occurrences of their operands as they are. -/
theorem eraseDups_of_restated {headers others : List String} (restated : Restated headers others) :
    (others.map operand).eraseDups = (headers.map operand).eraseDups := by
  cases restated with
  | respelled before after spelled => simp only [List.map_append, List.map_cons, spelled.operand_eq]
  | repeated before after earlier spelled =>
      rw [List.map_append, List.map_append, List.map_cons, ← spelled.operand_eq]
      exact eraseDups_append_cons_of_mem (List.mem_map_of_mem earlier) _

theorem eraseDups_of_restatements {headers others : List String}
    (restated : Relation.ReflTransGen Restated headers others) :
    (others.map operand).eraseDups = (headers.map operand).eraseDups := by
  induction restated with
  | refl => rfl
  | tail _ last ih => rw [eraseDups_of_restated last, ih]

end Header

namespace IncludeList

/-- Include lists with the same operands are the same. -/
theorem ext {first second : IncludeList} (operands : first.operands = second.operands) :
    first = second := by
  cases first
  cases second
  cases operands
  rfl

theorem operands_ofHeaders (headers : List String) :
    (ofHeaders headers).operands = (headers.map Header.operand).eraseDups := rfl

theorem operands_append (includes : IncludeList) (headers : List String) :
    (includes.append headers).operands =
      (includes.operands ++ headers.map Header.operand).eraseDups := rfl

/-- Headers may be added one list after the other. -/
theorem append_append (includes : IncludeList) (headers more : List String) :
    (includes.append headers).append more = includes.append (headers ++ more) := by
  apply ext
  rw [operands_append, operands_append, operands_append, eraseDups_eraseDups_append,
    List.map_append, List.append_assoc]

/-- Headers added to an include list are included like headers asked for together. -/
theorem operands_append_ofHeaders (headers extra : List String) :
    ((ofHeaders headers).append extra).operands =
      ((headers ++ extra).map Header.operand).eraseDups := by
  rw [operands_append, operands_ofHeaders, eraseDups_eraseDups_append, List.map_append]

/-- The operands of an include list have that include list. -/
theorem ofHeaders_operands (headers : List String) :
    ofHeaders (ofHeaders headers).operands = ofHeaders headers := by
  have unchanged : (ofHeaders headers).operands.map Header.operand =
      (ofHeaders headers).operands := by
    refine (List.map_congr_left fun element member => ?_).trans (List.map_id _)
    obtain ⟨header, -, rfl⟩ := List.mem_map.mp (List.mem_eraseDups.mp member)
    exact Header.operand_operand header
  apply ext
  rw [operands_ofHeaders (ofHeaders headers).operands, unchanged]
  exact eraseDups_of_nodup (ofHeaders headers).nodup

end IncludeList

end AbiProbe
