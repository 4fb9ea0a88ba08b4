import AbiProbe.Text.Blank
import Mathlib.Data.List.DropRight
import Mathlib.Data.List.TakeWhile

/-! # Trimming

Trimming takes blanks off both ends of a text and nothing else
(`AbiProbe.Text.mem_trim`, `AbiProbe.Text.trim_append`). What is left is trimmed
(`AbiProbe.Text.trimmed_trim`), and blanks put around a text before play no part in it
(`AbiProbe.Text.trim_padded`).
-/

namespace AbiProbe.Text

theorem isBlank_eq_false_of_isDigit {c : Char} (digit : c.isDigit = true) :
    isBlank c = false := by
  have bounds := Char.isDigit_iff_toNat.mp digit
  have low : '0'.toNat = 48 := rfl
  have high : '9'.toNat = 57 := rfl
  simp only [isBlank, blankRanges, List.any_cons, List.any_nil, Bool.or_eq_false_iff,
    Bool.and_eq_false_iff, decide_eq_false_iff_not, Nat.not_le, and_true]
  omega

theorem trimStart_append {front : List Char} (blank : ∀ c ∈ front, isBlank c = true)
    (text : List Char) : trimStart (front ++ text) = trimStart text :=
  List.dropWhile_append_of_pos blank

theorem trimEnd_append {behind : List Char} (blank : ∀ c ∈ behind, isBlank c = true)
    (text : List Char) : trimEnd (text ++ behind) = trimEnd text := by
  unfold trimEnd
  rw [List.reverse_append, List.dropWhile_append_of_pos]
  intro c member
  exact blank c (List.mem_reverse.mp member)

theorem trimStart_eq_self {text : List Char}
    (solid : ∀ c, text.head? = some c → isBlank c = false) : trimStart text = text := by
  cases text with
  | nil => rfl
  | cons c text =>
      apply List.dropWhile_cons_of_neg
      rw [solid c rfl]
      exact Bool.false_ne_true

theorem trimEnd_eq_self {text : List Char}
    (solid : ∀ c, text.getLast? = some c → isBlank c = false) : trimEnd text = text := by
  have reversed : trimStart text.reverse = text.reverse :=
    trimStart_eq_self fun c first => solid c (by rwa [List.head?_reverse] at first)
  rw [trimStart] at reversed
  rw [trimEnd, reversed, List.reverse_reverse]

/-- Blanks around a text are trimmed off with its own. -/
theorem trim_padded {front behind : List Char} (blank : ∀ c ∈ front, isBlank c = true)
    (blankBehind : ∀ c ∈ behind, isBlank c = true) (text : List Char) :
    trim (front ++ (text ++ behind)) = trim text := by
  rw [trim, trimStart_append blank, trimStart, List.dropWhile_append]
  split
  · rename_i empty
    have nothing : trimStart text = [] := List.isEmpty_iff.mp empty
    have gone : behind.dropWhile isBlank = [] := List.dropWhile_eq_nil_iff.mpr blankBehind
    rw [trim, nothing, gone]
  · exact trimEnd_append blankBehind _

/-- A text with no blank at either end. -/
structure Trimmed (text : List Char) : Prop where
  head : ∀ c, text.head? = some c → isBlank c = false
  last : ∀ c, text.getLast? = some c → isBlank c = false

/-- A text without blanks at its ends is left as it is. -/
theorem Trimmed.trim_eq {text : List Char} (trimmed : Trimmed text) : trim text = text := by
  rw [trim, trimStart_eq_self trimmed.head, trimEnd_eq_self trimmed.last]

theorem head_trimStart_solid {text : List Char} {c : Char}
    (first : (trimStart text).head? = some c) : isBlank c = false := by
  have solid := List.head?_dropWhile_not isBlank text
  rw [trimStart] at first
  rw [first] at solid
  simpa using solid

theorem trimmed_trim (text : List Char) : Trimmed (trim text) where
  head c first := by
    -- What is trimmed off the end leaves the first character in place.
    obtain ⟨behind, split⟩ : trim text <+: trimStart text := List.rdropWhile_prefix _ _
    have starts : (trimStart text).head? = some c := by
      rw [← split, List.head?_append, first, Option.some_or]
    exact head_trimStart_solid starts
  last c ends := by
    unfold trim trimEnd at ends
    rw [List.getLast?_reverse] at ends
    exact head_trimStart_solid ends

/-- Blanks around a text without blanks are trimmed off. -/
theorem trim_append {front text behind : List Char} (blank : ∀ c ∈ front, isBlank c = true)
    (blankBehind : ∀ c ∈ behind, isBlank c = true) (solid : ∀ c ∈ text, isBlank c = false) :
    trim (front ++ (text ++ behind)) = text := by
  have trimmed : Trimmed text :=
    ⟨fun c first => solid c (List.mem_of_head? first),
      fun c ends => solid c (List.mem_of_getLast? ends)⟩
  rw [trim_padded blank blankBehind, trimmed.trim_eq]

theorem mem_dropWhile_of_not {c : Char} {text : List Char} (solid : isBlank c = false)
    (member : c ∈ text) : c ∈ text.dropWhile isBlank := by
  rw [← List.takeWhile_append_dropWhile (p := isBlank) (l := text), List.mem_append] at member
  rcases member with taken | left
  · rw [List.mem_takeWhile_imp taken] at solid
    cases solid
  · exact left

/-- A character that is no blank stays in a text that is trimmed. -/
theorem mem_trim {c : Char} {text : List Char} (solid : isBlank c = false) (member : c ∈ text) :
    c ∈ trim text := by
  unfold trim trimEnd trimStart
  rw [List.mem_reverse]
  apply mem_dropWhile_of_not solid
  rw [List.mem_reverse]
  exact mem_dropWhile_of_not solid member

end AbiProbe.Text
