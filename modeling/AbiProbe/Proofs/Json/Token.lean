import AbiProbe.Json.Token
import AbiProbe.Json.Value
import AbiProbe.Proofs.Text.Decimal
import Mathlib.Tactic.SplitIfs

/-! # Reading the tokens of a text

A character of a string may be spelled in several ways (`AbiProbe.Json.SpelledChar`). A string is
read from any spelling of it, up to its closing quote (`AbiProbe.Json.stringRest_spelled`), and a
number up to what may follow a value (`AbiProbe.Json.read_digits`).
-/

namespace AbiProbe.Json

/-! ## Strings -/

/-- A form of a character inside a string: as itself, as a letter behind a backslash, as a code
unit, or as a pair of surrogates. -/
inductive SpelledChar : Char → List Char → Prop
  | plain {c : Char} (quote : c ≠ '"') (backslash : c ≠ '\\') (printable : ¬c.toNat < 0x20) :
      SpelledChar c [c]
  | letter {c letter : Char} (meaning : letterEscape? letter = some c) :
      SpelledChar c ['\\', letter]
  | unit {a b c d : Char} {unit : Nat} (value : hexUnit? a b c d = some unit)
      (leading : isLeadingSurrogate unit = false) (trailing : isTrailingSurrogate unit = false) :
      SpelledChar (Char.ofNat unit) ['\\', 'u', a, b, c, d]
  | pair {a b c d e f g h : Char} {first second : Nat} (value : hexUnit? a b c d = some first)
      (secondValue : hexUnit? e f g h = some second)
      (leading : isLeadingSurrogate first = true) (trailing : isTrailingSurrogate second = true) :
      SpelledChar (ofSurrogates first second) ['\\', 'u', a, b, c, d, '\\', 'u', e, f, g, h]

/-- A form of the characters of a string, one after the other. -/
inductive SpelledChars : List Char → List Char → Prop
  | nil : SpelledChars [] []
  | cons {c : Char} {text form more : List Char} (head : SpelledChar c form)
      (tail : SpelledChars text more) : SpelledChars (c :: text) (form ++ more)

theorem hexUnit?_control :
    ∀ unit < 0x20, hexUnit? '0' '0' (Nat.digitChar (unit / 16)) (Nat.digitChar (unit % 16)) =
      some unit := by
  decide

theorem not_surrogate_of_lt {unit : Nat} (small : unit < 0xD800) :
    isLeadingSurrogate unit = false ∧ isTrailingSurrogate unit = false := by
  simp only [isLeadingSurrogate, isTrailingSurrogate, Bool.and_eq_false_iff,
    decide_eq_false_iff_not]
  omega

theorem not_trailing_of_leading {unit : Nat} (leading : isLeadingSurrogate unit = true) :
    isTrailingSurrogate unit = false := by
  simp only [isLeadingSurrogate, isTrailingSurrogate, Bool.and_eq_true, Bool.and_eq_false_iff,
    decide_eq_true_eq, decide_eq_false_iff_not] at *
  omega

theorem spelledChar_escapedForm (c : Char) : SpelledChar c (escapedForm c) := by
  unfold escapedForm
  split_ifs with quote backslash _ _ _ _ _ control
  case pos | pos | pos | pos | pos | pos | pos =>
    subst c
    exact .letter rfl
  · have small : c.toNat < 0xD800 := by omega
    obtain ⟨leading, trailing⟩ := not_surrogate_of_lt small
    have spelled := SpelledChar.unit (hexUnit?_control _ control) leading trailing
    rwa [Char.ofNat_toNat] at spelled
  · exact .plain quote backslash control

/-- The characters of a string as they are written. -/
theorem spelledChars_escaped (text : List Char) : SpelledChars text (text.flatMap escapedForm) := by
  induction text with
  | nil => exact .nil
  | cons c text ih => exact .cons (spelledChar_escapedForm c) ih

theorem stringRest_spelledChar {c : Char} {form : List Char} (spelled : SpelledChar c form)
    (rest : List Char) : stringRest (form ++ rest) = prepend c (stringRest rest) := by
  cases spelled with
  | plain quote backslash printable =>
      rw [List.singleton_append, stringRest, if_neg printable]
      all_goals intros; contradiction
  | @letter _ letter meaning =>
      have notUnit : letter ≠ 'u' := by
        rintro rfl
        cases meaning
      rw [List.cons_append, List.singleton_append, stringRest, meaning]
      all_goals intros; contradiction
  | unit value leading trailing =>
      simp only [List.cons_append, List.nil_append, stringRest, value, trailing, leading,
        Bool.false_eq_true, ↓reduceIte]
  | pair value secondValue leading trailing =>
      simp only [List.cons_append, List.nil_append, stringRest, value, secondValue, trailing,
        leading, not_trailing_of_leading leading, Bool.false_eq_true, ↓reduceIte]

/-- A string is read from any spelling of its characters, up to its closing quote. -/
theorem stringRest_spelled {text form : List Char} (spelled : SpelledChars text form)
    (rest : List Char) : stringRest (form ++ '"' :: rest) = .ok (text, rest) := by
  induction spelled with
  | nil => rw [List.nil_append, stringRest]
  | cons head _ ih =>
      rw [List.append_assoc, stringRest_spelledChar head, ih]
      rfl

/-! ## Numbers -/

/-- What may stand behind a value: a blank, a comma or the end of an array or an object. -/
def Follows (rest : List Char) : Prop :=
  ∀ c ∈ rest.head?, isBlank c = true ∨ c = ',' ∨ c = ']' ∨ c = '}'

namespace Follows

theorem nil : Follows [] := nofun

theorem cons {c : Char} (stops : isBlank c = true ∨ c = ',' ∨ c = ']' ∨ c = '}')
    (rest : List Char) : Follows (c :: rest) := by
  rintro _ ⟨⟩
  exact stops

/-- Nothing that follows a value makes a number longer. -/
theorem ends_number {rest : List Char} (follows : Follows rest) :
    ∀ c ∈ rest.head?, c.isDigit = false ∧ c ≠ '.' ∧ c ≠ 'e' ∧ c ≠ 'E' := by
  intro c member
  rcases follows c member with blank | rfl | rfl | rfl
  · simp only [isBlank, Bool.or_eq_true, decide_eq_true_eq] at blank
    rcases blank with ((rfl | rfl) | rfl) | rfl <;> decide
  all_goals decide

end Follows

theorem digitValue?_of_isDigit {c : Char} (digit : c.isDigit = true) :
    digitValue? c = some (c.toNat - '0'.toNat) :=
  if_pos digit

theorem le_ofDigitChars (digits : List Char) (value : Nat) :
    value ≤ Nat.ofDigitChars 10 digits value := by
  induction digits generalizing value with
  | nil => exact Nat.le_refl value
  | cons c digits ih =>
      rw [Nat.ofDigitChars_cons]
      have next := ih (10 * value + (c.toNat - '0'.toNat))
      omega

/-- Digits whose number stays within the limit are taken up to the first character that is none. -/
theorem takeDigits_append {limit : Nat} {digits rest : List Char}
    (onlyDigits : ∀ c ∈ digits, c.isDigit = true)
    (ended : rest.head?.any Char.isDigit = false) (value taken : Nat)
    (within : Nat.ofDigitChars 10 digits value ≤ limit) :
    takeDigits limit value taken (digits ++ rest) =
      (Nat.ofDigitChars 10 digits value, taken + digits.length, rest) := by
  induction digits generalizing value taken with
  | nil =>
      cases rest with
      | nil => rfl
      | cons c rest =>
          have other : c.isDigit = false := ended
          rw [List.nil_append, takeDigits, digitValue?, if_neg (by simp [other])]
          rfl
  | cons c digits ih =>
      rw [List.forall_mem_cons] at onlyDigits
      rw [Nat.ofDigitChars_cons, Nat.mul_comm 10 value] at within ⊢
      have next := le_ofDigitChars digits (value * 10 + (c.toNat - '0'.toNat))
      rw [List.cons_append, takeDigits, digitValue?_of_isDigit onlyDigits.1]
      simp only
      rw [if_pos (by omega), ih onlyDigits.2 _ _ within, List.length_cons]
      simp only [Nat.add_assoc, Nat.add_comm 1]

section Numbers

open Text.Decimal

variable {value : Nat} {rest : List Char}

/-- A number that begins with a zero has no other digit. -/
theorem not_leading_zero {first : Char} {more : List Char}
    (split : digits value = first :: more) (ended : rest.head?.any Char.isDigit = false) :
    ¬(first = '0' ∧ (more ++ rest).head?.any Char.isDigit = true) := by
  rintro ⟨rfl, longer⟩
  rcases Nat.eq_zero_or_pos value with rfl | positive
  · obtain ⟨-, rfl⟩ := List.cons.inj split
    rw [List.nil_append, ended] at longer
    cases longer
  · apply head_digits_ne_zero positive
    rw [split, List.head?_cons]

theorem takeDigits_digits (small : value < UInt64.size)
    (ended : rest.head?.any Char.isDigit = false) :
    takeDigits greatestSignificand 0 0 (digits value ++ rest) =
      (value, (digits value).length, rest) := by
  have same : Nat.ofDigitChars 10 (digits value) 0 = value := Nat.ofDigitChars_ten_toDigits
  have within : Nat.ofDigitChars 10 (digits value) 0 ≤ greatestSignificand := by
    rw [same, greatestSignificand]
    omega
  rw [takeDigits_append (fun c => isDigit_of_mem_digits) ended 0 0 within, same, Nat.zero_add]

theorem countDigits_of_ended (ended : rest.head?.any Char.isDigit = false) :
    countDigits rest = (0, rest) := by
  cases rest with
  | nil => rfl
  | cons c rest =>
      have other : ¬c.isDigit = true := Bool.eq_false_iff.mp ended
      rw [countDigits, List.takeWhile_cons_of_neg other, List.dropWhile_cons_of_neg other]
      rfl

/-- An integer of 64 bits is read from its digits behind its sign. -/
theorem read_digits (negative : Bool) (small : value < UInt64.size) (follows : Follows rest) :
    Number.read negative (digits value ++ rest) = .ok (integerNumber negative value, rest) := by
  have ended : rest.head?.any Char.isDigit = false := by
    cases rest with
    | nil => rfl
    | cons c rest => exact (follows.ends_number c rfl).1
  obtain ⟨first, more, split⟩ := List.exists_cons_of_ne_nil (digits_ne_nil value)
  have digit : first.isDigit = true := isDigit_of_mem_digits (split ▸ List.mem_cons_self)
  have leading := not_leading_zero split ended
  have taken := takeDigits_digits small ended
  rw [split, List.cons_append] at taken ⊢
  rw [Number.read]
  simp only [digit, leading, taken, countDigits_of_ended ended, Bool.not_true, Bool.false_eq_true,
    ↓reduceIte]
  cases rest with
  | nil => rfl
  | cons c rest =>
      obtain ⟨-, point, exponent, capital⟩ := follows.ends_number c rfl
      split
      · exact absurd (List.cons.inj ‹_›).1 point
      · simp [exponent, capital]

end Numbers

end AbiProbe.Json
