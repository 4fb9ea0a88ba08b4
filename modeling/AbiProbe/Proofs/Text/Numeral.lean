import AbiProbe.Proofs.Text.Decimal
import Mathlib.Tactic.Ring

/-! # Texts of integers

An integer is written by ASCII digits that count by their places
(`AbiProbe.Text.Decimal.placeValue`), behind an optional sign
(`AbiProbe.Text.Decimal.WritesInteger`). A 64-bit integer is read exactly from the texts that
write it, so a text of any other number is refused and never wrapped
(`AbiProbe.Text.Decimal.unsigned?_eq_some_iff`, `AbiProbe.Text.Decimal.signed?_eq_some_iff`).
-/

namespace AbiProbe.Text.Decimal

/-- The number a row of digits writes, where each digit counts by its place. -/
def placeValue : List Char → Nat
  | [] => 0
  | c :: rest => (c.toNat - '0'.toNat) * 10 ^ rest.length + placeValue rest

theorem ofDigitChars_eq_placeValue (text : List Char) :
    Nat.ofDigitChars 10 text 0 = placeValue text := by
  induction text with
  | nil => rfl
  | cons c text ih =>
      rw [Nat.ofDigitChars_cons, Nat.ofDigitChars_eq_ofDigitChars_zero, ih, placeValue]
      ring

/-- One or more ASCII digits with the number they write. -/
structure IsNumeral (text : List Char) (number : Nat) : Prop where
  nonempty : text ≠ []
  digits : ∀ c ∈ text, c.isDigit = true
  value : placeValue text = number

theorem natural?_eq_some_iff {text : List Char} {number : Nat} :
    natural? text = some number ↔ IsNumeral text number := by
  unfold natural?
  rw [ofDigitChars_eq_placeValue]
  constructor
  · intro read
    split at read
    · rename_i shaped
      simp only [Bool.and_eq_true, Bool.not_eq_true', List.isEmpty_eq_false_iff,
        List.all_eq_true] at shaped
      exact ⟨shaped.1, shaped.2, Option.some.inj read⟩
    · cases read
  · rintro ⟨nonempty, digits, rfl⟩
    rw [if_pos]
    simp only [Bool.and_eq_true, Bool.not_eq_true', List.isEmpty_eq_false_iff, List.all_eq_true]
    exact ⟨nonempty, digits⟩

theorem isNumeral_digits (number : Nat) : IsNumeral (Decimal.digits number) number where
  nonempty := digits_ne_nil number
  digits _ := isDigit_of_mem_digits
  value := by
    rw [← ofDigitChars_eq_placeValue]
    exact Nat.ofDigitChars_ten_toDigits

theorem IsNumeral.head_ne {c : Char} {rest : List Char} {number : Nat}
    (numeral : IsNumeral (c :: rest) number) : c ≠ '+' ∧ c ≠ '-' := by
  have digit := numeral.digits c List.mem_cons_self
  constructor
  · rintro rfl
    cases digit
  · rintro rfl
    cases digit

/-- A text of an integer: a numeral behind an optional sign. A minus needs leave. -/
inductive WritesInteger (signed : Bool) : List Char → Int → Prop
  | bare {digits : List Char} {number : Nat} (numeral : IsNumeral digits number) :
      WritesInteger signed digits number
  | plus {digits : List Char} {number : Nat} (numeral : IsNumeral digits number) :
      WritesInteger signed ('+' :: digits) number
  | minus {digits : List Char} {number : Nat} (allowed : signed = true)
      (numeral : IsNumeral digits number) : WritesInteger signed ('-' :: digits) (-number)

theorem integer?_eq_some_iff {text : List Char} {number : Int} :
    integer? text = some number ↔ WritesInteger true text number := by
  constructor
  · intro read
    unfold integer? at read
    split at read
    · obtain ⟨value, digits, rfl⟩ := Option.map_eq_some_iff.mp read
      exact .plus (natural?_eq_some_iff.mp digits)
    · obtain ⟨value, digits, rfl⟩ := Option.map_eq_some_iff.mp read
      exact .minus rfl (natural?_eq_some_iff.mp digits)
    · obtain ⟨value, digits, rfl⟩ := Option.map_eq_some_iff.mp read
      exact .bare (natural?_eq_some_iff.mp digits)
  · intro written
    cases written with
    | plus numeral => rw [integer?, natural?_eq_some_iff.mpr numeral]; rfl
    | minus _ numeral => rw [integer?, natural?_eq_some_iff.mpr numeral]; rfl
    | bare numeral =>
        -- A numeral begins with a digit, so no sign is taken off it.
        unfold integer?
        split
        · exact absurd rfl numeral.head_ne.1
        · exact absurd rfl numeral.head_ne.2
        · rw [natural?_eq_some_iff.mpr numeral]
          rfl

namespace WritesInteger

variable {signed : Bool} {text : List Char} {number : Int}

theorem of_unsigned (written : WritesInteger false text number) :
    WritesInteger signed text number := by
  cases written with
  | bare numeral => exact .bare numeral
  | plus numeral => exact .plus numeral
  | minus allowed => cases allowed

theorem unique {other : Int} (written : WritesInteger signed text number)
    (also : WritesInteger signed text other) : number = other := by
  have signedAll {value : Int} (given : WritesInteger signed text value) :
      WritesInteger true text value := by
    cases signed with
    | true => exact given
    | false => exact given.of_unsigned
  have first := integer?_eq_some_iff.mpr (signedAll written)
  have second := integer?_eq_some_iff.mpr (signedAll also)
  exact Option.some.inj (first.symm.trans second)

theorem isDigit_or_sign (written : WritesInteger signed text number) {c : Char}
    (member : c ∈ text) : c.isDigit = true ∨ c = '+' ∨ c = '-' := by
  cases written with
  | bare numeral => exact Or.inl (numeral.digits c member)
  | plus numeral =>
      rcases List.mem_cons.mp member with rfl | behind
      · exact Or.inr (Or.inl rfl)
      · exact Or.inl (numeral.digits c behind)
  | minus _ numeral =>
      rcases List.mem_cons.mp member with rfl | behind
      · exact Or.inr (Or.inr rfl)
      · exact Or.inl (numeral.digits c behind)

/-- The decimal text of an integer writes it. -/
theorem ofInt (allowed : signed = true ∨ 0 ≤ number) :
    WritesInteger signed (Decimal.ofInt number).toList number := by
  unfold Decimal.ofInt
  by_cases negative : number < 0
  · have value : -(number.natAbs : Int) = number := by omega
    have minus := minus (allowed.resolve_right (by omega)) (isNumeral_digits number.natAbs)
    rw [if_pos negative, String.toList_ofList]
    rwa [value] at minus
  · have value : (number.natAbs : Int) = number := by omega
    have bare : WritesInteger signed _ _ := bare (isNumeral_digits number.natAbs)
    rw [if_neg negative, String.toList_ofList]
    rwa [value] at bare

end WritesInteger

/-! ## Integers of 64 bits -/

theorem exists_toNat_iff {number : Int} :
    (∃ value : UInt64, (value.toNat : Int) = number) ↔ 0 ≤ number ∧ number < 2 ^ 64 := by
  constructor
  · rintro ⟨value, rfl⟩
    have small := value.toNat_lt
    omega
  · rintro ⟨nonnegative, small⟩
    refine ⟨UInt64.ofNat number.toNat, ?_⟩
    rw [UInt64.toNat_ofNat_of_lt' (by change number.toNat < 2 ^ 64; omega)]
    omega

theorem exists_toInt_iff {number : Int} :
    (∃ value : Int64, value.toInt = number) ↔ -2 ^ 63 ≤ number ∧ number < 2 ^ 63 := by
  constructor
  · rintro ⟨value, rfl⟩
    exact ⟨value.le_toInt, value.toInt_lt⟩
  · rintro ⟨least, small⟩
    exact ⟨Int64.ofInt number, Int64.toInt_ofInt_of_le least small⟩

theorem natural?_eq_some_toNat_iff {digits : List Char} {value : UInt64} :
    ((natural? digits).bind fun number =>
      if number < UInt64.size then some (UInt64.ofNat number) else none) = some value ↔
      IsNumeral digits value.toNat := by
  rw [← natural?_eq_some_iff]
  cases natural? digits with
  | none => simp
  | some number =>
      by_cases small : number < UInt64.size
      · simp only [Option.bind_some, small, ↓reduceIte, Option.some.injEq]
        constructor
        · rintro rfl
          exact (UInt64.toNat_ofNat_of_lt' small).symm
        · rintro rfl
          exact UInt64.ofNat_toNat
      · simp only [Option.bind_some, small, ↓reduceIte, reduceCtorEq, false_iff,
          Option.some.injEq]
        rintro rfl
        exact small value.toNat_lt

theorem unsigned?_plus (digits : List Char) :
    unsigned? ('+' :: digits) = (natural? digits).bind fun number =>
      if number < UInt64.size then some (UInt64.ofNat number) else none := by
  rw [unsigned?]
  cases natural? digits <;> rfl

theorem unsigned?_bare {digits : List Char} (unmarked : ∀ rest, digits ≠ '+' :: rest) :
    unsigned? digits = (natural? digits).bind fun number =>
      if number < UInt64.size then some (UInt64.ofNat number) else none := by
  rw [unsigned?]
  · cases natural? digits <;> rfl
  · exact unmarked

/-- An unsigned integer is read from the texts that write it. -/
theorem unsigned?_eq_some_iff {text : List Char} {value : UInt64} :
    unsigned? text = some value ↔ WritesInteger false text value.toNat := by
  by_cases marked : ∃ digits, text = '+' :: digits
  · obtain ⟨digits, rfl⟩ := marked
    rw [unsigned?_plus, natural?_eq_some_toNat_iff]
    constructor
    · exact .plus
    · intro written
      generalize same : (value.toNat : Int) = number at written
      cases written with
      | plus numeral => exact Int.natCast_inj.mp same ▸ numeral
      | bare numeral => exact absurd rfl numeral.head_ne.1
  · rw [not_exists] at marked
    rw [unsigned?_bare marked, natural?_eq_some_toNat_iff]
    constructor
    · exact .bare
    · intro written
      generalize same : (value.toNat : Int) = number at written
      cases written with
      | plus numeral => exact absurd rfl (marked _)
      | bare numeral => exact Int.natCast_inj.mp same ▸ numeral
      | minus allowed => cases allowed

/-- A signed integer is read from the texts that write it. -/
theorem signed?_eq_some_iff {text : List Char} {value : Int64} :
    signed? text = some value ↔ WritesInteger true text value.toInt := by
  unfold signed?
  rw [← integer?_eq_some_iff]
  cases integer? text with
  | none => simp
  | some number =>
      by_cases small : Int64.minValue.toInt ≤ number ∧ number ≤ Int64.maxValue.toInt
      · simp only [small, and_self, ↓reduceIte, Option.some.injEq]
        have bounds : -2 ^ 63 ≤ number ∧ number < 2 ^ 63 := by
          rw [Int64.toInt_minValue, Int64.toInt_maxValue] at small
          omega
        constructor
        · rintro rfl
          exact (Int64.toInt_ofInt_of_le bounds.1 bounds.2).symm
        · rintro rfl
          exact Int64.ofInt_toInt value
      · simp only [small, ↓reduceIte, reduceCtorEq, false_iff, Option.some.injEq]
        rintro rfl
        rw [Int64.toInt_minValue, Int64.toInt_maxValue] at small
        have least := value.le_toInt
        have greatest := value.toInt_lt
        omega

end AbiProbe.Text.Decimal
