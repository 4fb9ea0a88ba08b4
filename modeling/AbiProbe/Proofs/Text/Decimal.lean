import AbiProbe.Text.Decimal

/-! # Decimal texts determine their numbers -/

namespace AbiProbe.Text.Decimal

theorem isDigit_of_mem_digits {value : Nat} {c : Char} (member : c ∈ digits value) :
    c.isDigit = true :=
  Nat.isDigit_of_mem_toDigits (by decide) (by decide) member

theorem digits_ne_nil (value : Nat) : digits value ≠ [] :=
  Nat.toDigits_ne_nil

/-- Only the digits of zero begin with a zero. -/
theorem head_digits_ne_zero {value : Nat} (positive : 0 < value) :
    (digits value).head? ≠ some '0' := by
  induction value using Nat.strongRecOn with
  | ind value ih =>
      by_cases small : value < 10
      · have single : ∀ digit < 10, 0 < digit → Nat.digitChar digit ≠ '0' := by decide
        rw [digits, Nat.toDigits_of_lt_base small, List.head?_cons, Ne, Option.some.injEq]
        exact single value small positive
      · have leading := ih (value / 10) (by omega) (by omega)
        rw [digits, Nat.toDigits_of_base_le (by decide) (by omega), List.head?_append]
        obtain ⟨c, more, split⟩ := List.exists_cons_of_ne_nil (digits_ne_nil (value / 10))
        rw [digits] at split leading
        rw [split] at leading ⊢
        exact leading

/-- The digits of a number are those of no other. -/
theorem digits_injective {first second : Nat} (same : digits first = digits second) :
    first = second := by
  have values := congrArg (fun text => Nat.ofDigitChars 10 text 0) same
  simpa only [digits, Nat.ofDigitChars_ten_toDigits] using values

/-- The decimal text of an integer consists of digits and a minus sign. -/
theorem isDigit_or_minus_of_mem_ofInt {value : Int} {c : Char}
    (member : c ∈ (ofInt value).toList) : c.isDigit = true ∨ c = '-' := by
  unfold ofInt at member
  split at member
  · rw [String.toList_ofList, List.mem_cons] at member
    exact member.symm.imp isDigit_of_mem_digits id
  · rw [String.toList_ofList] at member
    exact Or.inl (isDigit_of_mem_digits member)

theorem toList_ofInt_ne_nil (value : Int) : (ofInt value).toList ≠ [] := by
  unfold ofInt
  split
  · rw [String.toList_ofList]
    exact List.cons_ne_nil _ _
  · rw [String.toList_ofList]
    exact digits_ne_nil _

/-- The decimal text of a natural number is that of the same integer. -/
theorem ofNat_eq_ofInt (value : Nat) : ofNat value = ofInt value := by
  have nonnegative : ¬(value : Int) < 0 := by omega
  rw [ofInt, if_neg nonnegative, Int.natAbs_natCast, ofNat]

/-- The decimal text of an integer is that of no other. -/
theorem ofInt_injective {first second : Int} (same : ofInt first = ofInt second) :
    first = second := by
  have signed : ∀ {magnitude other : Nat}, '-' :: digits magnitude ≠ digits other := by
    intro magnitude other equal
    have digit : '-' ∈ digits other := equal ▸ List.mem_cons_self
    exact absurd (isDigit_of_mem_digits digit) (by decide)
  unfold ofInt at same
  split at same <;> split at same <;> rw [String.ofList_inj] at same
  · have magnitudes := digits_injective (List.cons.inj same).2
    omega
  · exact (signed same).elim
  · exact (signed same.symm).elim
  · have magnitudes := digits_injective same
    omega

end AbiProbe.Text.Decimal
