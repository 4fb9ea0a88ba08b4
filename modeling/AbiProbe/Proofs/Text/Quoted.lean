import AbiProbe.Proofs.Text.Delimiter
import AbiProbe.Text.Quoted

/-! # Quoted texts end where they end

A text in quotes is told from any other and from what stands behind it
(`AbiProbe.Text.quote_append_inj`): no written form of a character begins another or looks like
the closing quote. It holds no control character (`AbiProbe.Text.isControl_of_mem_quote`).
-/

namespace AbiProbe.Text

/-! ## Hexadecimal digits -/

theorem exists_digitChar_of_mem {value : Nat} {c : Char} (member : c ∈ Nat.toDigits 16 value) :
    ∃ digit < 16, c = Nat.digitChar digit := by
  induction value using Nat.strongRecOn with
  | ind value ih =>
      by_cases small : value < 16
      · rw [Nat.toDigits_of_lt_base small, List.mem_singleton] at member
        exact ⟨value, small, member⟩
      · rw [Nat.toDigits_of_base_le (by decide) (by omega), List.mem_append,
          List.mem_singleton] at member
        rcases member with leading | last
        · exact ih (value / 16) (by omega) leading
        · exact ⟨value % 16, Nat.mod_lt _ (by decide), last⟩

theorem digitChar_injective : ∀ digit < 16, ∀ other < 16,
    Nat.digitChar digit = Nat.digitChar other → digit = other := by
  decide

/-- Hexadecimal digits determine their number. -/
theorem toDigits_injective {first second : Nat}
    (same : Nat.toDigits 16 first = Nat.toDigits 16 second) : first = second := by
  have split {value : Nat} (large : ¬value < 16) :
      Nat.toDigits 16 value = Nat.toDigits 16 (value / 16) ++ [Nat.digitChar (value % 16)] :=
    Nat.toDigits_of_base_le (by decide) (Nat.le_of_not_lt large)
  have longer {value : Nat} (c d : Char) : [c] ≠ Nat.toDigits 16 value ++ [d] := by
    intro equal
    have nothing := (List.append_inj' (show [] ++ [c] = _ from equal) rfl).1
    exact Nat.toDigits_ne_nil nothing.symm
  -- The last digits agree, and so do the digits in front of them, which are those of the quotients.
  induction first using Nat.strongRecOn generalizing second with
  | ind first ih =>
      by_cases small : first < 16 <;> by_cases smallToo : second < 16
      · rw [Nat.toDigits_of_lt_base small, Nat.toDigits_of_lt_base smallToo] at same
        exact digitChar_injective first small second smallToo (List.singleton_inj.mp same)
      · rw [Nat.toDigits_of_lt_base small, split smallToo] at same
        exact absurd same (longer _ _)
      · rw [split small, Nat.toDigits_of_lt_base smallToo] at same
        exact absurd same.symm (longer _ _)
      · rw [split small, split smallToo] at same
        obtain ⟨leading, last⟩ := List.append_inj' same rfl
        have quotients := ih (first / 16) (by omega) leading
        have remainders := digitChar_injective _ (Nat.mod_lt _ (by decide)) _
          (Nat.mod_lt _ (by decide)) (List.singleton_inj.mp last)
        omega

/-! ## Written forms -/

/-- The characters that are written by a letter behind a backslash, with that letter. -/
def letterForms : List (Char × Char) :=
  [('"', '"'), ('\\', '\\'), ('\x00', '0'), ('\t', 't'), ('\r', 'r'), ('\n', 'n')]

/-- How a character may be written inside quotes: by a letter, by its code point, or as itself. -/
inductive WrittenAs (c : Char) : List Char → Prop
  | letter {mark : Char} (known : (c, mark) ∈ letterForms) : WrittenAs c ['\\', mark]
  | codePoint : WrittenAs c (codePointForm c)
  | itself (unquoted : c ≠ '"') (unescaped : c ≠ '\\') (printable : isUnprintable c = false) :
      WrittenAs c [c]

theorem writtenAs_quotedForm (c : Char) : WrittenAs c (quotedForm c) := by
  unfold quotedForm
  split_ifs with quote backslash null tab return_ feed unprintable
  · exact .letter (by simp [letterForms, quote])
  · exact .letter (by simp [letterForms, backslash])
  · exact .letter (by simp [letterForms, null])
  · exact .letter (by simp [letterForms, tab])
  · exact .letter (by simp [letterForms, return_])
  · exact .letter (by simp [letterForms, feed])
  · exact .codePoint
  · exact .itself quote backslash (by simpa using unprintable)

theorem codePointForm_eq (c : Char) :
    codePointForm c = '\\' :: 'u' :: '\x7b' :: (Nat.toDigits 16 c.toNat ++ ['\x7d']) := rfl

theorem letterForms_table : ∀ form ∈ letterForms, form.2 ≠ 'u' ∧
    ∀ other ∈ letterForms, form.2 = other.2 → form.1 = other.1 := by
  decide

/-- No written form of a character begins that of another. -/
theorem WrittenAs.append_inj {c d : Char} {form otherForm rest other : List Char}
    (written : WrittenAs c form) (also : WrittenAs d otherForm)
    (same : form ++ rest = otherForm ++ other) : c = d ∧ rest = other := by
  cases written with
  | letter known =>
      cases also with
      | letter knownToo =>
          obtain ⟨marks, rests⟩ := List.cons.inj (List.cons.inj same).2
          exact ⟨(letterForms_table _ known).2 _ knownToo marks, rests⟩
      | codePoint =>
          have mark := (List.cons.inj (List.cons.inj same).2).1
          exact absurd mark (letterForms_table _ known).1
      | itself _ unescaped _ => exact absurd (List.cons.inj same).1.symm unescaped
  | codePoint =>
      cases also with
      | letter known =>
          have mark := (List.cons.inj (List.cons.inj same).2).1
          exact absurd mark.symm (letterForms_table _ known).1
      | codePoint =>
          have brace (value : Nat) : '\x7d' ∉ Nat.toDigits 16 value := by
            intro member
            obtain ⟨digit, small, equal⟩ := exists_digitChar_of_mem member
            exact absurd equal (by revert digit; decide)
          simp only [codePointForm_eq, List.cons_append, List.append_assoc, List.nil_append,
            List.cons.injEq, true_and] at same
          obtain ⟨digits, rests⟩ := append_cons_inj (brace _) (brace _) same
          exact ⟨Char.toNat_inj.mp (toDigits_injective digits), rests⟩
      | itself _ unescaped _ => exact absurd (List.cons.inj same).1.symm unescaped
  | itself _ unescaped _ =>
      cases also with
      | letter _ | codePoint => exact absurd (List.cons.inj same).1 unescaped
      | itself _ _ _ => exact List.cons.inj same

theorem WrittenAs.head_ne {c : Char} {form : List Char} (written : WrittenAs c form)
    (rest other : List Char) : form ++ rest ≠ '"' :: other := by
  intro same
  cases written with
  | letter _ | codePoint => exact absurd (List.cons.inj same).1 (by decide)
  | itself unquoted _ _ => exact unquoted (List.cons.inj same).1

/-! ## Quoted texts -/

theorem flatMap_quotedForm_inj {first second rest other : List Char}
    (same : first.flatMap quotedForm ++ '"' :: rest = second.flatMap quotedForm ++ '"' :: other) :
    first = second ∧ rest = other := by
  induction first generalizing second with
  | nil =>
      cases second with
      | nil => exact ⟨rfl, (List.cons.inj same).2⟩
      | cons d second =>
          rw [List.flatMap_cons, List.append_assoc] at same
          exact absurd same.symm ((writtenAs_quotedForm d).head_ne _ _)
  | cons c first ih =>
      rw [List.flatMap_cons, List.append_assoc] at same
      cases second with
      | nil => exact absurd same ((writtenAs_quotedForm c).head_ne _ _)
      | cons d second =>
          rw [List.flatMap_cons, List.append_assoc] at same
          obtain ⟨rfl, behind⟩ := (writtenAs_quotedForm c).append_inj (writtenAs_quotedForm d) same
          obtain ⟨rfl, rests⟩ := ih behind
          exact ⟨rfl, rests⟩

/-- **A quoted text ends where it ends.** What begins with a quoted text begins with that of no
other. -/
theorem quote_append_inj {first second : String} {rest other : List Char}
    (same : (quote first).toList ++ rest = (quote second).toList ++ other) :
    first = second ∧ rest = other := by
  rw [toList_quote, toList_quote, List.cons_append, List.cons_append, List.append_assoc,
    List.append_assoc] at same
  obtain ⟨chars, rests⟩ := flatMap_quotedForm_inj (List.cons.inj same).2
  exact ⟨String.toList_inj.mp chars, rests⟩

/-! ## Control characters -/

/-- A character that controls a device and shows nothing, such as a line feed. -/
def isControl (c : Char) : Bool :=
  c.toNat < 0x20 || 0x7F ≤ c.toNat && c.toNat ≤ 0x9F

theorem isControl_of_mem {text : List Char} (printable : text.any isControl = false) :
    ∀ c ∈ text, isControl c = false := by
  simpa using printable

theorem isUnprintable_of_isControl {c : Char} (control : isControl c = true) :
    isUnprintable c = true := by
  simp only [isControl, Bool.or_eq_true, Bool.and_eq_true, decide_eq_true_eq] at control
  rcases control with low | ⟨above, below⟩
  · exact isUnprintable_of_lt_space low
  · refine List.any_eq_true.mpr ⟨(0x7F, 0xA0), List.mem_cons_of_mem _ List.mem_cons_self, ?_⟩
    simp only [Bool.and_eq_true, decide_eq_true_eq]
    omega

theorem WrittenAs.isControl_of_mem {c d : Char} {form : List Char} (written : WrittenAs c form)
    (member : d ∈ form) : isControl d = false := by
  cases written with
  | letter known =>
      have marks : ∀ form ∈ letterForms, isControl form.2 = false := by decide
      rw [List.mem_pair] at member
      rcases member with rfl | rfl
      · decide
      · exact marks _ known
  | codePoint =>
      have digits : ∀ digit < 16, isControl (Nat.digitChar digit) = false := by decide
      simp only [codePointForm_eq, List.mem_cons, List.mem_append, List.not_mem_nil,
        or_false] at member
      rcases member with rfl | rfl | rfl | inside | rfl
      · decide
      · decide
      · decide
      · obtain ⟨digit, small, rfl⟩ := exists_digitChar_of_mem inside
        exact digits digit small
      · decide
  | itself _ _ printable =>
      rw [List.mem_singleton] at member
      subst member
      rw [← Bool.not_eq_true]
      intro control
      rw [isUnprintable_of_isControl control] at printable
      cases printable

theorem isControl_of_mem_quote {text : String} {c : Char} (member : c ∈ (quote text).toList) :
    isControl c = false := by
  rw [toList_quote, List.mem_cons, List.mem_append, List.mem_singleton] at member
  rcases member with rfl | inside | rfl
  · decide
  · obtain ⟨d, -, form⟩ := List.mem_flatMap.mp inside
    exact (writtenAs_quotedForm d).isControl_of_mem form
  · decide

end AbiProbe.Text
