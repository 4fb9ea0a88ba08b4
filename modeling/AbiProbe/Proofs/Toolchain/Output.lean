import AbiProbe.Proofs.Text.Decimal
import AbiProbe.Proofs.Text.Quoted
import AbiProbe.Proofs.Text.Utf8
import AbiProbe.Toolchain.Output

/-! # What a diagnostic shows of an output

The diagnostic of an output shows how the command ended and what its streams hold
(`AbiProbe.Output.shown`), on one line without control characters
(`AbiProbe.Output.isControl_of_mem_diagnostic`). It ends where it ends
(`AbiProbe.Output.diagnostic_append_inj`), so it may stand inside other diagnostics. Of streams that
hold text it shows all there is (`AbiProbe.Output.alike_iff_shown_eq`).
-/

namespace AbiProbe

/-! ## How a command ended -/

namespace ExitStatus

/-- Whether a character may occur in the text of an exit status. -/
def isTextual (c : Char) : Bool :=
  c.isAlphanum || [' ', ':', '(', ')'].contains c

theorem isTextual_of_isAlphanum {c : Char} (alphanumeric : c.isAlphanum = true) :
    isTextual c = true := by
  rw [isTextual, alphanumeric, Bool.true_or]

theorem isTextual_of_mem_ofNat {number : Nat} :
    ∀ c ∈ (Text.Decimal.ofNat number).toList, isTextual c = true := by
  intro c member
  rw [Text.Decimal.ofNat, String.toList_ofList] at member
  have digit := Text.Decimal.isDigit_of_mem_digits member
  exact isTextual_of_isAlphanum (by rw [Char.isAlphanum, digit, Bool.or_true])

theorem isTextual_of_mem_signalName {number : Nat} {name : String}
    (known : signalName? number = some name) : ∀ c ∈ name.toList, isTextual c = true := by
  have names : ∀ name ∈ signalNames, name.toList.all Char.isAlphanum = true := by decide
  intro c member
  cases number with
  | zero => cases known
  | succ index =>
      have listed : name ∈ signalNames := List.mem_of_getElem? known
      exact isTextual_of_isAlphanum (List.all_eq_true.mp (names name listed) c member)

theorem isTextual_of_mem_text (status : ExitStatus) :
    ∀ c ∈ status.text.toList, isTextual c = true := by
  cases status with
  | code number =>
      rw [text, String.toList_append, List.forall_mem_append]
      exact ⟨List.all_eq_true.mp (by decide), isTextual_of_mem_ofNat⟩
  | signal number core =>
      have dumped : (if core then " (core dumped)" else "").toList.all isTextual = true := by
        cases core <;> decide
      rw [text, String.toList_append, String.toList_append, String.toList_append,
        List.forall_mem_append, List.forall_mem_append, List.forall_mem_append]
      refine ⟨⟨⟨List.all_eq_true.mp (by decide), isTextual_of_mem_ofNat⟩, ?_⟩,
        List.all_eq_true.mp dumped⟩
      cases known : signalName? number with
      | none => exact nofun
      | some name =>
          rw [Option.map_some, Option.getD_some, String.toList_append, String.toList_append,
            List.forall_mem_append, List.forall_mem_append]
          exact ⟨⟨List.all_eq_true.mp (by decide), isTextual_of_mem_signalName known⟩,
            List.all_eq_true.mp (by decide)⟩

/-- The text of an exit status holds no control character. -/
theorem isControl_of_isTextual {c : Char} (textual : isTextual c = true) :
    Text.isControl c = false := by
  -- The control characters are among the first code points, where none is textual.
  have apart : ∀ code < 0xA0, isTextual (Char.ofNat code) = true →
      Text.isControl (Char.ofNat code) = false := by
    decide +kernel
  by_cases low : c.toNat < 0xA0
  · rw [← Char.ofNat_toNat c] at textual ⊢
    exact apart c.toNat low textual
  · simp only [Text.isControl, Bool.or_eq_false_iff, Bool.and_eq_false_iff, decide_eq_false_iff_not]
    omega

end ExitStatus

namespace Output

open Text

/-- What a diagnostic shows of an output: how the command ended, and its two streams read as text
even if they are none. -/
def shown (output : Output) : String × String × String :=
  (output.status.text, Utf8.decodeLossy output.stdout, Utf8.decodeLossy output.stderr)

theorem toList_diagnostic (output : Output) :
    output.diagnostic.toList = "\x7b status: ".toList ++ (output.status.text.toList ++
      ',' :: (" stdout: ".toList ++ ((quote (Utf8.decodeLossy output.stdout)).toList ++
        (", stderr: ".toList ++ ((quote (Utf8.decodeLossy output.stderr)).toList ++
          " \x7d".toList))))) := by
  simp [diagnostic, Diagnostic.fields, Diagnostic.separated, Diagnostic.field]

/-- **A diagnostic of an output is a single line.** It holds no line feed and no other control
character, whatever the command wrote. -/
theorem isControl_of_mem_diagnostic (output : Output) :
    ∀ c ∈ output.diagnostic.toList, isControl c = false := by
  have status : ∀ c ∈ output.status.text.toList, isControl c = false := fun c member =>
    ExitStatus.isControl_of_isTextual (output.status.isTextual_of_mem_text c member)
  have quoted (text : String) : ∀ c ∈ (quote text).toList, isControl c = false :=
    fun _ => isControl_of_mem_quote
  rw [toList_diagnostic]
  simp only [List.forall_mem_append, List.forall_mem_cons]
  exact ⟨isControl_of_mem (by decide), status, by decide, isControl_of_mem (by decide), quoted _,
    isControl_of_mem (by decide), quoted _, isControl_of_mem (by decide)⟩

/-- **A diagnostic of an output ends where it ends.** What begins with it shows the output, and
what stands behind. -/
theorem diagnostic_append_inj {first second : Output} {rest other : List Char}
    (same : first.diagnostic.toList ++ rest = second.diagnostic.toList ++ other) :
    first.shown = second.shown ∧ rest = other := by
  have comma (status : ExitStatus) : ',' ∉ status.text.toList := by
    intro member
    have textual := status.isTextual_of_mem_text ',' member
    exact absurd textual (by decide)
  simp only [toList_diagnostic, List.append_assoc, List.cons_append] at same
  obtain ⟨statuses, streams⟩ := append_cons_inj (comma _) (comma _) (List.append_cancel_left same)
  obtain ⟨stdouts, behind⟩ := quote_append_inj (List.append_cancel_left streams)
  obtain ⟨stderrs, closing⟩ := quote_append_inj (List.append_cancel_left behind)
  refine ⟨?_, List.append_cancel_left closing⟩
  rw [shown, shown, String.toList_inj.mp statuses, stdouts, stderrs]

/-! ## Streams that hold text -/

/-- An output whose streams both hold text. -/
structure IsText (output : Output) : Prop where
  stdout : ∃ text, output.stdout = Utf8.encode text
  stderr : ∃ text, output.stderr = Utf8.encode text

/-- Two outputs are alike when the commands ended in the same way, as far as it is put into words,
and wrote the same bytes. -/
structure Alike (first second : Output) : Prop where
  status : first.status.text = second.status.text
  stdout : first.stdout = second.stdout
  stderr : first.stderr = second.stderr

theorem eq_of_decodeLossy_eq {first second : List UInt8}
    (firstText : ∃ text, first = Utf8.encode text) (secondText : ∃ text, second = Utf8.encode text)
    (same : Utf8.decodeLossy first = Utf8.decodeLossy second) : first = second := by
  obtain ⟨text, rfl⟩ := firstText
  obtain ⟨other, rfl⟩ := secondText
  rw [Utf8.decodeLossy_encode, Utf8.decodeLossy_encode] at same
  rw [same]

theorem alike_iff_shown_eq {first second : Output} (firstText : first.IsText)
    (secondText : second.IsText) : first.Alike second ↔ first.shown = second.shown := by
  constructor
  · intro alike
    rw [shown, shown, alike.status, alike.stdout, alike.stderr]
  · intro same
    simp only [shown, Prod.mk.injEq] at same
    exact ⟨same.1, eq_of_decodeLossy_eq firstText.stdout secondText.stdout same.2.1,
      eq_of_decodeLossy_eq firstText.stderr secondText.stderr same.2.2⟩

theorem Alike.diagnostic_eq {first second : Output} (alike : first.Alike second) :
    first.diagnostic = second.diagnostic := by
  rw [diagnostic, diagnostic, alike.status, alike.stdout, alike.stderr]

/-- What begins with the diagnostic of an output whose streams hold text begins with that of no
other such output, unless they are alike. -/
theorem alike_of_diagnostic_append_eq {first second : Output} (firstText : first.IsText)
    (secondText : second.IsText) {rest other : List Char}
    (same : first.diagnostic.toList ++ rest = second.diagnostic.toList ++ other) :
    first.Alike second ∧ rest = other := by
  obtain ⟨shows, rests⟩ := diagnostic_append_inj same
  exact ⟨(alike_iff_shown_eq firstText secondText).mpr shows, rests⟩

end Output

end AbiProbe
