import AbiProbe.Proofs.Probe.Trial
import AbiProbe.Proofs.Text.Blank
import AbiProbe.Proofs.Text.Numeral
import AbiProbe.Proofs.Text.Utf8

/-! # What a program printed

When a program compiles and runs, the outcome of its question is read off what it printed. An
integer is answered exactly where the trimmed text writes one of the range of its type
(`AbiProbe.Probe.reads_integers`). Bytes that are no UTF-8 are never read as a value
(`AbiProbe.Probe.ask_undecodable`).
-/

namespace AbiProbe

open Text.Decimal (WritesInteger)

/-! ## Characters of values -/

namespace Text.Decimal.WritesInteger

variable {signed : Bool} {text : List Char} {number : Int}

theorem isBlank_eq_false (written : WritesInteger signed text number) :
    ∀ c ∈ text, isBlank c = false := by
  intro c member
  rcases written.isDigit_or_sign member with digit | rfl | rfl
  · exact isBlank_eq_false_of_isDigit digit
  · rfl
  · rfl

theorem replacement_not_mem (written : WritesInteger signed text number) : '\uFFFD' ∉ text := by
  intro member
  rcases written.isDigit_or_sign member with digit | same | same
  · cases digit
  · cases same
  · cases same

end Text.Decimal.WritesInteger

/-- No value is written with a replacement character. -/
theorem Aspect.Answer.replacement_not_mem {answer : Aspect.Answer} {text : List Char}
    {value : answer.Value} (read : answer.read? text = some value) : '\uFFFD' ∉ text := by
  cases answer with
  | size | unsigned => exact (Text.Decimal.unsigned?_eq_some_iff.mp read).replacement_not_mem
  | signed => exact (Text.Decimal.signed?_eq_some_iff.mp read).replacement_not_mem
  | truth =>
      simp only [Answer.read?, truth?] at read
      split_ifs at read with yes no
      · rw [yes]
        decide
      · rw [no]
        decide

namespace Probe

variable {probe : Probe} {aspect : Aspect} {name : String} {stdout : List UInt8}

/-- The program of an aspect of a name has its scratch directory and compiles there, and running
it succeeds and prints some bytes. -/
structure Prints (probe : Probe) (aspect : Aspect) (name : String) (stdout : List UInt8) :
    Prop where
  scratch : probe.HasScratch (probe.sourceFor aspect name)
  compiles : ∃ compiled, probe.toolchain.compile (probe.sourceFor aspect name) = .ok compiled ∧
    compiled.status = .code 0
  runs : ∃ ran, probe.toolchain.run (probe.sourceFor aspect name) = .ok ran ∧
    ran.status = .code 0 ∧ ran.stdout = stdout

/-- A probe whose programs all compile and print the same bytes. -/
def printing (stdout : List UInt8) : Probe where
  includes := .ofHeaders []
  workDir := "."
  toolchain := {
    compile := fun _ => .ok ⟨.code 0, [], []⟩
    run := fun _ => .ok ⟨.code 0, stdout, []⟩ }

theorem prints_printing (aspect : Aspect) (name : String) (stdout : List UInt8) :
    (printing stdout).Prints aspect name stdout where
  scratch := ⟨⟨_, rfl⟩, rfl⟩
  compiles := ⟨_, rfl, rfl⟩
  runs := ⟨_, rfl, rfl, rfl⟩

/-! ## A work directory with a long path -/

/-- The same probe in a work directory of a system that limits the length of paths. -/
def printingIn (workDir : String) (stdout : List UInt8) : Probe where
  includes := .ofHeaders []
  workDir := workDir
  toolchain := { (printing stdout).toolchain with scratch := .limited "/" "/tmp/scratch" }

theorem makeScratch_printingIn (workDir : String) (stdout : List UInt8) (source : String) :
    (printingIn workDir stdout).makeScratch source =
      (ScratchSpace.limited "/" "/tmp/scratch").make workDir source := rfl

/-- A path to the directory for temporary files that stays in the root for most of its length. -/
def longTempDir : String :=
  "/" ++ (String.join (List.replicate 2036 "./") ++ "tmp")

theorem utf8ByteSize_join_replicate (count : Nat) (text : String) :
    (String.join (List.replicate count text)).utf8ByteSize = count * text.utf8ByteSize := by
  induction count with
  | zero => simp
  | succ count ih =>
      rw [List.replicate_succ, String.join_cons, String.utf8ByteSize_append, ih, Nat.succ_mul,
        Nat.add_comm]

theorem utf8ByteSize_longTempDir : longTempDir.utf8ByteSize = 4076 := by
  rw [longTempDir, String.utf8ByteSize_append, String.utf8ByteSize_append,
    utf8ByteSize_join_replicate]
  rfl

/-- There is room in this directory for a scratch directory, and in that none for a source. -/
theorem makeScratch_longTempDir (stdout : List UInt8) (source : String) :
    (printingIn longTempDir stdout).makeScratch source = .error (.unwritten .nameTooLong) := by
  have absolute : longTempDir.toList.head? = some '/' := by
    rw [longTempDir, String.toList_append, List.head?_append]
    rfl
  have last : longTempDir.toList.getLast? = some 'p' := by
    rw [longTempDir, String.toList_append, String.toList_append, List.getLast?_append,
      List.getLast?_append]
    rfl
  rw [makeScratch_printingIn]
  apply ScratchSpace.limited_make_of_long "/" "/tmp/scratch" source absolute
  · rw [last]
    decide
  · rw [utf8ByteSize_longTempDir]
    decide
  · rw [utf8ByteSize_longTempDir]
    decide

/-- The text of printed bytes without the blanks around it. -/
def printedText (stdout : List UInt8) : List Char :=
  Text.trim (Text.Utf8.decodeLossy stdout).toList

theorem outcome_pose_of_prints (prints : probe.Prints aspect name stdout) :
    (probe.pose aspect name).outcome = readAnswer aspect (Text.Utf8.decodeLossy stdout) := by
  obtain ⟨compiled, compiles, accepted⟩ := prints.compiles
  obtain ⟨ran, runs, ended, rfl⟩ := prints.runs
  have started : probe.toolchain.runOfCompiled? (probe.sourceFor aspect name) = some (.ok ran) := by
    simp only [Toolchain.runOfCompiled?, compiles, ExitStatus.isSuccess_iff, accepted, ↓reduceIte,
      runs]
  rw [outcome_pose_of_hasScratch prints.scratch]
  simp only [Block.outcome, blockOf, compiles, started, ended, ↓reduceIte]

/-- A question whose program prints something has the answer that is read of it. -/
theorem outcome_ask_of_prints (asked : aspect = .definedness → Identifier.isIdentifier name = true)
    (prints : probe.Prints aspect name stdout) :
    (probe.ask aspect name).outcome = readAnswer aspect (Text.Utf8.decodeLossy stdout) := by
  rw [ask_eq_pose_of_accepted asked]
  exact outcome_pose_of_prints prints

theorem readAnswer_eq_ok_iff {value : aspect.answer.Value} :
    readAnswer aspect (Text.Utf8.decodeLossy stdout) = .ok value ↔
      aspect.answer.read? (printedText stdout) = some value := by
  unfold readAnswer printedText
  dsimp only
  cases aspect.answer.read? (Text.trim (Text.Utf8.decodeLossy stdout).toList) with
  | none => simp only [reduceCtorEq]
  | some read => simp only [Except.ok.injEq, Option.some.injEq]

theorem readAnswer_eq_error (unread : aspect.answer.read? (printedText stdout) = none) :
    readAnswer aspect (Text.Utf8.decodeLossy stdout) =
      .error (.unexpectedOutput (String.ofList (printedText stdout)) aspect.answer.name) := by
  unfold printedText at *
  rw [readAnswer, unread]

/-! ## Printed integers -/

/-- A question that answers the integer its program printed, out of a range of integers. -/
structure ReadsInteger {Value : Type} (outcome : Except ProbeError Value) (toInt : Value → Int)
    (signed : Bool) (least bound : Int) (typeName : String) (stdout : List UInt8) : Prop where
  /-- The answer is the number that is written, if the type has it. -/
  answered (number : Int) : (∃ value, outcome = .ok value ∧ toInt value = number) ↔
    WritesInteger signed (printedText stdout) number ∧ least ≤ number ∧ number < bound
  /-- Without such a number the text is refused as a whole. -/
  refused (unwritten : ∀ number, WritesInteger signed (printedText stdout) number →
    ¬(least ≤ number ∧ number < bound)) :
    outcome = .error (.unexpectedOutput (String.ofList (printedText stdout)) typeName)
  /-- A number out of the range is not turned into one in it. -/
  outOfRange (number : Int) (written : WritesInteger signed (printedText stdout) number)
    (outside : number < least ∨ bound ≤ number) :
    outcome = .error (.unexpectedOutput (String.ofList (printedText stdout)) typeName)
  /-- Every value is read back from its decimal text between any blanks. -/
  roundTrip (value : Value) (front behind : List Char)
    (blank : ∀ c ∈ front ++ behind, Text.isBlank c = true)
    (printed : (Text.Utf8.decodeLossy stdout).toList =
      front ++ ((Text.Decimal.ofInt (toInt value)).toList ++ behind)) : outcome = .ok value

/-- A reader of exactly the texts of the integers of a range makes a question that answers them. -/
theorem readsInteger_of_read (aspect : Aspect) {outcome : Except ProbeError aspect.answer.Value}
    {toInt : aspect.answer.Value → Int} {signed : Bool} {least bound : Int}
    (asked : outcome = readAnswer aspect (Text.Utf8.decodeLossy stdout))
    (range : ∀ number, (∃ value, toInt value = number) ↔ least ≤ number ∧ number < bound)
    (allowed : signed = true ∨ 0 ≤ least)
    (reads : ∀ text value,
      aspect.answer.read? text = some value ↔ WritesInteger signed text (toInt value)) :
    ReadsInteger outcome toInt signed least bound aspect.answer.name stdout := by
  have outcome_eq_ok_iff (value : aspect.answer.Value) :
      outcome = .ok value ↔ WritesInteger signed (printedText stdout) (toInt value) := by
    rw [asked, readAnswer_eq_ok_iff, reads]
  have refused (unwritten : ∀ number, WritesInteger signed (printedText stdout) number →
      ¬(least ≤ number ∧ number < bound)) :
      outcome = .error (.unexpectedOutput (String.ofList (printedText stdout))
        aspect.answer.name) := by
    rw [asked]
    apply readAnswer_eq_error
    rw [Option.eq_none_iff_forall_ne_some]
    intro value read
    exact unwritten _ ((reads _ _).mp read) ((range _).mp ⟨value, rfl⟩)
  refine ⟨?_, refused, ?_, ?_⟩
  · intro number
    constructor
    · rintro ⟨value, answered, rfl⟩
      exact ⟨(outcome_eq_ok_iff value).mp answered, (range _).mp ⟨value, rfl⟩⟩
    · rintro ⟨written, inside⟩
      obtain ⟨value, rfl⟩ := (range _).mpr inside
      exact ⟨value, (outcome_eq_ok_iff value).mpr written, rfl⟩
  · intro number written outside
    apply refused
    intro other also inside
    obtain rfl := written.unique also
    omega
  · intro value front behind blank printed
    have nonneg : signed = true ∨ 0 ≤ toInt value :=
      allowed.imp_right fun least_nonneg => le_trans least_nonneg ((range _).mp ⟨value, rfl⟩).1
    have written : WritesInteger signed _ (toInt value) := WritesInteger.ofInt nonneg
    rw [outcome_eq_ok_iff, printedText, printed, Text.trim_append]
    · exact written
    · exact fun c member => blank c (List.mem_append_left _ member)
    · exact fun c member => blank c (List.mem_append_right _ member)
    · exact written.isBlank_eq_false

/-- **A printed integer is read exactly, or refused with the text that was printed.** -/
theorem reads_integers (probe : Probe) (name : String) (stdout : List UInt8) :
    (probe.Prints .size name stdout →
      ReadsInteger (probe.sizeOf name).outcome (fun value => value.toNat) false 0 (2 ^ 64)
        "usize" stdout) ∧
    (probe.Prints .alignment name stdout →
      ReadsInteger (probe.alignOf name).outcome (fun value => value.toNat) false 0 (2 ^ 64)
        "usize" stdout) ∧
    (probe.Prints .unsignedValue name stdout →
      ReadsInteger (probe.unsignedConstant name).outcome (fun value => value.toNat) false 0
        (2 ^ 64) "u64" stdout) ∧
    (probe.Prints .signedValue name stdout →
      ReadsInteger (probe.signedConstant name).outcome Int64.toInt true (-2 ^ 63) (2 ^ 63)
        "i64" stdout) := by
  refine ⟨?_, ?_, ?_, ?_⟩
  · intro prints
    exact readsInteger_of_read .size (outcome_ask_of_prints nofun prints)
      (fun _ => Text.Decimal.exists_toNat_iff) (Or.inr le_rfl)
      (fun _ _ => Text.Decimal.unsigned?_eq_some_iff)
  · intro prints
    exact readsInteger_of_read .alignment (outcome_ask_of_prints nofun prints)
      (fun _ => Text.Decimal.exists_toNat_iff) (Or.inr le_rfl)
      (fun _ _ => Text.Decimal.unsigned?_eq_some_iff)
  · intro prints
    exact readsInteger_of_read .unsignedValue (outcome_ask_of_prints nofun prints)
      (fun _ => Text.Decimal.exists_toNat_iff) (Or.inr le_rfl)
      (fun _ _ => Text.Decimal.unsigned?_eq_some_iff)
  · intro prints
    exact readsInteger_of_read .signedValue (outcome_ask_of_prints nofun prints)
      (fun _ => Text.Decimal.exists_toInt_iff) (Or.inl rfl)
      (fun _ _ => Text.Decimal.signed?_eq_some_iff)

/-- A negative number between blanks is an answer as a signed integer, and refused as a size. -/
theorem reads_integers_negative :
    ((printing (Text.Utf8.encode " -7\n")).signedConstant "int").outcome = .ok (-7) ∧
      ((printing (Text.Utf8.encode " -7\n")).sizeOf "int").outcome =
        .error (.unexpectedOutput "-7" "usize") := by
  obtain ⟨size, -, -, signed⟩ := reads_integers (printing (Text.Utf8.encode " -7\n")) "int"
    (Text.Utf8.encode " -7\n")
  have trimmed : printedText (Text.Utf8.encode " -7\n") = ['-', '7'] := by
    rw [printedText, Text.Utf8.decodeLossy_encode]
    rfl
  have minus : WritesInteger true (Text.Decimal.ofInt (-7)).toList (-7) :=
    WritesInteger.ofInt (Or.inl rfl)
  have blank : ∀ c ∈ [' '] ++ ['\n'], Text.isBlank c = true := by
    intro c member
    rcases List.mem_cons.mp member with rfl | behind
    · rfl
    · rw [List.mem_singleton.mp behind]
      rfl
  constructor
  · apply (signed (prints_printing _ _ _)).roundTrip (-7) [' '] ['\n'] blank
    rw [Text.Utf8.decodeLossy_encode]
    rfl
  · have unwritten : ∀ number, WritesInteger false ['-', '7'] number →
        ¬(0 ≤ number ∧ number < 2 ^ 64) := by
      intro number written
      have same := minus.unique written.of_unsigned
      omega
    rw [← trimmed] at unwritten
    rw [(size (prints_printing _ _ _)).refused unwritten, trimmed]

/-! ## Printed bytes that are no text -/

theorem replacement_mem_printedText (ill : ∀ text, stdout ≠ Text.Utf8.encode text) :
    '\uFFFD' ∈ printedText stdout :=
  Text.mem_trim rfl (Text.Utf8.replacement_mem_decodeLossy ill)

/-- **Printed bytes that are no UTF-8 are refused, and those of a text are read as that text.** -/
theorem ask_undecodable (asked : aspect = .definedness → Identifier.isIdentifier name = true)
    (prints : probe.Prints aspect name stdout) :
    ((∀ text, stdout ≠ Text.Utf8.encode text) →
      ∃ printed, (probe.ask aspect name).outcome =
          .error (.unexpectedOutput printed aspect.answer.name) ∧ '\uFFFD' ∈ printed.toList) ∧
    (∀ text, stdout = Text.Utf8.encode text →
      (probe.ask aspect name).outcome = readAnswer aspect text) := by
  rw [outcome_ask_of_prints asked prints]
  constructor
  · intro ill
    have replaced := replacement_mem_printedText ill
    refine ⟨_, readAnswer_eq_error ?_, by rwa [String.toList_ofList]⟩
    rw [Option.eq_none_iff_forall_ne_some]
    intro value read
    exact Aspect.Answer.replacement_not_mem read replaced
  · rintro text rfl
    rw [Text.Utf8.decodeLossy_encode]

/-- A digit behind a byte that no text has is not read as a size. -/
theorem ask_undecodable_digit :
    ∃ printed, ((printing [0xFF, 0x31, 0x0A]).ask .size "int").outcome =
      .error (.unexpectedOutput printed "usize") ∧ '\uFFFD' ∈ printed.toList := by
  have asked : Aspect.size = .definedness → Identifier.isIdentifier "int" = true := nofun
  have broken : none ∈ Text.Utf8.decode [0xFF, 0x31, 0x0A] := List.mem_cons_self
  have ill := Text.Utf8.ne_encode_of_none_mem broken
  exact (ask_undecodable asked (prints_printing .size "int" _)).1 ill

end Probe

end AbiProbe
