import AbiProbe.Proofs.CommandLine.Settling

/-! # The scanner accepts the grammar

What a piece of a command line spells is recorded when the piece has been read, so the words are
accepted exactly where they are a line without faults (`AbiProbe.CommandLine.scan_eq_ok_iff`).
-/

namespace AbiProbe.CommandLine

variable {subcommand : Subcommand}

/-- Whether a number of operands is not too great for a subcommand. -/
def Subcommand.Admits (subcommand : Subcommand) (count : Nat) : Prop :=
  ∀ limit, subcommand.operandLimit = some limit → count ≤ limit

theorem takesOperand_iff {count : Nat} :
    subcommand.takesOperand count = true ↔ subcommand.Admits (count + 1) := by
  unfold Subcommand.takesOperand Subcommand.Admits
  cases subcommand.operandLimit with
  | none => simp
  | some limit =>
      simp only [decide_eq_true_eq, Option.some.injEq, forall_eq']
      exact Nat.lt_iff_add_one_le

theorem Subcommand.Admits.mono {count fewer : Nat} (admits : subcommand.Admits count)
    (few : fewer ≤ count) : subcommand.Admits fewer := by
  intro limit limited
  exact Nat.le_trans few (admits limit limited)

namespace Progress

/-- Nothing pending after some options and operands. -/
def after (occurrences : List Occurrence) (operands : List String) : Progress :=
  ⟨occurrences, none, operands, false⟩

/-! ## Single pieces -/

/-- Whether occurrences can be recorded one after the other behind some others. -/
def Faultless : List Occurrence → List Occurrence → Prop
  | _, [] => True
  | before, occurrence :: later =>
      fault? before occurrence = none ∧ Faultless (before ++ [occurrence]) later

theorem faultless_append {before first second : List Occurrence} :
    Faultless before (first ++ second) ↔
      Faultless before first ∧ Faultless (before ++ first) second := by
  induction first generalizing before with
  | nil => simp [Faultless]
  | cons occurrence first ih => simp [Faultless, ih, and_assoc]

section Pieces

variable {before : List Occurrence} {operands words : List String} {scanned : Scanned}
  {option : OptionName} {value : String} {reached : Progress}

theorem record_eq_ok_iff {occurrence : Occurrence} :
    (after before operands).record occurrence = .ok reached ↔
      fault? before occurrence = none ∧ reached = after (before ++ [occurrence]) operands := by
  have recorded : (after before operands).occurrences = before := rfl
  unfold record
  rw [recorded]
  cases fault? before occurrence with
  | none => simp [after, eq_comm]
  | some error => simp

/-- An option that waits for its value cannot be recorded. -/
theorem settle_awaiting (valued : option.takesValue = true) (only : Bool) :
    (Progress.mk before (some ⟨option, none⟩) operands only).settle = .error .invalidValue := by
  simp [settle, record, fault?, valued]

theorem readRest_attach :
    ((after before operands).attach option value >>= fun next =>
        readRest subcommand next words) = .ok scanned ↔
      fault? before ⟨option, some value⟩ = none ∧
        readRest subcommand (after (before ++ [⟨option, some value⟩]) operands) words =
          .ok scanned := by
  have recorded : (after before operands).attach option value =
      (after before operands).record ⟨option, some value⟩ := rfl
  rw [recorded, bind_eq_ok_iff]
  simp only [record_eq_ok_iff, and_assoc, exists_and_left, exists_eq_left]

theorem readRest_raise (noHelp : option ≠ .help) {next : Progress → Except UsageError Scanned} :
    (after before operands).raise option >>= next = .ok scanned ↔
      fault? before ⟨option, none⟩ = none ∧
        next (after (before ++ [⟨option, none⟩]) operands) = .ok scanned := by
  have recorded : (after before operands).raise option =
      (after before operands).record ⟨option, none⟩ := by
    unfold raise
    exact if_neg noHelp
  rw [recorded, bind_eq_ok_iff]
  simp only [record_eq_ok_iff, and_assoc, exists_and_left, exists_eq_left]

/-- A value that stands behind its option is recorded with it. -/
theorem readRest_supply (taken : option.MayTake value) :
    readRest subcommand ⟨before, some ⟨option, none⟩, operands, false⟩ (value :: words) =
        .ok scanned ↔
      fault? before ⟨option, some value⟩ = none ∧
        readRest subcommand (after (before ++ [⟨option, some value⟩]) operands) words =
          .ok scanned := by
  let supplied : Progress := ⟨before, some ⟨option, some value⟩, operands, false⟩
  have step : word subcommand ⟨before, some ⟨option, none⟩, operands, false⟩ value =
      .ok supplied := by
    by_cases any : option.takesAnyWord = true
    · simp [word, awaiting?, any, supply, supplied]
    · have plain : IsPlain value := taken.resolve_left any
      simp [word, awaiting?, any, ofText_plain plain, form, supply, supplied]
  rw [readRest_cons, step]
  change readRest subcommand supplied words = .ok scanned ↔ _
  have records : supplied.settle = (after before operands).record ⟨option, some value⟩ := rfl
  constructor
  · intro read
    obtain ⟨settled, done⟩ := exists_settled_of_readRest read (Or.inr rfl)
    rw [readRest_of_settle done rfl] at read
    obtain ⟨sound, rfl⟩ := record_eq_ok_iff.mp (records.symm.trans done)
    exact ⟨sound, read⟩
  · rintro ⟨sound, read⟩
    rwa [readRest_of_settle (records.trans (record_eq_ok_iff.mpr ⟨sound, rfl⟩)) rfl]

/-- An option that waits for its value is followed by one. -/
theorem exists_value_of_readRest (valued : option.takesValue = true)
    (read : readRest subcommand ⟨before, some ⟨option, none⟩, operands, false⟩ words =
      .ok scanned) :
    ∃ value rest, words = value :: rest ∧ option.MayTake value := by
  have unsettled : ∀ only, ∀ settled,
      (Progress.mk before (some ⟨option, none⟩) operands only).settle ≠ .ok settled := by
    intro only settled done
    rw [settle_awaiting valued only] at done
    cases done
  cases words with
  | nil =>
      obtain ⟨settled, done⟩ := exists_settled_of_nil read
      exact absurd done (unsettled false settled)
  | cons value rest =>
      refine ⟨value, rest, rfl, ?_⟩
      by_cases any : option.takesAnyWord = true
      · exact Or.inl any
      · right
        rw [readRest_cons, bind_eq_ok_iff] at read
        obtain ⟨reached, step, read⟩ := read
        simp only [word, awaiting?, any, Bool.false_eq_true, ↓reduceIte] at step
        rcases word_cases value with
          rfl | ⟨rest, given, rfl⟩ | ⟨letter, letters, noDash, rfl⟩ | plain
        · obtain rfl := Except.ok.inj step
          obtain ⟨settled, done⟩ := exists_settled_of_readRest read (Or.inl rfl)
          exact absurd done (unsettled true settled)
        · rw [ofText_long given] at step
          obtain ⟨settled, done⟩ := exists_settled_of_long step
          exact absurd done (unsettled false settled)
        · rw [ofText_cluster noDash] at step
          obtain ⟨settled, done⟩ := exists_settled_of_cluster step
          exact absurd done (unsettled false settled)
        · exact plain

end Pieces

/-! ## Spelled options -/

section Spelled

variable {before occurrences : List Occurrence} {operands words following spelled : List String}
  {scanned : Scanned} {letters : List Char}

theorem faultless_singleton {occurrence : Occurrence} :
    Faultless before [occurrence] ↔ fault? before occurrence = none := by
  simp [Faultless]

theorem valueBehindLetter_of_unmarked {value : List Char} (unmarked : value.head? ≠ some '=') :
    valueBehindLetter value = String.ofList value := by
  unfold valueBehindLetter
  split
  · exact absurd rfl unmarked
  · rfl

/-- What a cluster spells is recorded in its order. -/
theorem readRest_cluster (cluster : ClusterSpells subcommand letters following occurrences) :
    (Progress.cluster subcommand (after before operands) letters >>= fun next =>
        readRest subcommand next (following ++ words)) = .ok scanned ↔
      Faultless before occurrences ∧
        readRest subcommand (after (before ++ occurrences) operands) words = .ok scanned := by
  induction cluster generalizing before with
  | done =>
      rw [List.append_nil]
      exact (and_iff_right trivial).symm
  | flag known lettered bare noHelp others ih =>
      have found := optionOfLetter?_eq_some_iff.mpr ⟨known, lettered⟩
      simp only [Progress.cluster, found, bare, Bool.false_eq_true, ↓reduceIte, bind_assoc]
      rw [readRest_raise noHelp, ih, List.append_assoc, Faultless, and_assoc]
      rfl
  | attached known lettered valued given unmarked =>
      have found := optionOfLetter?_eq_some_iff.mpr ⟨known, lettered⟩
      simp only [Progress.cluster, found, valued, ↓reduceIte, List.isEmpty_iff, given,
        valueBehindLetter_of_unmarked unmarked, List.nil_append]
      rw [readRest_attach, faultless_singleton]
  | joined known lettered valued =>
      have found := optionOfLetter?_eq_some_iff.mpr ⟨known, lettered⟩
      simp only [Progress.cluster, found, valued, ↓reduceIte, List.isEmpty_cons,
        Bool.false_eq_true, valueBehindLetter, List.nil_append]
      rw [readRest_attach, faultless_singleton]
  | apart known lettered valued taken =>
      have found := optionOfLetter?_eq_some_iff.mpr ⟨known, lettered⟩
      simp only [Progress.cluster, found, valued, ↓reduceIte, List.isEmpty_nil]
      rw [faultless_singleton]
      exact readRest_supply taken

/-- A word that is an option by its form is read as one. -/
theorem readRest_form {text : String} :
    readRest subcommand (after before operands) (text :: words) =
      (after before operands).form subcommand (.ofText text) >>= fun next =>
        readRest subcommand next words :=
  readRest_cons _ _ _

/-- What some words spell is recorded when they have been read. -/
theorem readRest_spelled (first : Spells subcommand spelled occurrences) :
    readRest subcommand (after before operands) (spelled ++ words) = .ok scanned ↔
      Faultless before occurrences ∧
        readRest subcommand (after (before ++ occurrences) operands) words = .ok scanned := by
  cases first with
  | @joined option name value known named valued =>
      have found := optionOfLong?_eq_some_iff.mpr ⟨known, named⟩
      have text : Word.ofText ("--" ++ name ++ "=" ++ value) = .long name (some value) :=
        ofText_longWord named (some value)
      rw [List.singleton_append, readRest_form, text]
      simp only [form, long, found, valued]
      rw [readRest_attach, faultless_singleton]
  | @apart option name value known named valued taken =>
      have found := optionOfLong?_eq_some_iff.mpr ⟨known, named⟩
      have text : Word.ofText ("--" ++ name) = .long name none := ofText_longWord named none
      rw [List.cons_append, List.singleton_append, readRest_form, text]
      simp only [form, long, found, valued]
      rw [faultless_singleton]
      exact readRest_supply taken
  | @flag option name known named bare noHelp =>
      have found := optionOfLong?_eq_some_iff.mpr ⟨known, named⟩
      have text : Word.ofText ("--" ++ name) = .long name none := ofText_longWord named none
      rw [List.singleton_append, readRest_form, text]
      simp only [form, long, found, bare]
      rw [readRest_raise noHelp, faultless_singleton]
  | cluster given spelled =>
      obtain ⟨letter, letters, rfl⟩ := List.exists_cons_of_ne_nil given
      have noDash : letter ≠ '-' := by
        rintro rfl
        cases spelled <;> exact letter?_ne_dash ‹_›
      rw [List.cons_append, readRest_form, ofText_cluster noDash]
      exact readRest_cluster spelled

end Spelled

/-! ## Whole lines -/

section Lines

variable {before occurrences : List Occurrence} {operands words more : List String}
  {scanned : Scanned} {text : String} {only : Bool}

theorem readRest_nil_eq_ok_iff :
    readRest subcommand ⟨before, none, operands, only⟩ [] = .ok scanned ↔
      (subcommand.needsOperand = true → operands ≠ []) ∧ scanned = ⟨before, operands⟩ := by
  have finished : readRest subcommand ⟨before, none, operands, only⟩ [] =
      if subcommand.needsOperand && operands.isEmpty then .error .missingRequiredArgument
      else .ok ⟨before, operands⟩ := by
    rw [readRest_nil]
    change ((if subcommand.needsOperand && operands.isEmpty then
      Except.error UsageError.missingRequiredArgument else .ok _) >>= _) = _
    split <;> rfl
  rw [finished]
  cases subcommand.needsOperand <;> cases operands <;> simp [eq_comm]

theorem readRest_operand :
    ((Progress.mk before none operands only).operand subcommand text >>= fun next =>
        readRest subcommand next words) = .ok scanned ↔
      subcommand.Admits (operands.length + 1) ∧
        readRest subcommand ⟨before, none, operands ++ [text], only⟩ words = .ok scanned := by
  rw [← takesOperand_iff]
  unfold operand
  dsimp only
  cases subcommand.takesOperand operands.length with
  | true => exact (and_iff_right rfl).symm
  | false => simp [bind, Except.bind]

/-- There is room for an operand and more behind it where there is room for it, and then for
the others. -/
theorem admits_cons :
    subcommand.Admits (operands.length + (text :: more).length) ↔
      subcommand.Admits (operands.length + 1) ∧
        subcommand.Admits ((operands ++ [text]).length + more.length) := by
  have length : operands.length + (text :: more).length =
      (operands ++ [text]).length + more.length := by
    simp only [List.length_cons, List.length_append, List.length_nil]
    omega
  rw [length]
  constructor
  · intro admits
    exact ⟨admits.mono (by simp), admits⟩
  · exact And.right

/-- Behind two dashes all words are operands. -/
theorem readRest_operandsOnly (within : subcommand.Admits operands.length) :
    readRest subcommand ⟨before, none, operands, true⟩ more = .ok scanned ↔
      subcommand.Admits (operands.length + more.length) ∧
        (subcommand.needsOperand = true → operands ++ more ≠ []) ∧
          scanned = ⟨before, operands ++ more⟩ := by
  induction more generalizing operands with
  | nil =>
      rw [readRest_nil_eq_ok_iff, List.append_nil]
      exact (and_iff_right within).symm
  | cons text more ih =>
      rw [readRest_cons]
      change ((Progress.mk before none operands true).operand subcommand text >>= _) = _ ↔ _
      rw [readRest_operand]
      have others := fun room : subcommand.Admits (operands.length + 1) =>
        @ih (operands ++ [text]) (by simpa using room)
      refine (and_congr_right others).trans ?_
      rw [List.append_assoc, admits_cons, and_assoc]
      rfl

/-- A line is accepted where its options have no faults and the number of its operands is right,
and what it spells is found in it. -/
theorem readRest_line (line : Line subcommand words occurrences more)
    (within : subcommand.Admits operands.length) :
    readRest subcommand (after before operands) words = .ok scanned ↔
      Faultless before occurrences ∧ subcommand.Admits (operands.length + more.length) ∧
        (subcommand.needsOperand = true → operands ++ more ≠ []) ∧
          scanned = ⟨before ++ occurrences, operands ++ more⟩ := by
  induction line generalizing before operands with
  | nil =>
      rw [after, readRest_nil_eq_ok_iff, List.append_nil, List.append_nil]
      exact ⟨fun read => ⟨trivial, within, read⟩, fun read => read.2.2⟩
  | escape more =>
      rw [readRest_cons]
      change readRest subcommand ⟨before, none, operands, true⟩ more = _ ↔ _
      rw [readRest_operandsOnly within, List.append_nil]
      exact (and_iff_right trivial).symm
  | @operand text words more occurrences plain others ih =>
      rw [readRest_form, ofText_plain plain]
      change ((Progress.mk before none operands false).operand subcommand text >>= _) = _ ↔ _
      rw [readRest_operand]
      have others := fun room : subcommand.Admits (operands.length + 1) =>
        @ih before (operands ++ [text]) (by simpa using room)
      refine (and_congr_right others).trans ?_
      rw [List.append_assoc, admits_cons, and_left_comm, and_assoc]
      rfl
  | options first others ih =>
      rw [readRest_spelled first, ih within, faultless_append, List.append_assoc, and_assoc]

end Lines

/-! ## Accepted words -/

section Accepted

variable {before : List Occurrence} {operands words : List String} {scanned : Scanned}

theorem exists_clusterSpells {letters : List Char}
    (read : (cluster subcommand (after before operands) letters >>= fun next =>
      readRest subcommand next words) = .ok scanned) :
    ∃ following rest occurrences, words = following ++ rest ∧
      ClusterSpells subcommand letters following occurrences := by
  induction letters generalizing before with
  | nil => exact ⟨[], words, [], rfl, .done⟩
  | cons letter letters ih =>
      cases found : subcommand.optionOfLetter? letter with
      | none =>
          simp only [cluster, found] at read
          cases read
      | some option =>
          obtain ⟨known, lettered⟩ := optionOfLetter?_eq_some_iff.mp found
          cases valued : option.takesValue with
          | false =>
              simp only [cluster, found, valued, Bool.false_eq_true, ↓reduceIte,
                bind_assoc] at read
              have noHelp : option ≠ .help := by
                rintro rfl
                cases read
              obtain ⟨-, read⟩ := (readRest_raise noHelp).mp read
              obtain ⟨following, rest, occurrences, split, spelled⟩ := ih read
              exact ⟨following, rest, _, split, .flag known lettered valued noHelp spelled⟩
          | true =>
              simp only [cluster, found, valued, ↓reduceIte, List.isEmpty_iff] at read
              cases letters with
              | nil =>
                  obtain ⟨value, rest, split, taken⟩ := exists_value_of_readRest valued read
                  exact ⟨[value], rest, _, split, .apart known lettered valued taken⟩
              | cons next letters =>
                  by_cases marked : next = '='
                  · subst marked
                    exact ⟨[], words, _, rfl, .joined known lettered valued⟩
                  · have unmarked : (next :: letters).head? ≠ some '=' := by simpa using marked
                    exact ⟨[], words, _, rfl,
                      .attached known lettered valued (List.cons_ne_nil _ _) unmarked⟩

theorem exists_spells_of_long {name : String} {value : Option String}
    (read : ((after before operands).long subcommand name value >>= fun next =>
      readRest subcommand next words) = .ok scanned) :
    ∃ following rest occurrences, words = following ++ rest ∧
      Spells subcommand (longWord name value :: following) occurrences := by
  cases found : subcommand.optionOfLong? name with
  | none =>
      simp only [long, found] at read
      cases read
  | some option =>
      obtain ⟨known, named⟩ := optionOfLong?_eq_some_iff.mp found
      cases valued : option.takesValue with
      | true =>
          cases value with
          | some value => exact ⟨[], words, _, rfl, .joined known named valued⟩
          | none =>
              simp only [long, found, valued] at read
              obtain ⟨value, rest, split, taken⟩ := exists_value_of_readRest valued read
              exact ⟨[value], rest, _, split, .apart known named valued taken⟩
      | false =>
          cases value with
          | some value =>
              simp only [long, found, valued] at read
              cases read
          | none =>
              simp only [long, found, valued] at read
              have noHelp : option ≠ .help := by
                rintro rfl
                cases read
              exact ⟨[], words, _, rfl, .flag known named valued noHelp⟩

/-- The words that are left begin with two dashes, an operand or spelled options. -/
theorem exists_spelled {text : String}
    (read : readRest subcommand (after before operands) (text :: words) = .ok scanned) :
    text = "--" ∨ IsPlain text ∨ ∃ following rest occurrences,
      words = following ++ rest ∧ Spells subcommand (text :: following) occurrences := by
  rcases word_cases text with
    rfl | ⟨chars, given, rfl⟩ | ⟨letter, letters, noDash, rfl⟩ | plain
  · exact Or.inl rfl
  · refine Or.inr (Or.inr ?_)
    rw [readRest_form, ofText_long given] at read
    rw [ofList_eq_longWord rfl]
    exact exists_spells_of_long read
  · refine Or.inr (Or.inr ?_)
    rw [readRest_form, ofText_cluster noDash] at read
    obtain ⟨following, rest, occurrences, split, spelled⟩ := exists_clusterSpells read
    exact ⟨following, rest, occurrences, split, .cluster (List.cons_ne_nil _ _) spelled⟩
  · exact Or.inr (Or.inl plain)

/-- Accepted words are a line. -/
theorem exists_line
    (read : readRest subcommand (after before operands) words = .ok scanned) :
    ∃ occurrences more, Line subcommand words occurrences more := by
  -- A piece may be several words long, so the induction is on the number of words.
  induction length : words.length using Nat.strongRecOn generalizing before operands words with
  | ind count ih =>
      cases words with
      | nil => exact ⟨[], [], .nil⟩
      | cons text words =>
          rcases exists_spelled read with
            rfl | plain | ⟨following, rest, occurrences, rfl, spelled⟩
          · exact ⟨[], words, .escape words⟩
          · rw [readRest_form, ofText_plain plain] at read
            have others : readRest subcommand (after before (operands ++ [text])) words =
                .ok scanned := (readRest_operand.mp read).2
            have shorter : words.length < count := by
              rw [← length, List.length_cons]
              omega
            obtain ⟨occurrences, more, line⟩ := ih words.length shorter others rfl
            exact ⟨occurrences, text :: more, .operand plain line⟩
          · rw [← List.cons_append] at read
            obtain ⟨-, read⟩ := (readRest_spelled spelled).mp read
            have shorter : rest.length < count := by
              rw [← length, List.length_cons, List.length_append]
              omega
            obtain ⟨later, more, line⟩ := ih rest.length shorter read rfl
            exact ⟨occurrences ++ later, more, .options spelled line⟩

end Accepted

end Progress

/-- **The scanner accepts the grammar.** Words are accepted, and found to give some options and
operands, exactly where they are a line of these, no option has a fault behind those before it
and the number of operands is right. -/
theorem scan_eq_ok_iff {words : List String} {scanned : Scanned} :
    scan subcommand words = .ok scanned ↔
      Line subcommand words scanned.occurrences scanned.operands ∧
        Progress.Faultless [] scanned.occurrences ∧
          subcommand.Admits scanned.operands.length ∧
            (subcommand.needsOperand = true → scanned.operands ≠ []) := by
  change Progress.readRest subcommand (Progress.after [] []) words = .ok scanned ↔ _
  have within : subcommand.Admits ([] : List String).length := fun _ _ => Nat.zero_le _
  constructor
  · intro read
    obtain ⟨occurrences, operands, line⟩ := Progress.exists_line read
    obtain ⟨faultless, admits, given, rfl⟩ := (Progress.readRest_line line within).mp read
    refine ⟨line, faultless, ?_, given⟩
    simpa using admits
  · rintro ⟨line, faultless, admits, given⟩
    refine (Progress.readRest_line line within).mpr ⟨faultless, ?_, given, rfl⟩
    simpa using admits

/-- Accepted words are a line of one kind only. -/
theorem Line.unique {words operands : List String} {occurrences : List Occurrence}
    {scanned : Scanned} (line : Line subcommand words occurrences operands)
    (accepted : scan subcommand words = .ok scanned) : scanned = ⟨occurrences, operands⟩ := by
  have within : subcommand.Admits ([] : List String).length := fun _ _ => Nat.zero_le _
  obtain ⟨-, -, -, found⟩ := (Progress.readRest_line line within).mp accepted
  exact found

end AbiProbe.CommandLine
