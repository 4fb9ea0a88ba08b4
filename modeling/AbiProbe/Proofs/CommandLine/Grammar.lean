import AbiProbe.CommandLine.Scan
import Mathlib.Data.List.TakeWhile

/-! # The grammar of command lines

A command line is a row of operands and of spelled options, behind which two dashes may turn all
that follows into operands (`AbiProbe.CommandLine.Line`). The scanner accepts the words that are
such a row and in which no option stands twice that may not, no path is empty and the number of
operands is right, and finds in them what they spell (`AbiProbe.CommandLine.scan_eq_ok_iff`).
-/

namespace AbiProbe.CommandLine

/-- A word that is no option by its form. -/
def IsPlain (text : String) : Prop :=
  text.toList.head? ≠ some '-' ∨ text = "-"

/-- A word that may stand behind an option as its value. -/
def OptionName.MayTake (option : OptionName) (value : String) : Prop :=
  option.takesAnyWord = true ∨ IsPlain value

/-- The options of a subcommand that a cluster of letters spells with the words behind it. -/
inductive ClusterSpells (subcommand : Subcommand) :
    List Char → List String → List Occurrence → Prop
  | done : ClusterSpells subcommand [] [] []
  | flag {letter : Char} {option : OptionName} {rest : List Char} {following : List String}
      {occurrences : List Occurrence} (known : option ∈ subcommand.options)
      (lettered : option.letter? = some letter) (bare : option.takesValue = false)
      (noHelp : option ≠ .help) (others : ClusterSpells subcommand rest following occurrences) :
      ClusterSpells subcommand (letter :: rest) following (⟨option, none⟩ :: occurrences)
  | attached {letter : Char} {option : OptionName} {value : List Char}
      (known : option ∈ subcommand.options) (lettered : option.letter? = some letter)
      (valued : option.takesValue = true) (given : value ≠ []) (unmarked : value.head? ≠ some '=') :
      ClusterSpells subcommand (letter :: value) [] [⟨option, some (String.ofList value)⟩]
  | joined {letter : Char} {option : OptionName} {value : List Char}
      (known : option ∈ subcommand.options) (lettered : option.letter? = some letter)
      (valued : option.takesValue = true) :
      ClusterSpells subcommand (letter :: '=' :: value) [] [⟨option, some (String.ofList value)⟩]
  | apart {letter : Char} {option : OptionName} {value : String}
      (known : option ∈ subcommand.options) (lettered : option.letter? = some letter)
      (valued : option.takesValue = true) (taken : option.MayTake value) :
      ClusterSpells subcommand [letter] [value] [⟨option, some value⟩]

/-- The options of a subcommand that some words spell: one by its long name, or several by their
letters. -/
inductive Spells (subcommand : Subcommand) : List String → List Occurrence → Prop
  | joined {option : OptionName} {name value : String} (known : option ∈ subcommand.options)
      (named : option.long? = some name) (valued : option.takesValue = true) :
      Spells subcommand ["--" ++ name ++ "=" ++ value] [⟨option, some value⟩]
  | apart {option : OptionName} {name value : String} (known : option ∈ subcommand.options)
      (named : option.long? = some name) (valued : option.takesValue = true)
      (taken : option.MayTake value) :
      Spells subcommand ["--" ++ name, value] [⟨option, some value⟩]
  | flag {option : OptionName} {name : String} (known : option ∈ subcommand.options)
      (named : option.long? = some name) (bare : option.takesValue = false)
      (noHelp : option ≠ .help) :
      Spells subcommand ["--" ++ name] [⟨option, none⟩]
  | cluster {letters : List Char} {following : List String} {occurrences : List Occurrence}
      (given : letters ≠ []) (spelled : ClusterSpells subcommand letters following occurrences) :
      Spells subcommand (String.ofList ('-' :: letters) :: following) occurrences

/-- The options and operands that the words after a subcommand spell. -/
inductive Line (subcommand : Subcommand) :
    List String → List Occurrence → List String → Prop
  | nil : Line subcommand [] [] []
  | escape (operands : List String) : Line subcommand ("--" :: operands) [] operands
  | operand {text : String} {words operands : List String} {occurrences : List Occurrence}
      (plain : IsPlain text) (others : Line subcommand words occurrences operands) :
      Line subcommand (text :: words) occurrences (text :: operands)
  | options {spelled words operands : List String} {occurrences later : List Occurrence}
      (first : Spells subcommand spelled occurrences)
      (others : Line subcommand words later operands) :
      Line subcommand (spelled ++ words) (occurrences ++ later) operands

/-! ## Names of options -/

theorem equals_notMem_of_long? {option : OptionName} {name : String}
    (named : option.long? = some name) : '=' ∉ name.toList := by
  cases option <;> cases named <;> decide

theorem long?_ne_empty {option : OptionName} {name : String}
    (named : option.long? = some name) : name.toList ≠ [] := by
  cases option <;> cases named <;> decide

theorem letter?_ne_dash {option : OptionName} : option.letter? ≠ some '-' := by
  cases option <;> decide

theorem optionOfLong?_eq_some_iff {subcommand : Subcommand} {option : OptionName}
    {name : String} :
    subcommand.optionOfLong? name = some option ↔
      option ∈ subcommand.options ∧ option.long? = some name := by
  constructor
  · intro found
    have holds := List.find?_some found
    exact ⟨List.mem_of_find?_eq_some found, by simpa using holds⟩
  · rintro ⟨known, named⟩
    revert known
    cases option <;> cases named <;> cases subcommand <;> decide

theorem optionOfLetter?_eq_some_iff {subcommand : Subcommand} {option : OptionName}
    {letter : Char} :
    subcommand.optionOfLetter? letter = some option ↔
      option ∈ subcommand.options ∧ option.letter? = some letter := by
  constructor
  · intro found
    have holds := List.find?_some found
    exact ⟨List.mem_of_find?_eq_some found, by simpa using holds⟩
  · rintro ⟨known, lettered⟩
    revert known
    cases option <;> cases lettered <;> cases subcommand <;> decide

/-! ## Forms of words -/

theorem splitAtEquals_append {name : String} (absent : '=' ∉ name.toList) (value : String) :
    splitAtEquals (name.toList ++ '=' :: value.toList) = (name, some value) := by
  have passes : ∀ c ∈ name.toList, decide (c ≠ '=') = true := by
    intro c member
    exact decide_eq_true fun same => absent (same ▸ member)
  unfold splitAtEquals
  rw [List.takeWhile_append_of_pos passes, List.dropWhile_append_of_pos passes]
  simp

theorem splitAtEquals_of_notMem {name : String} (absent : '=' ∉ name.toList) :
    splitAtEquals name.toList = (name, none) := by
  have passes : ∀ c ∈ name.toList, decide (c ≠ '=') = true := by
    intro c member
    exact decide_eq_true fun same => absent (same ▸ member)
  unfold splitAtEquals
  rw [List.takeWhile_eq_self_iff.mpr passes, List.dropWhile_eq_nil_iff.mpr passes]
  simp

/-- A text is put together again from what an equals sign splits it into. -/
theorem eq_of_splitAtEquals {text : List Char} {name : String} {value : Option String}
    (split : splitAtEquals text = (name, value)) :
    text = name.toList ++ (value.map fun value => '=' :: value.toList).getD [] := by
  obtain ⟨rfl, rfl⟩ := Prod.mk.inj split
  have whole := List.takeWhile_append_dropWhile (p := fun c => decide (c ≠ '=')) (l := text)
  cases rest : text.dropWhile (fun c => decide (c ≠ '=')) with
  | nil =>
      rw [rest] at whole
      simpa using whole.symm
  | cons c value =>
      have marked : c = '=' := by
        have stops := List.head?_dropWhile_not (fun c => decide (c ≠ '=')) text
        rw [rest] at stops
        simpa using stops
      subst marked
      rw [rest] at whole
      simpa using whole.symm

theorem ofText_long {rest : List Char} (given : rest ≠ []) :
    Word.ofText (String.ofList ('-' :: '-' :: rest)) =
      .long (splitAtEquals rest).1 (splitAtEquals rest).2 := by
  obtain ⟨c, rest, rfl⟩ := List.exists_cons_of_ne_nil given
  simp only [Word.ofText, String.toList_ofList]

/-- The word of a long name, with a value behind an equals sign if one is given. -/
def longWord (name : String) : Option String → String
  | none => "--" ++ name
  | some value => "--" ++ name ++ "=" ++ value

theorem ofList_eq_longWord {text : List Char} {name : String} {value : Option String}
    (split : splitAtEquals text = (name, value)) :
    String.ofList ('-' :: '-' :: text) = longWord name value := by
  rw [eq_of_splitAtEquals split]
  cases value <;> simp [String.ext_iff, longWord]

theorem ofText_longWord {option : OptionName} {name : String} (named : option.long? = some name)
    (value : Option String) : Word.ofText (longWord name value) = .long name value := by
  have absent := equals_notMem_of_long? named
  cases value with
  | none =>
      have split := splitAtEquals_of_notMem absent
      rw [← ofList_eq_longWord split, ofText_long (long?_ne_empty named), split]
  | some value =>
      have split := splitAtEquals_append absent value
      rw [← ofList_eq_longWord split, ofText_long (by simp), split]

theorem ofText_cluster {letter : Char} (noDash : letter ≠ '-') (letters : List Char) :
    Word.ofText (String.ofList ('-' :: letter :: letters)) = .cluster (letter :: letters) := by
  unfold Word.ofText
  rw [String.toList_ofList]
  split
  · rename_i same
    cases same
    exact absurd rfl noDash
  · rename_i same
    cases same
    exact absurd rfl noDash
  · rename_i same
    cases same
    rfl
  · rename_i other
    exact absurd rfl (other letter letters)

theorem ofText_plain {text : String} (plain : IsPlain text) : Word.ofText text = .plain text := by
  unfold Word.ofText
  rcases plain with undashed | rfl
  · split
    · simp_all
    · simp_all
    · simp_all
    · rfl
  · rfl

/-- A word is two dashes, a long name, a cluster of letters or plain. -/
theorem word_cases (text : String) :
    text = "--" ∨ (∃ rest ≠ [], text = String.ofList ('-' :: '-' :: rest)) ∨
      (∃ letter letters, letter ≠ '-' ∧ text = String.ofList ('-' :: letter :: letters)) ∨
      IsPlain text := by
  cases chars : text.toList with
  | nil => exact Or.inr (Or.inr (Or.inr (Or.inl (by simp [chars]))))
  | cons c rest =>
      have whole : text = String.ofList (c :: rest) := by rw [← chars, String.ofList_toList]
      by_cases dash : c = '-'
      · subst dash
        cases rest with
        | nil => exact Or.inr (Or.inr (Or.inr (Or.inr whole)))
        | cons letter letters =>
            by_cases second : letter = '-'
            · subst second
              by_cases ended : letters = []
              · subst ended
                exact Or.inl whole
              · exact Or.inr (Or.inl ⟨letters, ended, whole⟩)
            · exact Or.inr (Or.inr (Or.inl ⟨letter, letters, second, whole⟩))
      · exact Or.inr (Or.inr (Or.inr (Or.inl (by simpa [chars] using dash))))

end AbiProbe.CommandLine
