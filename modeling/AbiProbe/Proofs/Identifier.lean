import AbiProbe.Identifier

/-! # Spellings determine their names

The spelling of a C identifier is the identifier itself or a raw identifier, and it is spelled
with the characters of identifiers and the mark of raw ones, so two names never share a spelling
(`AbiProbe.Identifier.rustSpelling?_injective`). The names with a spelling have the form of
identifiers (`AbiProbe.Identifier.isSome_rustSpelling?_iff`), the raw ones are the keywords
(`AbiProbe.Identifier.spelled_cases`), and without its mark a spelling is its name.
-/

namespace AbiProbe.Identifier

/-- A name is spelled when it is an identifier with a spelling: as a raw identifier if it is a
keyword, as itself otherwise. -/
theorem rustSpelling?_eq_some_iff {name spelling : String} :
    rustSpelling? name = some spelling ↔
      isIdentifier name = true ∧ name ∉ unspellable ∧
        spelling = if name ∈ rustKeywords then rawMark ++ name else name := by
  unfold rustSpelling?
  by_cases identifier : isIdentifier name = true
  · by_cases refused : name ∈ unspellable
    · simp [refused]
    · by_cases keyword : name ∈ rustKeywords
      · simp [identifier, refused, keyword, eq_comm]
      · simp [identifier, refused, keyword, eq_comm]
  · simp [identifier]

theorem isPart_of_isStart {c : Char} (start : isStart c = true) : isPart c = true := by
  simp only [isStart, isPart, Char.isAlphanum, Bool.or_eq_true] at start ⊢
  exact start.imp_left Or.inl

/-- An identifier holds letters, digits and underscores only. -/
theorem isPart_of_mem {name : String} (identifier : isIdentifier name = true) {c : Char}
    (member : c ∈ name.toList) : isPart c = true := by
  unfold isIdentifier at identifier
  split at identifier
  · exact absurd identifier (by decide)
  · rename_i first rest chars
    rw [Bool.and_eq_true] at identifier
    rw [chars, List.mem_cons] at member
    rcases member with rfl | later
    · exact isPart_of_isStart identifier.1
    · exact List.all_eq_true.mp identifier.2 c later

/-- A spelling holds the characters of identifiers and the mark of raw ones. -/
theorem isPart_or_mark_of_mem_spelling {name spelling : String}
    (spelled : rustSpelling? name = some spelling) {c : Char} (member : c ∈ spelling.toList) :
    isPart c = true ∨ c = '#' := by
  obtain ⟨identifier, -, rfl⟩ := rustSpelling?_eq_some_iff.mp spelled
  split at member
  · rw [String.toList_append, List.mem_append] at member
    rcases member with mark | member
    · have marks : c = 'r' ∨ c = '#' := by simpa [rawMark] using mark
      rcases marks with rfl | rfl
      · exact Or.inl (by decide)
      · exact Or.inr rfl
    · exact Or.inl (isPart_of_mem identifier member)
  · exact Or.inl (isPart_of_mem identifier member)

/-- A raw identifier is no identifier. -/
theorem rawMark_append_ne {name other : String} (identifier : isIdentifier other = true) :
    rawMark ++ name ≠ other := by
  rintro rfl
  have mark : isPart '#' = true := isPart_of_mem identifier (by simp [rawMark])
  exact absurd mark (by decide)

/-- Two names never share a spelling. -/
theorem rustSpelling?_injective {first second spelling : String}
    (spelled : rustSpelling? first = some spelling)
    (also : rustSpelling? second = some spelling) : first = second := by
  obtain ⟨firstIs, -, rfl⟩ := rustSpelling?_eq_some_iff.mp spelled
  obtain ⟨secondIs, -, same⟩ := rustSpelling?_eq_some_iff.mp also
  split at same <;> split at same
  · rwa [String.append_right_inj] at same
  · exact (rawMark_append_ne secondIs same).elim
  · exact (rawMark_append_ne firstIs same.symm).elim
  · exact same

/-! ## Form -/

/-- A letter of ASCII, or an underscore. -/
def Letter (c : Char) : Prop :=
  ('A' ≤ c ∧ c ≤ 'Z') ∨ ('a' ≤ c ∧ c ≤ 'z') ∨ c = '_'

/-- A digit of ASCII. -/
def Digit (c : Char) : Prop :=
  '0' ≤ c ∧ c ≤ '9'

/-- A text of the form `[A-Za-z_][A-Za-z0-9_]*`. -/
def IsName (text : String) : Prop :=
  ∃ first rest, text.toList = first :: rest ∧ Letter first ∧ ∀ c ∈ rest, Letter c ∨ Digit c

theorem isAlpha_iff {c : Char} :
    c.isAlpha = true ↔ ('A' ≤ c ∧ c ≤ 'Z') ∨ ('a' ≤ c ∧ c ≤ 'z') := by
  have upper : c.isUpper = true ↔ 'A' ≤ c ∧ c ≤ 'Z' := decide_eq_true_iff
  have lower : c.isLower = true ↔ 'a' ≤ c ∧ c ≤ 'z' :=
    (Bool.and_eq_true_iff).trans (and_congr decide_eq_true_iff decide_eq_true_iff)
  exact (Bool.or_eq_true_iff).trans (or_congr upper lower)

theorem isDigit_iff {c : Char} : c.isDigit = true ↔ Digit c :=
  (Bool.and_eq_true_iff).trans (and_congr decide_eq_true_iff decide_eq_true_iff)

theorem isStart_iff {c : Char} : isStart c = true ↔ Letter c := by
  rw [isStart, Bool.or_eq_true, decide_eq_true_eq, isAlpha_iff, or_assoc, Letter]

theorem isPart_iff {c : Char} : isPart c = true ↔ Letter c ∨ Digit c := by
  have alphanum : c.isAlphanum = true ↔ c.isAlpha = true ∨ c.isDigit = true := Bool.or_eq_true_iff
  rw [← isStart_iff, ← isDigit_iff, isPart, isStart, Bool.or_eq_true, Bool.or_eq_true, alphanum,
    or_right_comm]

theorem isIdentifier_iff {name : String} : isIdentifier name = true ↔ IsName name := by
  unfold isIdentifier IsName
  split
  · rename_i empty
    simp [empty]
  · rename_i first rest chars
    simp only [chars, Bool.and_eq_true, List.all_eq_true, isStart_iff, isPart_iff]
    constructor
    · rintro ⟨start, parts⟩
      exact ⟨first, rest, rfl, start, parts⟩
    · rintro ⟨_, _, same, start, parts⟩
      obtain ⟨rfl, rfl⟩ := List.cons.inj same
      exact ⟨start, parts⟩

/-! ## Keywords -/

/-- The strict keywords of the 2024 edition, which are used by its grammar. -/
def strictKeywords : List String :=
  ["as", "async", "await", "break", "const", "continue", "crate", "dyn", "else", "enum", "extern",
    "false", "fn", "for", "if", "impl", "in", "let", "loop", "match", "mod", "move", "mut", "pub",
    "ref", "return", "self", "Self", "static", "struct", "super", "trait", "true", "type",
    "unsafe", "use", "where", "while"]

/-- The reserved keywords of the 2024 edition, which its grammar does not use yet. -/
def reservedKeywords : List String :=
  ["abstract", "become", "box", "do", "final", "gen", "macro", "override", "priv", "try",
    "typeof", "unsized", "virtual", "yield"]

/-- A strict or reserved keyword of the 2024 edition. -/
def IsKeyword (name : String) : Prop :=
  name ∈ strictKeywords ∨ name ∈ reservedKeywords

theorem perm_rustKeywords : rustKeywords.Perm (strictKeywords ++ reservedKeywords) := by
  decide +kernel

theorem mem_rustKeywords_iff {name : String} : name ∈ rustKeywords ↔ IsKeyword name := by
  rw [perm_rustKeywords.mem_iff, List.mem_append, IsKeyword]

/-! ## Marks -/

/-- A spelling without the mark of a raw identifier, where it begins with one. -/
def withoutMark (spelling : String) : String :=
  match spelling.toList with
  | 'r' :: '#' :: name => String.ofList name
  | _ => spelling

theorem withoutMark_rawMark_append (name : String) : withoutMark (rawMark ++ name) = name := by
  simp [withoutMark, rawMark]

/-- An identifier has no mark to lose. -/
theorem withoutMark_of_isIdentifier {name : String} (identifier : isIdentifier name = true) :
    withoutMark name = name := by
  unfold withoutMark
  split
  · rename_i rest chars
    have mark : isPart '#' = true := isPart_of_mem identifier (by simp [chars])
    exact absurd mark (by decide)
  · rfl

/-- Without its mark a spelling is the spelled name. -/
theorem withoutMark_of_spelled {name spelling : String}
    (spelled : rustSpelling? name = some spelling) : withoutMark spelling = name := by
  obtain ⟨identifier, -, rfl⟩ := rustSpelling?_eq_some_iff.mp spelled
  split
  · exact withoutMark_rawMark_append name
  · exact withoutMark_of_isIdentifier identifier

/-! ## Spelled names -/

/-- The names with a spelling are those of the form of an identifier, but for a handful. -/
theorem isSome_rustSpelling?_iff (name : String) :
    (rustSpelling? name).isSome ↔ IsName name ∧ name ∉ unspellable := by
  rw [Option.isSome_iff_exists]
  simp only [rustSpelling?_eq_some_iff, exists_and_left, exists_eq, and_true, isIdentifier_iff]

/-- A name is spelled as it is unless it is a keyword, and a keyword behind the mark. -/
theorem spelled_cases {name spelling : String} (spelled : rustSpelling? name = some spelling) :
    (spelling = name ∧ ¬IsKeyword name) ∨ (spelling = rawMark ++ name ∧ IsKeyword name) := by
  obtain ⟨-, -, rfl⟩ := rustSpelling?_eq_some_iff.mp spelled
  rw [← mem_rustKeywords_iff]
  split
  · rename_i keyword
    exact Or.inr ⟨rfl, keyword⟩
  · rename_i plain
    exact Or.inl ⟨rfl, plain⟩

end AbiProbe.Identifier
