import AbiProbe.Proofs.Json.Reading

/-! # Reading a text as a JSON document

A text is read as a document whatever it describes (`AbiProbe.Json.Document.ofText`). The members of
an object stay in the order of the text, and integers of 64 bits are exact. A value whose integers
fit is read back from all its texts (`AbiProbe.Json.Value.Within.recovers`).
-/

namespace AbiProbe.Json

/-- A JSON document. -/
inductive Document
  | null
  | boolean (value : Bool)
  | integer (value : Int)
  | real (value : Float)
  | text (value : String)
  | array (elements : List Document)
  | object (members : List (String × Document))

namespace Document

/-- The document of a number that was read. -/
def ofNumber : Number → Document
  | .unsigned value => integer value.toNat
  | .negative value => integer value.toInt
  | .real value => real value

/-- Reads a member behind the members met so far. -/
def member (read : Reader Document) (met : List (String × Document)) (key : String)
    (input : List Char) : Except Error (List (String × Document) × List Char) := do
  let rest ← colon input
  let (value, rest) ← read rest
  return (met ++ [(key, value)], rest)

/-- Reads a document in which fewer than `depth` parts are nested in each other. -/
def read (depth : Nat) (input : List Char) : Except Error (Document × List Char) :=
  match depth with
  | 0 => .error .endInValue
  | depth + 1 =>
      match skipBlanks input with
      | [] => .error .endInValue
      | 'n' :: rest => do return (null, ← keywordRest "ull".toList rest)
      | 't' :: rest => do return (boolean true, ← keywordRest "rue".toList rest)
      | 'f' :: rest => do return (boolean false, ← keywordRest "alse".toList rest)
      | '-' :: rest => do
          let (number, rest) ← Number.read true rest
          return (ofNumber number, rest)
      | '"' :: rest => do
          let (content, rest) ← stringRest rest
          return (text (String.ofList content), rest)
      | '[' :: rest => do
          let (parts, rest) ← elements (read depth) (rest.length + 1) true rest
          return (array parts, ← endArray rest)
      | '{' :: rest => do
          let (parts, rest) ← members (member (read depth)) (rest.length + 1) true [] rest
          return (object parts, ← endObject rest)
      | c :: rest =>
          if c.isDigit then do
            let (number, rest) ← Number.read false (c :: rest)
            return (ofNumber number, rest)
          else .error .valueExpected

/-- The document of a text. No text nests as many parts as it has characters. -/
def ofText (text : String) : Except Error Document :=
  document (read (text.length + 1)) text

end Document

/-- The document of a value. -/
def Value.document : Value → Document
  | null => .null
  | boolean value => .boolean value
  | integer value => .integer value
  | text value => .text value
  | array values => .array (values.map document)
  | object entries => .object (entries.map fun entry => (entry.1, entry.2.document))
decreasing_by
  · have smaller := List.sizeOf_lt_of_mem ‹_ ∈ values›
    simp only [array.sizeOf_spec]
    omega
  · have smaller := List.sizeOf_lt_of_mem ‹_ ∈ entries›
    simp only [object.sizeOf_spec]
    cases entry
    simp only [Prod.mk.sizeOf_spec] at smaller ⊢
    omega

/-- Fewer than `depth` parts of a value are nested in each other, and its integers fit 64 bits. -/
inductive Value.Within : Nat → Value → Prop
  | null {depth : Nat} : Within (depth + 1) null
  | boolean {depth : Nat} (value : Bool) : Within (depth + 1) (boolean value)
  | integer {depth : Nat} {value : Int} (least : Int64.minValue.toInt ≤ value)
      (bound : value < UInt64.size) : Within (depth + 1) (integer value)
  | text {depth : Nat} (value : String) : Within (depth + 1) (text value)
  | array {depth : Nat} {values : List Value} (parts : ∀ value ∈ values, Within depth value) :
      Within (depth + 1) (array values)
  | object {depth : Nat} {entries : List (String × Value)}
      (parts : ∀ entry ∈ entries, Within depth entry.2) : Within (depth + 1) (object entries)

/-! ## Values that are read back -/

namespace Document

theorem ofNumber_of_negative {value : Int} (negative : value < 0)
    (least : Int64.minValue.toInt ≤ value) :
    ofNumber (integerNumber true value.natAbs) = integer value := by
  rw [Int64.toInt_minValue] at least
  have magnitude : 0 < value.natAbs ∧ value.natAbs ≤ Nat.pow 2 63 := by
    change 0 < value.natAbs ∧ value.natAbs ≤ 2 ^ 63
    omega
  have same : (-value.natAbs : Int) = value := by omega
  rw [integerNumber, if_neg (by simp), if_pos magnitude, same, ofNumber,
    Int64.toInt_ofInt_of_le least (by omega)]

theorem ofNumber_of_nonneg {value : Int} (nonneg : 0 ≤ value) (bound : value < UInt64.size) :
    ofNumber (integerNumber false value.natAbs) = integer value := by
  have magnitude : value.natAbs < UInt64.size := by omega
  have same : (value.natAbs : Int) = value := by omega
  change integer (UInt64.ofNat value.natAbs).toNat = integer value
  rw [UInt64.toNat_ofNat_of_lt' magnitude, same]

theorem recovers_integer (depth : Nat) {value : Int} (least : Int64.minValue.toInt ≤ value)
    (bound : value < UInt64.size) :
    Recovers (read (depth + 1)) (.integer value) (.integer value) := by
  intro gap content rest blank spelled follows
  have magnitude : value.natAbs < UInt64.size := by
    have lowest : Int64.minValue.toInt = -2 ^ 63 := Int64.toInt_minValue
    have size : UInt64.size = 2 ^ 64 := rfl
    omega
  rw [read, spelled.skipBlanks_eq blank]
  cases spelled
  unfold Text.Decimal.ofInt
  by_cases negative : value < 0
  · have numbered := read_digits true magnitude follows
    rw [if_pos negative, String.toList_ofList, List.cons_append]
    simp only [numbered, ofNumber_of_negative negative least, bind, Except.bind]
    rfl
  · have numbered := read_digits false magnitude follows
    rw [if_neg negative, String.toList_ofList]
    obtain ⟨c, more, split⟩ :=
      List.exists_cons_of_ne_nil (Text.Decimal.digits_ne_nil value.natAbs)
    have digit : c.isDigit = true := Text.Decimal.isDigit_of_mem_digits (split ▸ List.mem_cons_self)
    rw [split, List.cons_append] at numbered ⊢
    -- A digit opens no other value, so the reader comes to its last case.
    split
    case h_9 same =>
      obtain ⟨rfl, rfl⟩ := List.cons.inj same
      rw [if_pos digit]
      simp only [numbered, ofNumber_of_nonneg (Int.not_lt.mp negative) bound, bind, Except.bind]
      rfl
    case h_1 same => cases same
    all_goals
      rename_i same
      obtain ⟨rfl, -⟩ := List.cons.inj same
      cases digit

theorem recovers_text (depth : Nat) (value : String) :
    Recovers (read (depth + 1)) (.text value) (.text value) := by
  intro gap content rest blank spelled follows
  rw [read, spelled.skipBlanks_eq blank]
  cases spelled with
  | text chars =>
      rw [quoted, List.cons_append, List.append_assoc, List.singleton_append]
      simp only [stringRest_spelled chars, bind, Except.bind, String.ofList_toList]
      rfl

theorem recovers_array {depth : Nat} {values : List Value} {documents : List Document}
    (reads : List.Forall₂ (Recovers (read depth)) values documents) :
    Recovers (read (depth + 1)) (.array values) (.array documents) := by
  intro gap text rest blank spelled follows
  rw [read, spelled.skipBlanks_eq blank]
  cases spelled with
  | array parts =>
      obtain ⟨ending, collected, ended⟩ := elements_of_array reads parts rest
      rw [List.cons_append]
      simp only [collected, ended, bind, Except.bind]
      rfl

/-- One step: a member is put behind those met before it. -/
theorem takesAs_member {read : Reader Document} {value : Value} {part : Document}
    (reads : Recovers read value part) (met : List (String × Document)) (name : String) :
    TakesAs (member read) met (name, value) (met ++ [(name, part)]) := by
  intro before after content rest blankBefore blankAfter spelled follows
  simp only [member, colon_gap blankBefore, reads blankAfter spelled follows, bind, Except.bind]
  rfl

/-- A run: the members of an object are met in their order. -/
theorem takes_members {read : Reader Document} {entries : List (String × Value)}
    (reads : ∀ entry ∈ entries, Recovers read entry.2 entry.2.document)
    (met : List (String × Document)) :
    Takes (member read) met entries
      (met ++ entries.map fun entry => (entry.1, entry.2.document)) := by
  induction entries generalizing met with
  | nil =>
      rw [List.map_nil, List.append_nil]
      exact .nil met
  | cons entry entries ih =>
      rw [List.forall_mem_cons] at reads
      have tail := ih reads.2 (met ++ [(entry.1, entry.2.document)])
      rw [List.append_assoc, List.singleton_append] at tail
      exact .cons (takesAs_member reads.1 met entry.1) tail

theorem recovers_object {depth : Nat} {entries : List (String × Value)}
    (reads : ∀ entry ∈ entries, Recovers (read depth) entry.2 entry.2.document) :
    Recovers (read (depth + 1)) (.object entries)
      (.object (entries.map fun entry => (entry.1, entry.2.document))) := by
  intro gap text rest blank spelled follows
  rw [read, spelled.skipBlanks_eq blank]
  cases spelled with
  | object parts =>
      obtain ⟨ending, collected, ended⟩ := members_of_object (takes_members reads []) parts rest
      rw [List.cons_append]
      simp only [collected, ended, bind, Except.bind]
      rfl

end Document

/-- A value is read back from every text that spells it. -/
theorem Value.Within.recovers {depth : Nat} {value : Value} (within : value.Within depth) :
    Recovers (Document.read depth) value value.document := by
  induction within with
  | null =>
      intro gap content rest blank spelled follows
      rw [Document.read, spelled.skipBlanks_eq blank, document]
      cases spelled
      rfl
  | boolean value =>
      intro gap content rest blank spelled follows
      rw [Document.read, spelled.skipBlanks_eq blank, document]
      cases spelled
      cases value <;> rfl
  | integer least bound =>
      rw [document]
      exact Document.recovers_integer _ least bound
  | text value =>
      rw [document]
      exact Document.recovers_text _ value
  | array parts ih =>
      rw [document]
      apply Document.recovers_array
      rw [List.forall₂_map_right_iff, List.forall₂_same]
      exact ih
  | object parts ih =>
      rw [document]
      exact Document.recovers_object ih

end AbiProbe.Json
