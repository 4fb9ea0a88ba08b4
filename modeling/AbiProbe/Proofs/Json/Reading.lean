import AbiProbe.Json.Reader
import AbiProbe.Proofs.Json.Spelling
import AbiProbe.Proofs.Outcome
import Mathlib.Data.List.Forall2

/-! # Reading what was written

A reader recovers an answer from a value if it gives the answer on every text that spells the value,
whatever stands in front of the text and behind it (`AbiProbe.Json.Recovers`). An array is then read
element by element (`AbiProbe.Json.Recovers.array`), an object member by member, with the members
as steps from one state to another (`AbiProbe.Json.Takes.recovers_record`), and a whole document is
read off its value (`AbiProbe.Json.Recovers.document`).
-/

namespace AbiProbe.Json

variable {α σ : Type}

/-- A reader gives an answer on every text of a value and leaves what stands behind it. -/
def Recovers (read : Reader α) (value : Value) (answer : α) : Prop :=
  ∀ ⦃gap text rest : List Char⦄, IsGap gap → value.Spelled text → Follows rest →
    read (gap ++ (text ++ rest)) = .ok (answer, rest)

theorem isBlank_of_isDigit {c : Char} (digit : c.isDigit = true) : isBlank c = false := by
  simp only [isBlank, Bool.or_eq_false_iff, decide_eq_false_iff_not]
  refine ⟨⟨⟨?_, ?_⟩, ?_⟩, ?_⟩
  all_goals
    rintro rfl
    contradiction

/-- A text that spells a value begins with a token, which tells `null` and the end of an array
apart from the other values. -/
theorem Value.Spelled.exists_cons {value : Value} {text : List Char}
    (spelled : value.Spelled text) :
    ∃ c more, text = c :: more ∧ isBlank c = false ∧ c ≠ ']' ∧ (c = 'n' → value = .null) := by
  cases spelled with
  | null => exact ⟨'n', "ull".toList, rfl, rfl, by decide, fun _ => rfl⟩
  | boolean value =>
      cases value with
      | false => exact ⟨'f', "alse".toList, rfl, rfl, by decide, nofun⟩
      | true => exact ⟨'t', "rue".toList, rfl, rfl, by decide, nofun⟩
  | integer value =>
      obtain ⟨c, more, split⟩ := List.exists_cons_of_ne_nil (Text.Decimal.toList_ofInt_ne_nil value)
      have member : c ∈ (Text.Decimal.ofInt value).toList := split ▸ List.mem_cons_self
      rw [split]
      refine ⟨c, more, rfl, ?_⟩
      rcases Text.Decimal.isDigit_or_minus_of_mem_ofInt member with digit | rfl
      · refine ⟨isBlank_of_isDigit digit, ?_, ?_⟩
        all_goals
          rintro rfl
          contradiction
      · exact ⟨rfl, by decide, nofun⟩
  | text => exact ⟨'"', _, rfl, rfl, by decide, nofun⟩
  | array => exact ⟨'[', _, rfl, rfl, by decide, nofun⟩
  | object => exact ⟨'{', _, rfl, rfl, by decide, nofun⟩

theorem Value.Spelled.skipBlanks_eq {value : Value} {gap text : List Char}
    (spelled : value.Spelled text) (blank : IsGap gap) (rest : List Char) :
    skipBlanks (gap ++ (text ++ rest)) = text ++ rest := by
  obtain ⟨c, more, rfl, token, -, -⟩ := spelled.exists_cons
  rw [skipBlanks_gap blank, List.cons_append, skipBlanks_token token]

theorem follows_gap {gap rest : List Char} (blank : IsGap gap) (follows : Follows rest) :
    Follows (gap ++ rest) := by
  cases gap with
  | nil => exact follows
  | cons c gap => exact .cons (Or.inl (blank c List.mem_cons_self)) _

/-! ## Single values -/

theorem recovers_string (expected text : String) :
    Recovers (string expected) (.text text) text := by
  intro gap content rest blank spelled follows
  rw [string, spelled.skipBlanks_eq blank]
  cases spelled with
  | text chars =>
      rw [quoted, List.cons_append, List.append_assoc, List.singleton_append]
      simp only [stringRest_spelled chars, bind, Except.bind, String.ofList_toList]
      rfl

theorem recovers_unsigned (expected : String) (value : UInt64) :
    Recovers (unsigned expected) (.integer value.toNat) value := by
  intro gap content rest blank spelled follows
  have numbered := read_digits false value.toNat_lt_size follows
  rw [unsigned, spelled.skipBlanks_eq blank]
  cases spelled
  rw [← Text.Decimal.ofNat_eq_ofInt, Text.Decimal.ofNat, String.toList_ofList]
  obtain ⟨c, more, split⟩ := List.exists_cons_of_ne_nil (Text.Decimal.digits_ne_nil value.toNat)
  have digit : c.isDigit = true := Text.Decimal.isDigit_of_mem_digits (split ▸ List.mem_cons_self)
  rw [split, List.cons_append] at numbered ⊢
  split
  · cases ‹_›
  · rename_i same
    obtain ⟨rfl, -⟩ := List.cons.inj same
    cases digit
  · rename_i same
    obtain ⟨rfl, rfl⟩ := List.cons.inj same
    have number : integerNumber false value.toNat = .unsigned value :=
      congrArg Number.unsigned UInt64.ofNat_toNat
    rw [if_pos digit, numbered, number]
    rfl

theorem Recovers.optional {read : Reader α} {value : Value} {answer : α}
    (reads : Recovers read value answer) (given : value ≠ .null) :
    Recovers (optional read) value (some answer) := by
  intro gap content rest blank spelled follows
  have answered := reads isGap_nil spelled follows
  rw [Json.optional, spelled.skipBlanks_eq blank]
  obtain ⟨c, more, rfl, -, -, null⟩ := spelled.exists_cons
  rw [List.nil_append, List.cons_append] at answered
  rw [List.cons_append]
  split
  · cases ‹_›
  · rename_i same
    obtain ⟨rfl, -⟩ := List.cons.inj same
    exact absurd (null rfl) given
  · rw [answered]
    rfl

/-- What may be none, as a value. -/
def Value.ofOption (write : α → Value) : Option α → Value
  | none => .null
  | some part => write part

theorem recovers_null (read : Reader α) : Recovers (Json.optional read) .null none := by
  intro gap content rest blank spelled follows
  rw [Json.optional, spelled.skipBlanks_eq blank]
  cases spelled
  rfl

theorem Recovers.ofOption {read : Reader α} {write : α → Value}
    (reads : ∀ part, Recovers read (write part) part) (given : ∀ part, write part ≠ .null)
    (part : Option α) : Recovers (Json.optional read) (Value.ofOption write part) part := by
  cases part with
  | none => exact recovers_null read
  | some part => exact (reads part).optional (given part)

theorem recovers_variant {names : List String} {ofName? : String → Option α} {name : String}
    {variant : α} (named : ofName? name = some variant) :
    Recovers (Json.variant names ofName?) (.text name) variant := by
  intro gap content rest blank spelled follows
  have answered := recovers_string "variant identifier" name isGap_nil spelled follows
  rw [Json.variant, spelled.skipBlanks_eq blank]
  cases spelled
  simp only [List.nil_append, quoted, List.cons_append] at answered ⊢
  simp only [variantName, answered, bind, Except.bind, named]
  rfl

/-! ## Arrays -/

theorem nextElement_ending {gap : List Char} (blank : IsGap gap) (first : Bool)
    (rest : List Char) : nextElement first (gap ++ ']' :: rest) = .ok none := by
  rw [nextElement, skipBlanks_gap blank, skipBlanks_token rfl]
  rfl

theorem nextElement_separated {first : Bool} {separator content : List Char} {value : Value}
    (separates : Separates first separator) (spelled : value.Spelled content)
    (rest : List Char) :
    nextElement first (separator ++ (content ++ rest)) = .ok (some (content ++ rest)) := by
  cases separates with
  | first blank =>
      rw [nextElement, spelled.skipBlanks_eq blank]
      obtain ⟨c, more, rfl, -, bracket, -⟩ := spelled.exists_cons
      simp only [List.cons_append, ↓reduceIte]
  | @next behind gap blankBehind blank =>
      have found := spelled.skipBlanks_eq blank rest
      obtain ⟨c, more, rfl, -, bracket, -⟩ := spelled.exists_cons
      rw [nextElement, List.append_assoc, List.cons_append, skipBlanks_gap blankBehind,
        skipBlanks_token rfl]
      split
      · cases ‹_›
      · rename_i same
        cases (List.cons.inj same).1
      · rename_i same
        obtain ⟨rfl, rfl⟩ := List.cons.inj same
        rw [if_neg Bool.false_ne_true, if_pos rfl, found, List.cons_append]
        split
        · cases ‹_›
        · exact absurd (List.cons.inj ‹_›).1 bracket
        · rfl

theorem Value.SpelledElements.follows {values : List Value} {more : List Char}
    (spelled : SpelledElements false values more) (rest : List Char) : Follows (more ++ rest) := by
  cases spelled with
  | ending blank =>
      rw [List.append_assoc]
      exact follows_gap blank (.cons (by decide) rest)
  | element separates =>
      cases separates with
      | next blankBehind =>
          rw [List.append_assoc, List.append_assoc, List.cons_append]
          exact follows_gap blankBehind (.cons (by decide) _)

theorem Value.SpelledElements.length_lt {first : Bool} {values : List Value} {more : List Char}
    (spelled : SpelledElements first values more) : values.length < more.length := by
  induction values generalizing first more with
  | nil =>
      cases spelled
      simp
  | cons value values ih =>
      cases spelled with
      | element _ head tail =>
          have shorter := ih tail
          obtain ⟨c, content, rfl, -⟩ := head.exists_cons
          simp only [List.length_cons, List.length_append]
          omega

/-- One more element is read in front of those that follow it. -/
theorem elements_cons {read : Reader α} {first : Bool} {input content rest ending : List Char}
    {answer : α} {answers : List α} {fuel : Nat}
    (found : nextElement first input = .ok (some content))
    (answered : read content = .ok (answer, rest))
    (continued : elements read fuel false rest = .ok (answers, ending)) :
    elements read (fuel + 1) first input = .ok (answer :: answers, ending) := by
  simp only [elements, element?, found, answered, continued, bind, Except.bind, pure, Except.pure]

theorem elements_nil {read : Reader α} {first : Bool} {input : List Char}
    (found : nextElement first input = .ok none) (fuel : Nat) :
    elements read (fuel + 1) first input = .ok ([], input) := by
  rw [elements, element?, found]
  rfl

theorem endArray_gap {gap : List Char} (blank : IsGap gap) (rest : List Char) :
    endArray (gap ++ ']' :: rest) = .ok rest := by
  rw [endArray, skipBlanks_gap blank, skipBlanks_token rfl]
  rfl

theorem elements_spelled {read : Reader α} {values : List Value} {answers : List α}
    (reads : List.Forall₂ (Recovers read) values answers) {first : Bool} {more : List Char}
    (spelled : Value.SpelledElements first values more) (rest : List Char) {fuel : Nat}
    (enough : values.length < fuel) :
    ∃ ending, elements read fuel first (more ++ rest) = .ok (answers, ending) ∧
      endArray ending = .ok rest := by
  induction reads generalizing first more fuel with
  | nil =>
      obtain ⟨fuel, rfl⟩ := Nat.exists_eq_succ_of_ne_zero (Nat.ne_zero_of_lt enough)
      cases spelled with
      | ending blank =>
          rw [List.append_assoc, List.singleton_append]
          exact ⟨_, elements_nil (nextElement_ending blank first rest) fuel,
            endArray_gap blank rest⟩
  | cons head reads ih =>
      obtain ⟨fuel, rfl⟩ := Nat.exists_eq_succ_of_ne_zero (Nat.ne_zero_of_lt enough)
      cases spelled with
      | element separates element tail =>
          obtain ⟨ending, continued, ended⟩ := ih tail (Nat.lt_of_succ_lt_succ enough)
          have answered := head isGap_nil element (tail.follows rest)
          refine ⟨ending, ?_, ended⟩
          simp only [List.append_assoc]
          exact elements_cons (nextElement_separated separates element _) answered continued

/-- The elements of an array are read with as much fuel as the text is long. -/
theorem elements_of_array {read : Reader α} {values : List Value} {answers : List α}
    (reads : List.Forall₂ (Recovers read) values answers) {content : List Char}
    (spelled : Value.SpelledElements true values content) (rest : List Char) :
    ∃ ending, elements read ((content ++ rest).length + 1) true (content ++ rest) =
      .ok (answers, ending) ∧ endArray ending = .ok rest := by
  have shorter := spelled.length_lt
  apply elements_spelled reads spelled rest
  rw [List.length_append]
  omega

theorem Recovers.array {read : Reader α} {values : List Value} {answers : List α}
    (reads : List.Forall₂ (Recovers read) values answers) (expected : String) :
    Recovers (Json.array read expected) (.array values) answers := by
  intro gap text rest blank spelled follows
  rw [Json.array, spelled.skipBlanks_eq blank]
  cases spelled with
  | array elements =>
      obtain ⟨ending, collected, ended⟩ := elements_of_array reads elements rest
      rw [List.cons_append]
      simp only [collected, ended, bind, Except.bind]
      rfl

/-! ## Objects -/

/-- A reader of members takes a member from one state to another. -/
def TakesAs (member : σ → String → Reader σ) (state : σ) (entry : String × Value) (next : σ) :
    Prop :=
  ∀ ⦃before after content rest : List Char⦄, IsGap before → IsGap after →
    entry.2.Spelled content → Follows rest →
      member state entry.1 (before ++ ':' :: (after ++ (content ++ rest))) = .ok (next, rest)

/-- A reader of members takes members in order from one state to another. -/
inductive Takes (member : σ → String → Reader σ) : σ → List (String × Value) → σ → Prop
  | nil (state : σ) : Takes member state [] state
  | cons {state next final : σ} {entry : String × Value} {entries : List (String × Value)}
      (head : TakesAs member state entry next) (tail : Takes member next entries final) :
      Takes member state (entry :: entries) final

/-- The member that gives a part of a record, if the part is given. -/
def partMembers (name : String) (write : α → Value) (part : Option α) : List (String × Value) :=
  (part.map fun part => (name, write part)).toList

theorem mem_partMembers {name : String} {write : α → Value} {part : Option α}
    {entry : String × Value} :
    entry ∈ partMembers name write part ↔
      ∃ given, part = some given ∧ (name, write given) = entry := by
  rw [partMembers, Option.mem_toList, Option.map_eq_some_iff]

theorem keys_partMembers_sublist (name : String) (write : α → Value) (part : Option α) :
    ((partMembers name write part).map Prod.fst).Sublist [name] := by
  cases part with
  | none => exact List.nil_sublist _
  | some part => exact List.Sublist.refl _

theorem kept_part {keys : List String} {name : String} {write : α → Value} {part : Option α}
    (all : ∀ entry ∈ partMembers name write part, entry.1 ∈ keys) :
    (if name ∈ keys then part else none) = part := by
  cases part with
  | none => exact ite_self _
  | some part => exact if_pos (all (name, write part) List.mem_cons_self)

/-- A run: members of distinct keys are taken in any order, where the state tells which of them
were met. -/
theorem takes_of_steps {member : σ → String → Reader σ} {met : List String → σ}
    {given entries : List (String × Value)}
    (step : ∀ entry ∈ given, ∀ keys, entry.1 ∉ keys →
      TakesAs member (met keys) entry (met (entry.1 :: keys)))
    (among : ∀ entry ∈ entries, entry ∈ given) (distinct : (entries.map Prod.fst).Nodup)
    {keys : List String} (fresh : ∀ entry ∈ entries, entry.1 ∉ keys) :
    Takes member (met keys) entries (met ((entries.map Prod.fst).reverse ++ keys)) := by
  induction entries generalizing keys with
  | nil => exact .nil _
  | cons entry entries ih =>
      rw [List.map_cons, List.nodup_cons] at distinct
      obtain ⟨once, distinct⟩ := distinct
      rw [List.map_cons, List.reverse_cons, List.append_assoc, List.singleton_append]
      apply Takes.cons (step _ (among _ List.mem_cons_self) _ (fresh _ List.mem_cons_self))
      apply ih (fun other member => among other (List.mem_cons_of_mem _ member)) distinct
      intro other member taken
      rcases List.mem_cons.mp taken with same | earlier
      · exact once (same ▸ List.mem_map_of_mem member)
      · exact fresh other (List.mem_cons_of_mem _ member) earlier

/-- Members of distinct keys are all taken, in any order. -/
theorem takes_of_perm {member : σ → String → Reader σ} {met : List String → σ} {final : σ}
    {given entries : List (String × Value)}
    (step : ∀ entry ∈ given, ∀ keys, entry.1 ∉ keys →
      TakesAs member (met keys) entry (met (entry.1 :: keys)))
    (complete : ∀ keys, (∀ entry ∈ given, entry.1 ∈ keys) → met keys = final)
    (distinct : (given.map Prod.fst).Nodup) (order : entries.Perm given) :
    Takes member (met []) entries final := by
  have fresh : ∀ entry ∈ entries, entry.1 ∉ ([] : List String) := fun _ _ => List.not_mem_nil
  have takes := takes_of_steps step (fun _ => order.mem_iff.mp)
    ((order.map Prod.fst).nodup_iff.mpr distinct) fresh
  have all : ∀ entry ∈ given, entry.1 ∈ (entries.map Prod.fst).reverse := by
    intro entry member
    exact List.mem_reverse.mpr (List.mem_map_of_mem (order.mem_iff.mpr member))
  rwa [List.append_nil, complete _ all] at takes

theorem colon_gap {before : List Char} (blank : IsGap before) (rest : List Char) :
    colon (before ++ ':' :: rest) = .ok rest := by
  rw [colon, skipBlanks_gap blank, skipBlanks_token rfl]
  rfl

theorem onceOnly_spelled {read : Reader α} {value : Value} {answer : α}
    (reads : Recovers read value answer) (name : String) {before after content rest : List Char}
    (blankBefore : IsGap before) (blankAfter : IsGap after) (spelled : value.Spelled content)
    (follows : Follows rest) :
    onceOnly name none read (before ++ ':' :: (after ++ (content ++ rest))) =
      .ok (some answer, rest) := by
  simp only [onceOnly, colon_gap blankBefore, reads blankAfter spelled follows, bind, Except.bind]
  rfl

/-- A member that may be given once is taken when its value is read. -/
theorem Recovers.takesAs {member : σ → String → Reader σ} {state next : σ} {name : String}
    {read : Reader α} {value : Value} {answer : α} (reads : Recovers read value answer)
    (opened : ∀ input rest, onceOnly name none read input = .ok (some answer, rest) →
      member state name input = .ok (next, rest)) :
    TakesAs member state (name, value) next := by
  intro before after content rest blankBefore blankAfter spelled follows
  apply opened
  exact onceOnly_spelled reads name blankBefore blankAfter spelled follows

theorem nextKey_ending {gap : List Char} (blank : IsGap gap) (first : Bool) (rest : List Char) :
    nextKey first (gap ++ '}' :: rest) = .ok none := by
  rw [nextKey, skipBlanks_gap blank, skipBlanks_token rfl]
  rfl

theorem nextKey_separated {first : Bool} {separator : List Char}
    (separates : Separates first separator) (form rest : List Char) :
    nextKey first (separator ++ (quoted form ++ rest)) = .ok (some (form ++ '"' :: rest)) := by
  have opened : quoted form ++ rest = '"' :: (form ++ '"' :: rest) := by
    rw [quoted, List.cons_append, List.append_assoc, List.singleton_append]
  rw [opened]
  cases separates with
  | first blank =>
      rw [nextKey, skipBlanks_gap blank, skipBlanks_token rfl]
      rfl
  | next blankBehind blank =>
      rw [nextKey, List.append_assoc, List.cons_append, skipBlanks_gap blankBehind,
        skipBlanks_token rfl]
      split
      · cases ‹_›
      · rename_i same
        cases (List.cons.inj same).1
      · rename_i same
        obtain ⟨rfl, rfl⟩ := List.cons.inj same
        rw [if_neg Bool.false_ne_true, if_pos rfl, skipBlanks_gap blank, skipBlanks_token rfl]
        rfl

theorem members_nil {member : σ → String → Reader σ} {first : Bool} {input : List Char}
    (ended : nextKey first input = .ok none) (fuel : Nat) (state : σ) :
    members member (fuel + 1) first state input = .ok (state, input) := by
  rw [members, ended]
  rfl

/-- A member is met by its key, and the others after it. -/
theorem members_of_key {member : σ → String → Reader σ} {first : Bool} {name : String}
    {input form content : List Char}
    (found : nextKey first input = .ok (some (form ++ '"' :: content)))
    (key : SpelledChars name.toList form) (fuel : Nat) (state : σ) :
    members member (fuel + 1) first state input =
      (member state name content).bind fun (next, rest) =>
        members member fuel false next rest := by
  simp only [members, found, stringRest_spelled key, String.ofList_toList, bind, Except.bind]

theorem endObject_gap {gap : List Char} (blank : IsGap gap) (rest : List Char) :
    endObject (gap ++ '}' :: rest) = .ok rest := by
  rw [endObject, skipBlanks_gap blank, skipBlanks_token rfl]
  rfl

theorem Value.SpelledMembers.follows {entries : List (String × Value)} {more : List Char}
    (spelled : SpelledMembers false entries more) (rest : List Char) : Follows (more ++ rest) := by
  cases spelled with
  | ending blank =>
      rw [List.append_assoc]
      exact follows_gap blank (.cons (by decide) rest)
  | member separates =>
      cases separates with
      | next blankBehind =>
          rw [List.append_assoc, List.append_assoc, List.cons_append]
          exact follows_gap blankBehind (.cons (by decide) _)

theorem Value.SpelledMembers.length_lt {first : Bool} {entries : List (String × Value)}
    {more : List Char} (spelled : SpelledMembers first entries more) :
    entries.length < more.length := by
  induction entries generalizing first more with
  | nil =>
      cases spelled
      simp
  | cons entry entries ih =>
      cases spelled with
      | member _ _ _ _ _ tail =>
          have shorter := ih tail
          simp only [List.length_cons, List.length_append]
          omega

theorem members_spelled {member : σ → String → Reader σ} {state final : σ}
    {entries : List (String × Value)} (takes : Takes member state entries final) {first : Bool}
    {more : List Char} (spelled : Value.SpelledMembers first entries more) (rest : List Char)
    {fuel : Nat} (enough : entries.length < fuel) :
    ∃ ending, members member fuel first state (more ++ rest) = .ok (final, ending) ∧
      endObject ending = .ok rest := by
  induction takes generalizing first more fuel with
  | nil state =>
      obtain ⟨fuel, rfl⟩ := Nat.exists_eq_succ_of_ne_zero (Nat.ne_zero_of_lt enough)
      cases spelled with
      | ending blank =>
          rw [List.append_assoc, List.singleton_append]
          exact ⟨_, members_nil (nextKey_ending blank first rest) fuel state,
            endObject_gap blank rest⟩
  | cons head takes ih =>
      obtain ⟨fuel, rfl⟩ := Nat.exists_eq_succ_of_ne_zero (Nat.ne_zero_of_lt enough)
      cases spelled with
      | member separates key blankBefore blankAfter content tail =>
          obtain ⟨ending, continued, ended⟩ := ih tail (Nat.lt_of_succ_lt_succ enough)
          have taken := head blankBefore blankAfter content (tail.follows rest)
          refine ⟨ending, ?_, ended⟩
          simp only [List.append_assoc, List.cons_append]
          rw [members_of_key (nextKey_separated separates _ _) key, taken]
          exact continued

/-- The members of an object are taken with as much fuel as the text is long. -/
theorem members_of_object {member : σ → String → Reader σ} {state final : σ}
    {entries : List (String × Value)} (takes : Takes member state entries final)
    {content : List Char} (spelled : Value.SpelledMembers true entries content)
    (rest : List Char) :
    ∃ ending, members member ((content ++ rest).length + 1) true state (content ++ rest) =
      .ok (final, ending) ∧ endObject ending = .ok rest := by
  have shorter := spelled.length_lt
  apply members_spelled takes spelled rest
  rw [List.length_append]
  omega

section Records

variable {member : σ → String → Reader σ} {empty : σ} {finish : σ → Except Error α}
  {fields : Reader α} {expected : String} {input content behind rest : List Char} {state : σ}
  {answer : α}

theorem record_of_object (opened : skipBlanks input = '{' :: content)
    (collected : members member (content.length + 1) true empty content = .ok (state, behind))
    (finished : finish state = .ok answer) (ended : endObject behind = .ok rest) :
    record expected member empty finish fields input = .ok (answer, rest) := by
  simp only [record, opened, collected, finished, ended, bind, Except.bind]
  rfl

theorem record_of_array (opened : skipBlanks input = '[' :: content)
    (listed : fields content = .ok (answer, behind)) (ended : endArray behind = .ok rest) :
    record expected member empty finish fields input = .ok (answer, rest) := by
  simp only [record, opened, listed, ended, bind, Except.bind]
  rfl

/-- A record is read from an object, whose members are collected and finished, or from an array
of its parts. -/
theorem record_cases
    (read : record expected member empty finish fields input = .ok (answer, rest)) :
    (∃ content state behind, skipBlanks input = '{' :: content ∧
      members member (content.length + 1) true empty content = .ok (state, behind) ∧
      finish state = .ok answer ∧ endObject behind = .ok rest) ∨
    ∃ content behind, skipBlanks input = '[' :: content ∧
      fields content = .ok (answer, behind) ∧ endArray behind = .ok rest := by
  unfold record at read
  split at read
  · rename_i content opened
    obtain ⟨⟨state, behind⟩, collected, read⟩ := bind_eq_ok_iff.mp read
    obtain ⟨value, finished, read⟩ := bind_eq_ok_iff.mp read
    obtain ⟨ending, ended, read⟩ := bind_eq_ok_iff.mp read
    cases read
    exact Or.inl ⟨content, state, behind, opened, collected, finished, ended⟩
  · rename_i content opened
    obtain ⟨⟨value, behind⟩, listed, read⟩ := bind_eq_ok_iff.mp read
    obtain ⟨ending, ended, read⟩ := bind_eq_ok_iff.mp read
    cases read
    exact Or.inr ⟨content, behind, opened, listed, ended⟩
  · unfold mismatch at read
    split at read
    · cases read
    · cases read

end Records

/-- A record is read from an object whose members its reader takes to a finished state. -/
theorem Takes.recovers_record {member : σ → String → Reader σ} {empty final : σ}
    {entries : List (String × Value)} (takes : Takes member empty entries final)
    {finish : σ → Except Error α} {answer : α} (finished : finish final = .ok answer)
    (expected : String) (fields : Reader α) :
    Recovers (record expected member empty finish fields) (.object entries) answer := by
  intro gap text rest blank spelled follows
  have opened := spelled.skipBlanks_eq blank rest
  cases spelled with
  | object members =>
      obtain ⟨ending, collected, ended⟩ := members_of_object takes members rest
      exact record_of_object opened collected finished ended

/-! ## Documents -/

theorem document_eq_ok_iff {read : Reader α} {text : String} {answer : α} :
    document read text = .ok answer ↔
      ∃ rest, read text.toList = .ok (answer, rest) ∧ skipBlanks rest = [] := by
  unfold document
  rw [bind_eq_ok_iff]
  constructor
  · rintro ⟨⟨value, rest⟩, found, ended⟩
    dsimp only at ended
    split at ended
    · cases ended
      exact ⟨rest, found, ‹_›⟩
    · cases ended
  · rintro ⟨rest, found, ended⟩
    refine ⟨(answer, rest), found, ?_⟩
    dsimp only
    rw [ended]
    rfl

/-- A text that spells a value is read as a document, with gaps around it. -/
theorem Recovers.document_of_spelled {read : Reader α} {value : Value} {answer : α}
    (reads : Recovers read value answer) {front content gap : List Char} (blankFront : IsGap front)
    (spelled : value.Spelled content) (blank : IsGap gap) :
    document read (String.ofList (front ++ (content ++ gap))) = .ok answer := by
  have follows : Follows gap := by
    have ended := follows_gap blank .nil
    rwa [List.append_nil] at ended
  have passed : skipBlanks gap = [] := by
    have blanks := skipBlanks_gap blank []
    rwa [List.append_nil] at blanks
  rw [document_eq_ok_iff, String.toList_ofList]
  exact ⟨gap, reads blankFront spelled follows, passed⟩

/-- A text that writes a value, with a gap behind it, is read as a document. -/
theorem Recovers.document {read : Reader α} {value : Value} {answer : α}
    (reads : Recovers read value answer) {content gap : List Char} (written : value.Written content)
    (blank : IsGap gap) : document read (String.ofList (content ++ gap)) = .ok answer := by
  have answered := reads.document_of_spelled isGap_nil written.spelled blank
  rwa [List.nil_append] at answered

end AbiProbe.Json
