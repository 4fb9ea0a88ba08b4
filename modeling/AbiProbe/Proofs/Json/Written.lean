import AbiProbe.Json.Token
import AbiProbe.Json.Value
import AbiProbe.Proofs.Text.Decimal

/-! # Texts of a JSON value

A text writes a value if it has the tokens of the value in order, with any blanks between them
(`AbiProbe.Json.Value.Written`). The compact and the indented text of a value differ in these
blanks only, so what is said of all texts of a value holds of both.
-/

namespace AbiProbe.Json

/-- What may stand between two tokens. -/
def IsGap (text : List Char) : Prop :=
  ∀ c ∈ text, isBlank c = true

theorem isGap_nil : IsGap [] := nofun

theorem isGap_space : IsGap [' '] := by
  intro c member
  obtain rfl := List.mem_singleton.mp member
  rfl

theorem skipBlanks_gap {gap : List Char} (blank : IsGap gap) (rest : List Char) :
    skipBlanks (gap ++ rest) = skipBlanks rest :=
  List.dropWhile_append_of_pos blank

theorem skipBlanks_token {c : Char} (token : isBlank c = false) (rest : List Char) :
    skipBlanks (c :: rest) = c :: rest :=
  List.dropWhile_cons_of_neg (by simp [token])

namespace Value

mutual

/-- A text that writes a value. -/
inductive Written : Value → List Char → Prop
  | null : Written null "null".toList
  | boolean (value : Bool) : Written (boolean value) (keyword value)
  | integer (value : Int) : Written (integer value) (Text.Decimal.ofInt value).toList
  | text (value : String) : Written (text value) (escape value)
  | emptyArray {ending : List Char} (ended : WrittenElements [] ending) :
      Written (array []) ('[' :: ending)
  | array {first : Value} {others : List Value} {gap content more : List Char}
      (blank : IsGap gap) (head : Written first content) (tail : WrittenElements others more) :
      Written (array (first :: others)) ('[' :: (gap ++ (content ++ more)))
  | emptyObject {ending : List Char} (ended : WrittenMembers [] ending) :
      Written (object []) ('{' :: ending)
  | object {name : String} {value : Value} {others : List (String × Value)}
      {gap before after content more : List Char} (blank : IsGap gap)
      (blankBefore : IsGap before) (blankAfter : IsGap after) (head : Written value content)
      (tail : WrittenMembers others more) :
      Written (object ((name, value) :: others))
        ('{' :: (gap ++ (escape name ++ (before ++ ':' :: (after ++ (content ++ more))))))

/-- A text that writes what stands in an array behind its first element. -/
inductive WrittenElements : List Value → List Char → Prop
  | ending {gap : List Char} (blank : IsGap gap) : WrittenElements [] (gap ++ [']'])
  | next {value : Value} {others : List Value} {behind gap content more : List Char}
      (blankBehind : IsGap behind) (blank : IsGap gap) (head : Written value content)
      (tail : WrittenElements others more) :
      WrittenElements (value :: others) (behind ++ ',' :: (gap ++ (content ++ more)))

/-- A text that writes what stands in an object behind its first member. -/
inductive WrittenMembers : List (String × Value) → List Char → Prop
  | ending {gap : List Char} (blank : IsGap gap) : WrittenMembers [] (gap ++ ['}'])
  | next {name : String} {value : Value} {others : List (String × Value)}
      {behind gap before after content more : List Char} (blankBehind : IsGap behind)
      (blank : IsGap gap) (blankBefore : IsGap before) (blankAfter : IsGap after)
      (head : Written value content) (tail : WrittenMembers others more) :
      WrittenMembers ((name, value) :: others)
        (behind ++ ',' ::
          (gap ++ (escape name ++ (before ++ ':' :: (after ++ (content ++ more))))))

end

/-! ## The two layouts -/

theorem isGap_newLine (level : Nat) : IsGap (newLine level) := by
  intro c member
  rcases List.mem_cons.mp member with rfl | indented
  · rfl
  · obtain rfl := List.eq_of_mem_replicate indented
    rfl

mutual

theorem written_compactText : (value : Value) → Written value value.compactText
  | null => .null
  | boolean value => .boolean value
  | integer value => .integer value
  | text value => .text value
  | array [] => .emptyArray (.ending isGap_nil)
  | array (first :: others) =>
      .array isGap_nil (written_compactText first) (written_compactElements others)
  | object [] => .emptyObject (.ending isGap_nil)
  | object ((_, value) :: others) =>
      .object isGap_nil isGap_nil isGap_nil (written_compactText value)
        (written_compactMembers others)

theorem written_compactElements :
    (values : List Value) → WrittenElements values (compactElements values)
  | [] => .ending isGap_nil
  | value :: others =>
      .next isGap_nil isGap_nil (written_compactText value) (written_compactElements others)

theorem written_compactMembers :
    (members : List (String × Value)) → WrittenMembers members (compactMembers members)
  | [] => .ending isGap_nil
  | (_, value) :: others =>
      .next isGap_nil isGap_nil isGap_nil isGap_nil (written_compactText value)
        (written_compactMembers others)

end

mutual

theorem written_prettyText (level : Nat) : (value : Value) → Written value (prettyText level value)
  | null => .null
  | boolean value => .boolean value
  | integer value => .integer value
  | text value => .text value
  | array [] => .emptyArray (.ending isGap_nil)
  | array (first :: others) =>
      .array (isGap_newLine _) (written_prettyText (level + 1) first)
        (written_prettyElements level others)
  | object [] => .emptyObject (.ending isGap_nil)
  | object ((_, value) :: others) =>
      .object (isGap_newLine _) isGap_nil isGap_space (written_prettyText (level + 1) value)
        (written_prettyMembers level others)

theorem written_prettyElements (level : Nat) :
    (values : List Value) → WrittenElements values (prettyElements level values)
  | [] => .ending (isGap_newLine _)
  | value :: others =>
      .next isGap_nil (isGap_newLine _) (written_prettyText (level + 1) value)
        (written_prettyElements level others)

theorem written_prettyMembers (level : Nat) :
    (members : List (String × Value)) → WrittenMembers members (prettyMembers level members)
  | [] => .ending (isGap_newLine _)
  | (_, value) :: others =>
      .next isGap_nil (isGap_newLine _) isGap_nil isGap_space
        (written_prettyText (level + 1) value) (written_prettyMembers level others)

end

end Value

end AbiProbe.Json
