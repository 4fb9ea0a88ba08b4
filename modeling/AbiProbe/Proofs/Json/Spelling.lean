import AbiProbe.Proofs.Json.Token
import AbiProbe.Proofs.Json.Written

/-! # Spellings of a JSON value

A text that writes a value has one form of each string. A text that spells it may have any form
of the characters in a string (`AbiProbe.Json.Value.Spelled`). So what is said of all spellings of
a value holds of the texts that write it (`AbiProbe.Json.Value.Written.spelled`).
-/

namespace AbiProbe.Json

/-- The form of a string between its quotes. -/
def quoted (form : List Char) : List Char :=
  '"' :: (form ++ ['"'])

/-- What stands in front of the first or of another part of an array or an object. -/
inductive Separates : Bool → List Char → Prop
  | first {gap : List Char} (blank : IsGap gap) : Separates true gap
  | next {behind gap : List Char} (blankBehind : IsGap behind) (blank : IsGap gap) :
      Separates false (behind ++ ',' :: gap)

namespace Value

mutual

/-- A text that spells a value. -/
inductive Spelled : Value → List Char → Prop
  | null : Spelled null "null".toList
  | boolean (value : Bool) : Spelled (boolean value) (keyword value)
  | integer (value : Int) : Spelled (integer value) (Text.Decimal.ofInt value).toList
  | text {value : String} {form : List Char} (spelled : SpelledChars value.toList form) :
      Spelled (text value) (quoted form)
  | array {values : List Value} {content : List Char}
      (elements : SpelledElements true values content) : Spelled (array values) ('[' :: content)
  | object {entries : List (String × Value)} {content : List Char}
      (members : SpelledMembers true entries content) : Spelled (object entries) ('{' :: content)

/-- A text that spells what stands in an array, from its first element or from another on. -/
inductive SpelledElements : Bool → List Value → List Char → Prop
  | ending {first : Bool} {gap : List Char} (blank : IsGap gap) :
      SpelledElements first [] (gap ++ [']'])
  | element {first : Bool} {value : Value} {others : List Value}
      {separator content more : List Char} (separates : Separates first separator)
      (head : Spelled value content) (tail : SpelledElements false others more) :
      SpelledElements first (value :: others) (separator ++ (content ++ more))

/-- A text that spells what stands in an object, from its first member or from another on. -/
inductive SpelledMembers : Bool → List (String × Value) → List Char → Prop
  | ending {first : Bool} {gap : List Char} (blank : IsGap gap) :
      SpelledMembers first [] (gap ++ ['}'])
  | member {first : Bool} {name : String} {value : Value} {others : List (String × Value)}
      {separator form before after content more : List Char}
      (separates : Separates first separator) (key : SpelledChars name.toList form)
      (blankBefore : IsGap before) (blankAfter : IsGap after) (head : Spelled value content)
      (tail : SpelledMembers false others more) :
      SpelledMembers first ((name, value) :: others)
        (separator ++ (quoted form ++ (before ++ ':' :: (after ++ (content ++ more)))))

end

/-! ## Written texts -/

mutual

theorem Written.spelled : {value : Value} → {text : List Char} → value.Written text →
    value.Spelled text
  | _, _, .null => .null
  | _, _, .boolean value => .boolean value
  | _, _, .integer value => .integer value
  | _, _, .text value => .text (spelledChars_escaped value.toList)
  | _, _, .emptyArray (.ending blank) => .array (.ending blank)
  | _, _, .array blank head tail => .array (.element (.first blank) head.spelled tail.spelled)
  | _, _, .emptyObject (.ending blank) => .object (.ending blank)
  | _, _, .object blank blankBefore blankAfter head tail =>
      .object (.member (.first blank) (spelledChars_escaped _) blankBefore blankAfter head.spelled
        tail.spelled)

theorem WrittenElements.spelled : {values : List Value} → {more : List Char} →
    WrittenElements values more → SpelledElements false values more
  | _, _, .ending blank => .ending blank
  | _, _, .next blankBehind blank head tail => by
      have element := SpelledElements.element (.next blankBehind blank) head.spelled tail.spelled
      rwa [List.append_assoc, List.cons_append] at element

theorem WrittenMembers.spelled : {entries : List (String × Value)} → {more : List Char} →
    WrittenMembers entries more → SpelledMembers false entries more
  | _, _, .ending blank => .ending blank
  | (name, _) :: _, _, .next blankBehind blank blankBefore blankAfter head tail => by
      have member := SpelledMembers.member (.next blankBehind blank)
        (spelledChars_escaped name.toList) blankBefore blankAfter head.spelled tail.spelled
      rwa [List.append_assoc, List.cons_append] at member

end

end Value

end AbiProbe.Json
