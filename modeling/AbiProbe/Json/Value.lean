import AbiProbe.Text.Decimal

/-! # JSON values and their text

A value is written compactly, without a blank (`AbiProbe.Json.Value.compact`), or with one
member or element a line, indented by two spaces a level (`AbiProbe.Json.Value.pretty`). Both
forms keep the order of members.
-/

namespace AbiProbe.Json

/-- A JSON value whose numbers are integers. -/
inductive Value
  | null
  | boolean (value : Bool)
  | integer (value : Int)
  | text (value : String)
  | array (elements : List Value)
  | object (members : List (String × Value))
deriving Repr, BEq, Inhabited

/-- The written form of one character inside a JSON string. -/
def escapedForm (c : Char) : List Char :=
  if c = '"' then ['\\', '"']
  else if c = '\\' then ['\\', '\\']
  else if c = '\x08' then ['\\', 'b']
  else if c = '\x0c' then ['\\', 'f']
  else if c = '\n' then ['\\', 'n']
  else if c = '\r' then ['\\', 'r']
  else if c = '\t' then ['\\', 't']
  else if c.toNat < 0x20 then
    ['\\', 'u', '0', '0', Nat.digitChar (c.toNat / 16), Nat.digitChar (c.toNat % 16)]
  else [c]

/-- A string as JSON text. -/
def escape (text : String) : List Char :=
  '"' :: (text.toList.flatMap escapedForm ++ ['"'])

/-- The text of a value that has no parts, or none in it. -/
def keyword : Bool → List Char
  | true => "true".toList
  | false => "false".toList

namespace Value

mutual

/-- The text of a value without any blank. -/
def compactText : Value → List Char
  | null => "null".toList
  | boolean value => keyword value
  | integer value => (Text.Decimal.ofInt value).toList
  | text value => escape value
  | array [] => ['[', ']']
  | array (first :: rest) => '[' :: (compactText first ++ compactElements rest)
  | object [] => ['{', '}']
  | object ((name, value) :: rest) =>
      '{' :: (escape name ++ ':' :: (compactText value ++ compactMembers rest))

/-- The text of the elements after the first, with the end of the array. -/
def compactElements : List Value → List Char
  | [] => [']']
  | value :: rest => ',' :: (compactText value ++ compactElements rest)

/-- The text of the members after the first, with the end of the object. -/
def compactMembers : List (String × Value) → List Char
  | [] => ['}']
  | (name, value) :: rest =>
      ',' :: (escape name ++ ':' :: (compactText value ++ compactMembers rest))

end

/-- A new line at a level of indentation. -/
def newLine (level : Nat) : List Char :=
  '\n' :: List.replicate (2 * level) ' '

mutual

/-- The text of a value at a level of indentation, one part a line. -/
def prettyText (level : Nat) : Value → List Char
  | null => "null".toList
  | boolean value => keyword value
  | integer value => (Text.Decimal.ofInt value).toList
  | text value => escape value
  | array [] => ['[', ']']
  | array (first :: rest) =>
      '[' :: (newLine (level + 1) ++ (prettyText (level + 1) first ++ prettyElements level rest))
  | object [] => ['{', '}']
  | object ((name, value) :: rest) =>
      '{' :: (newLine (level + 1) ++ (escape name ++
        ':' :: ' ' :: (prettyText (level + 1) value ++ prettyMembers level rest)))

/-- The lines of the elements after the first, with the end of the array. -/
def prettyElements (level : Nat) : List Value → List Char
  | [] => newLine level ++ [']']
  | value :: rest =>
      ',' :: (newLine (level + 1) ++ (prettyText (level + 1) value ++ prettyElements level rest))

/-- The lines of the members after the first, with the end of the object. -/
def prettyMembers (level : Nat) : List (String × Value) → List Char
  | [] => newLine level ++ ['}']
  | (name, value) :: rest =>
      ',' :: (newLine (level + 1) ++ (escape name ++
        ':' :: ' ' :: (prettyText (level + 1) value ++ prettyMembers level rest)))

end

/-- The compact text of a value. -/
def compact (value : Value) : String :=
  String.ofList value.compactText

/-- The indented text of a value. -/
def pretty (value : Value) : String :=
  String.ofList (value.prettyText 0)

end Value

end AbiProbe.Json
