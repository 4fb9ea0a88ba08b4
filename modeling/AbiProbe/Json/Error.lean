import AbiProbe.Text.Quoted
import AbiProbe.Text.Shortest

/-! # Why a JSON text is refused

Reading stops at the first fault met from left to right (`AbiProbe.Json.Error`). A fault is a
text that ends too early, a text that is no JSON, or JSON that does not describe the value asked
for (`AbiProbe.Json.Error.category`).
-/

namespace AbiProbe.Json

/-- A number as it is written in a JSON text. -/
inductive Number
  /-- An integer without sign that fits 64 bits. -/
  | unsigned (value : UInt64)
  /-- A negative integer that fits 64 bits. -/
  | negative (value : Int64)
  /-- Any other number. -/
  | real (value : Float)
deriving Repr

/-- What stands in a text where a value of another type is asked for. -/
inductive Found
  | null
  | boolean (value : Bool)
  | number (value : Number)
  | text (value : String)
  | sequence
  | map
deriving Repr

/-- What is found, in the words of a diagnostic. -/
def Found.label : Found → String
  | .null => "null"
  | .boolean true => "boolean `true`"
  | .boolean false => "boolean `false`"
  | .number (.unsigned value) => "integer `" ++ Text.Decimal.ofNat value.toNat ++ "`"
  | .number (.negative value) => "integer `" ++ Text.Decimal.ofInt value.toInt ++ "`"
  | .number (.real value) => "floating point `" ++ Text.Shortest.text value ++ "`"
  | .text value => "string " ++ Text.quote value
  | .sequence => "sequence"
  | .map => "map"

/-- How far a text is from one that could be read. -/
inductive Category
  /-- The text is no JSON. -/
  | form
  /-- The JSON does not describe the value asked for. -/
  | data
  /-- The text ends too early. -/
  | ending
deriving DecidableEq, Repr

/-- The name of a category. -/
def Category.name : Category → String
  | .form => "Syntax"
  | .data => "Data"
  | .ending => "Eof"

/-- The first fault of a JSON text. -/
inductive Error
  | endInList
  | endInObject
  | endInString
  | endInValue
  | colonExpected
  | listCommaOrEndExpected
  | objectCommaOrEndExpected
  | identExpected
  | valueExpected
  | invalidEscape
  | invalidNumber
  | numberOutOfRange
  | controlCharacter
  | keyNotString
  | loneSurrogate
  | trailingComma
  | trailingCharacters
  | unfinishedSurrogatePair
  /-- A value of the wrong type. -/
  | invalidType (found : Found) (expected : String)
  /-- A value of the right type and out of its range. -/
  | invalidValue (found : Found) (expected : String)
  /-- An array with too few elements. -/
  | invalidLength (length : Nat) (expected : String)
  /-- A text that is none of the listed names. -/
  | unknownVariant (text : String) (names : List String)
  /-- A key that is none of the listed members. -/
  | unknownField (key : String) (names : List String)
  | missingField (name : String)
  | duplicateField (name : String)
deriving Repr

/-- A text between backquotes. -/
def backquoted (text : String) : String :=
  "`" ++ text ++ "`"

/-- Names between backquotes, as a choice of one. -/
def oneOf (names : List String) : String :=
  match names with
  | [] => "there are no names"
  | [name] => "expected " ++ backquoted name
  | [first, second] => "expected " ++ backquoted first ++ " or " ++ backquoted second
  | _ => "expected one of " ++ String.intercalate ", " (names.map backquoted)

namespace Error

/-- The wording of a fault. -/
def message : Error → String
  | endInList => "EOF while parsing a list"
  | endInObject => "EOF while parsing an object"
  | endInString => "EOF while parsing a string"
  | endInValue => "EOF while parsing a value"
  | colonExpected => "expected `:`"
  | listCommaOrEndExpected => "expected `,` or `]`"
  | objectCommaOrEndExpected => "expected `,` or `\x7d`"
  | identExpected => "expected ident"
  | valueExpected => "expected value"
  | invalidEscape => "invalid escape"
  | invalidNumber => "invalid number"
  | numberOutOfRange => "number out of range"
  | controlCharacter =>
      "control character (\\u0000-\\u001F) found while parsing a string"
  | keyNotString => "key must be a string"
  | loneSurrogate => "lone leading surrogate in hex escape"
  | trailingComma => "trailing comma"
  | trailingCharacters => "trailing characters"
  | unfinishedSurrogatePair => "unexpected end of hex escape"
  | invalidType found expected => "invalid type: " ++ found.label ++ ", expected " ++ expected
  | invalidValue found expected => "invalid value: " ++ found.label ++ ", expected " ++ expected
  | invalidLength length expected =>
      "invalid length " ++ Text.Decimal.ofNat length ++ ", expected " ++ expected
  | unknownVariant text names => "unknown variant " ++ backquoted text ++ ", " ++ oneOf names
  | unknownField key names => "unknown field " ++ backquoted key ++ ", " ++ oneOf names
  | missingField name => "missing field " ++ backquoted name
  | duplicateField name => "duplicate field " ++ backquoted name

/-- The category of a fault. -/
def category : Error → Category
  | endInList | endInObject | endInString | endInValue => .ending
  | invalidType .. | invalidValue .. | invalidLength .. | unknownVariant .. | unknownField ..
  | missingField .. | duplicateField .. => .data
  | _ => .form

end Error

end AbiProbe.Json
