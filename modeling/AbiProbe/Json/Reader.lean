import AbiProbe.Json.Token

/-! # Reading typed values from a JSON text

Readers for the parts a described value is made of: strings, unsigned integers, optional values,
named variants, arrays and objects. Each meets the text from left to right and stops at the
first fault, so a value of the wrong type is reported before a later fault of the text. The
whole text holds one value (`AbiProbe.Json.document`).
-/

namespace AbiProbe.Json

/-- Reads what stands at the front of a text, far enough to name it in a diagnostic. -/
def found (input : List Char) : Except Error Found :=
  match input with
  | [] => .error .endInValue
  | c :: rest =>
      if c = 'n' then do
        let _ ← keywordRest "ull".toList rest
        return .null
      else if c = 't' then do
        let _ ← keywordRest "rue".toList rest
        return .boolean true
      else if c = 'f' then do
        let _ ← keywordRest "alse".toList rest
        return .boolean false
      else if c = '-' then do
        let (number, _) ← Number.read true rest
        return .number number
      else if c.isDigit then do
        let (number, _) ← Number.read false input
        return .number number
      else if c = '"' then do
        let (text, _) ← stringRest rest
        return .text (String.ofList text)
      else if c = '[' then return .sequence
      else if c = '{' then return .map
      else .error .valueExpected

/-- The fault of a text whose first value is not of the expected type. -/
def mismatch {α : Type} (expected : String) (input : List Char) : Except Error α :=
  match found input with
  | .ok found => .error (.invalidType found expected)
  | .error error => .error error

/-- Reads a string. -/
def string (expected : String) (input : List Char) : Except Error (String × List Char) :=
  match skipBlanks input with
  | '"' :: rest => do
      let (text, rest) ← stringRest rest
      return (String.ofList text, rest)
  | rest => mismatch expected rest

/-- The unsigned integer a number stands for. -/
def Number.asUnsigned (expected : String) : Number → Except Error UInt64
  | .unsigned value => .ok value
  | .negative value => .error (.invalidValue (.number (.negative value)) expected)
  | .real value => .error (.invalidType (.number (.real value)) expected)

/-- Reads an unsigned 64-bit integer. -/
def unsigned (expected : String) (input : List Char) : Except Error (UInt64 × List Char) :=
  match skipBlanks input with
  | [] => .error .endInValue
  | '-' :: rest => do
      let (number, rest) ← Number.read true rest
      return (← number.asUnsigned expected, rest)
  | c :: rest =>
      if c.isDigit then do
        let (number, rest) ← Number.read false (c :: rest)
        return (← number.asUnsigned expected, rest)
      else mismatch expected (c :: rest)

/-- Reads a value or `null` for none. -/
def optional {α : Type} (read : Reader α) (input : List Char) :
    Except Error (Option α × List Char) :=
  match skipBlanks input with
  | [] => .error .endInValue
  | 'n' :: rest => do
      let rest ← keywordRest "ull".toList rest
      return (none, rest)
  | rest => do
      let (value, rest) ← read rest
      return (some value, rest)

/-- Reads `null`. -/
def unit (input : List Char) : Except Error (Unit × List Char) :=
  match skipBlanks input with
  | 'n' :: rest => do
      let rest ← keywordRest "ull".toList rest
      return ((), rest)
  | rest => mismatch "unit" rest

/-- Reads the colon after a key. -/
def colon (input : List Char) : Except Error (List Char) :=
  match skipBlanks input with
  | [] => .error .endInObject
  | ':' :: rest => .ok rest
  | _ => .error .colonExpected

/-- Reads the name of a variant. -/
def variantName {α : Type} (names : List String) (ofName? : String → Option α) : Reader α :=
  fun input => do
    let (name, rest) ← string "variant identifier" input
    match ofName? name with
    | some variant => return (variant, rest)
    | none => .error (.unknownVariant name names)

/-- Reads the key of an object that stands for a variant. -/
def variantKey {α : Type} (names : List String) (ofName? : String → Option α) (input : List Char) :
    Except Error (α × List Char) :=
  match skipBlanks input with
  | [] => .error .endInObject
  | '"' :: rest => variantName names ofName? ('"' :: rest)
  | '}' :: _ => .error .valueExpected
  | _ => .error .keyNotString

/-- Reads a variant without content: its name, or an object from its name to `null`. -/
def variant {α : Type} (names : List String) (ofName? : String → Option α) (input : List Char) :
    Except Error (α × List Char) :=
  match skipBlanks input with
  | [] => .error .endInValue
  | '"' :: rest => variantName names ofName? ('"' :: rest)
  | '{' :: rest => do
      let (variant, rest) ← variantKey names ofName? rest
      let rest ← colon rest
      let ((), rest) ← unit rest
      match skipBlanks rest with
      | [] => .error .endInObject
      | '}' :: rest => return (variant, rest)
      | _ => .error .valueExpected
  | _ => .error .valueExpected

/-! ## Arrays -/

/-- The text of the next element of an array; `none` at its closing bracket. -/
def nextElement (first : Bool) (input : List Char) : Except Error (Option (List Char)) :=
  match skipBlanks input with
  | [] => .error .endInList
  | ']' :: _ => .ok none
  | c :: rest =>
      if first then .ok (some (c :: rest))
      else if c = ',' then
        match skipBlanks rest with
        | [] => .error .endInValue
        | ']' :: _ => .error .trailingComma
        | rest => .ok (some rest)
      else .error .listCommaOrEndExpected

/-- Reads the closing bracket of an array. -/
def endArray (input : List Char) : Except Error (List Char) :=
  match skipBlanks input with
  | [] => .error .endInList
  | ']' :: rest => .ok rest
  | ',' :: rest =>
      match skipBlanks rest with
      | ']' :: _ => .error .trailingComma
      | _ => .error .trailingCharacters
  | _ => .error .trailingCharacters

/-- Reads the next element of an array, if there is one. -/
def element? {α : Type} (read : Reader α) (first : Bool) (input : List Char) :
    Except Error (Option α × List Char) := do
  match ← nextElement first input with
  | none => return (none, input)
  | some rest =>
      let (value, rest) ← read rest
      return (some value, rest)

/-- Reads the elements of an array up to its closing bracket, which it leaves. A text of `fuel`
characters holds fewer elements than that. -/
def elements {α : Type} (read : Reader α) (fuel : Nat) (first : Bool) (input : List Char) :
    Except Error (List α × List Char) :=
  match fuel with
  | 0 => .error .endInList
  | fuel + 1 => do
      match ← element? read first input with
      | (none, rest) => return ([], rest)
      | (some value, rest) =>
          let (values, rest) ← elements read fuel false rest
          return (value :: values, rest)

/-- Reads an array of values. -/
def array {α : Type} (read : Reader α) (expected : String) (input : List Char) :
    Except Error (List α × List Char) :=
  match skipBlanks input with
  | '[' :: rest => do
      let (values, rest) ← elements read (rest.length + 1) true rest
      return (values, ← endArray rest)
  | rest => mismatch expected rest

/-! ## Objects -/

/-- The text of the next key of an object, after its opening quote; `none` at the closing
brace. -/
def nextKey (first : Bool) (input : List Char) : Except Error (Option (List Char)) :=
  match skipBlanks input with
  | [] => .error .endInObject
  | '}' :: _ => .ok none
  | c :: rest =>
      if first then
        if c = '"' then .ok (some rest) else .error .keyNotString
      else if c = ',' then
        match skipBlanks rest with
        | [] => .error .endInValue
        | '"' :: rest => .ok (some rest)
        | '}' :: _ => .error .trailingComma
        | _ => .error .keyNotString
      else .error .objectCommaOrEndExpected

/-- Reads the members of an object up to its closing brace, which it leaves, taking each into a
state. The reader of a member starts after the key. A text of `fuel` characters holds fewer
members than that. -/
def members {σ : Type} (member : σ → String → Reader σ) (fuel : Nat) (first : Bool) (state : σ)
    (input : List Char) : Except Error (σ × List Char) :=
  match fuel with
  | 0 => .error .endInObject
  | fuel + 1 => do
      match ← nextKey first input with
      | none => return (state, input)
      | some rest =>
          let (key, rest) ← stringRest rest
          let (state, rest) ← member state (String.ofList key) rest
          members member fuel false state rest

/-- Reads the closing brace of an object. -/
def endObject (input : List Char) : Except Error (List Char) :=
  match skipBlanks input with
  | [] => .error .endInObject
  | '}' :: rest => .ok rest
  | ',' :: _ => .error .trailingComma
  | _ => .error .trailingCharacters

/-- Reads a record: an object of its members, or an array of its fields in order. -/
def record {σ α : Type} (expected : String) (member : σ → String → Reader σ) (empty : σ)
    (finish : σ → Except Error α) (fields : Reader α) (input : List Char) :
    Except Error (α × List Char) :=
  match skipBlanks input with
  | '{' :: rest => do
      let (state, rest) ← members member (rest.length + 1) true empty rest
      let value ← finish state
      return (value, ← endObject rest)
  | '[' :: rest => do
      let (value, rest) ← fields rest
      return (value, ← endArray rest)
  | rest => mismatch expected rest

/-- Reads the value of a member that may be given once. -/
def onceOnly {α : Type} (name : String) (given : Option α) (read : Reader α)
    (input : List Char) : Except Error (Option α × List Char) :=
  match given with
  | some _ => .error (.duplicateField name)
  | none => do
      let rest ← colon input
      let (value, rest) ← read rest
      return (some value, rest)

/-! ## Passing over a value -/

/-- Passes over the exponent of a number, after its letter. -/
def skipExponent (input : List Char) : Except Error (List Char) :=
  let digits := match input with
    | '+' :: rest => rest
    | '-' :: rest => rest
    | rest => rest
  if digits.head?.any Char.isDigit then .ok (digits.dropWhile Char.isDigit)
  else .error .invalidNumber

/-- Passes over the exponent of a number, if it has one. -/
def skipOptionalExponent : List Char → Except Error (List Char)
  | 'e' :: rest | 'E' :: rest => skipExponent rest
  | rest => .ok rest

/-- Passes over a number, after its sign. -/
def skipNumber (input : List Char) : Except Error (List Char) :=
  match input with
  | [] => .error .invalidNumber
  | first :: afterFirst =>
      if !first.isDigit then .error .invalidNumber
      else if first = '0' ∧ afterFirst.head?.any Char.isDigit then .error .invalidNumber
      else
        match input.dropWhile Char.isDigit with
        | '.' :: fraction =>
            if fraction.head?.any Char.isDigit then
              skipOptionalExponent (fraction.dropWhile Char.isDigit)
            else .error .invalidNumber
        | rest => skipOptionalExponent rest

mutual

/-- Passes over a value of any type. A text of `fuel` characters holds fewer nested parts than
that. -/
def skipValue (fuel : Nat) (input : List Char) : Except Error (List Char) :=
  match fuel with
  | 0 => .error .endInValue
  | fuel + 1 =>
      match skipBlanks input with
      | [] => .error .endInValue
      | 'n' :: rest => keywordRest "ull".toList rest
      | 't' :: rest => keywordRest "rue".toList rest
      | 'f' :: rest => keywordRest "alse".toList rest
      | '-' :: rest => skipNumber rest
      | '"' :: rest => skipStringRest rest
      | '[' :: rest =>
          match skipBlanks rest with
          | [] => .error .endInList
          | ']' :: rest => .ok rest
          | rest => skipElements fuel rest
      | '{' :: rest =>
          match skipBlanks rest with
          | [] => .error .endInObject
          | '}' :: rest => .ok rest
          | rest => skipMembers fuel rest
      | c :: rest => if c.isDigit then skipNumber (c :: rest) else .error .valueExpected

/-- Passes over the elements of an array and its closing bracket. -/
def skipElements (fuel : Nat) (input : List Char) : Except Error (List Char) :=
  match fuel with
  | 0 => .error .endInList
  | fuel + 1 => do
      let rest ← skipValue fuel input
      match skipBlanks rest with
      | [] => .error .endInList
      | ',' :: rest => skipElements fuel rest
      | ']' :: rest => return rest
      | _ => .error .listCommaOrEndExpected

/-- Passes over the members of an object and its closing brace. -/
def skipMembers (fuel : Nat) (input : List Char) : Except Error (List Char) :=
  match fuel with
  | 0 => .error .endInObject
  | fuel + 1 => do
      match skipBlanks input with
      | [] => .error .endInObject
      | '"' :: rest =>
          let rest ← colon (← skipStringRest rest)
          let rest ← skipValue fuel rest
          match skipBlanks rest with
          | [] => .error .endInObject
          | ',' :: rest => skipMembers fuel rest
          | '}' :: rest => return rest
          | _ => .error .objectCommaOrEndExpected
      | _ => .error .keyNotString

end

/-- Passes over a value of any type. -/
def skip (input : List Char) : Except Error (Unit × List Char) := do
  return ((), ← skipValue (2 * input.length + 1) input)

/-! ## Documents -/

/-- Reads a text that holds one value and nothing else. -/
def document {α : Type} (read : Reader α) (text : String) : Except Error α := do
  let (value, rest) ← read text.toList
  match skipBlanks rest with
  | [] => return value
  | _ => .error .trailingCharacters

end AbiProbe.Json
