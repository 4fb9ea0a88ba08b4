import AbiProbe.Json.Number
import AbiProbe.Text.Hexadecimal
import AbiProbe.Text.Slice

/-! # The tokens of a JSON text

A reader takes a value off the front of a text and returns the rest of it
(`AbiProbe.Json.Reader`). This module reads blanks, keywords and strings
(`AbiProbe.Json.stringRest`).
-/

namespace AbiProbe.Json

/-- Takes a value off the front of a text. -/
abbrev Reader (α : Type) := List Char → Except Error (α × List Char)

/-- The blanks that may stand between the tokens of a JSON text. -/
def isBlank (c : Char) : Bool :=
  c = ' ' || c = '\n' || c = '\t' || c = '\r'

/-- The text from its first token on. -/
def skipBlanks (input : List Char) : List Char :=
  input.dropWhile isBlank

/-- Reads the rest of a keyword. -/
def keywordRest : (expected input : List Char) → Except Error (List Char)
  | [], rest => .ok rest
  | _ :: _, [] => .error .endInValue
  | c :: expected, d :: rest => if c = d then keywordRest expected rest else .error .identExpected

/-- The value of four hexadecimal digits. -/
def hexUnit? (a b c d : Char) : Option Nat :=
  match Text.hexValue? a, Text.hexValue? b, Text.hexValue? c, Text.hexValue? d with
  | some a, some b, some c, some d => some (((a * 16 + b) * 16 + c) * 16 + d)
  | _, _, _, _ => none

/-- The fault of a text that has no four hexadecimal digits, having fewer than four characters.
One of fewer than four bytes has ended too early, whatever stands in it. -/
def unfinishedUnit (rest : List Char) : Error :=
  if Text.byteCount rest < 4 then .endInString else .invalidEscape

/-- Whether a code unit is the first of a surrogate pair. -/
def isLeadingSurrogate (unit : Nat) : Bool :=
  0xD800 ≤ unit && unit ≤ 0xDBFF

/-- Whether a code unit is the second of a surrogate pair. -/
def isTrailingSurrogate (unit : Nat) : Bool :=
  0xDC00 ≤ unit && unit ≤ 0xDFFF

/-- The character of a surrogate pair. -/
def ofSurrogates (leading trailing : Nat) : Char :=
  Char.ofNat ((leading - 0xD800) * 0x400 + (trailing - 0xDC00) + 0x10000)

/-- The fault of a text where the second escape of a surrogate pair should stand. -/
def unfinishedPair : List Char → Error
  | [] | ['\\'] => .endInString
  | '\\' :: 'u' :: rest => unfinishedUnit rest
  | _ => .unfinishedSurrogatePair

/-- The character a letter stands for after a backslash. -/
def letterEscape? (c : Char) : Option Char :=
  if c = '"' ∨ c = '\\' ∨ c = '/' then some c
  else if c = 'b' then some '\x08'
  else if c = 'f' then some '\x0c'
  else if c = 'n' then some '\n'
  else if c = 'r' then some '\r'
  else if c = 't' then some '\t'
  else none

/-- A read string with one more character in front. -/
def prepend (c : Char) (read : Except Error (List Char × List Char)) :
    Except Error (List Char × List Char) :=
  read.map fun (text, rest) => (c :: text, rest)

/-- Reads a string after its opening quote. A hexadecimal escape of a leading surrogate is one
character together with the escape after it. -/
def stringRest : List Char → Except Error (List Char × List Char)
  | [] => .error .endInString
  | '"' :: rest => .ok ([], rest)
  | ['\\'] => .error .endInString
  | '\\' :: 'u' :: a :: b :: c :: d :: rest =>
      match hexUnit? a b c d with
      | none => .error .invalidEscape
      | some unit =>
          if isTrailingSurrogate unit then .error .loneSurrogate
          else if isLeadingSurrogate unit then
            match rest with
            | '\\' :: 'u' :: e :: f :: g :: h :: rest =>
                match hexUnit? e f g h with
                | none => .error .invalidEscape
                | some trailing =>
                    if isTrailingSurrogate trailing then
                      prepend (ofSurrogates unit trailing) (stringRest rest)
                    else .error .loneSurrogate
            | rest => .error (unfinishedPair rest)
          else prepend (Char.ofNat unit) (stringRest rest)
  | '\\' :: 'u' :: rest => .error (unfinishedUnit rest)
  | '\\' :: c :: rest =>
      match letterEscape? c with
      | some d => prepend d (stringRest rest)
      | none => .error .invalidEscape
  | c :: rest =>
      if c.toNat < 0x20 then .error .controlCharacter else prepend c (stringRest rest)

/-- Passes over a string after its opening quote. Surrogates need not come in pairs. -/
def skipStringRest : List Char → Except Error (List Char)
  | [] => .error .endInString
  | '"' :: rest => .ok rest
  | ['\\'] => .error .endInString
  | '\\' :: 'u' :: a :: b :: c :: d :: rest =>
      if (hexUnit? a b c d).isSome then skipStringRest rest else .error .invalidEscape
  | '\\' :: 'u' :: rest => .error (unfinishedUnit rest)
  | '\\' :: c :: rest =>
      if (letterEscape? c).isSome then skipStringRest rest else .error .invalidEscape
  | c :: rest => if c.toNat < 0x20 then .error .controlCharacter else skipStringRest rest

end AbiProbe.Json
