import AbiProbe.Text.Blank
import AbiProbe.Text.Hexadecimal

/-! # The symbols of a regular expression

A regular expression is read under a mode, which its flags change. Tables of Unicode classes and
letter cases are not at hand, and a match never ends inside a character: whatever would need one
or do the other is refused (`AbiProbe.Log.Pattern.Mode.allows`,
`AbiProbe.Log.Pattern.escape?`).
-/

namespace AbiProbe.Log.Pattern

/-- How the parts of a regular expression are read. -/
structure Mode where
  /-- Whether letters stand for both of their cases. -/
  ignoresCase : Bool
  /-- Whether blanks and comments stand for nothing. -/
  ignoresBlanks : Bool
  /-- Whether text is matched by the character; otherwise it is matched by the byte. -/
  unicode : Bool
deriving DecidableEq, Repr

namespace Mode

/-- The mode a regular expression starts in. -/
def initial : Mode := ⟨false, false, true⟩

/-- Whether a flag holds after a group of flags: as its letter stands before or after the dash,
and else as it was. -/
def flag (flags : List Char) (letter : Char) (was : Bool) : Bool :=
  if flags.contains letter then (flags.takeWhile (· ≠ '-')).contains letter else was

/-- The mode after a group of flags. -/
def update (mode : Mode) (flags : List Char) : Mode where
  ignoresCase := flag flags 'i' mode.ignoresCase
  ignoresBlanks := flag flags 'x' mode.ignoresBlanks
  unicode := flag flags 'u' mode.unicode

/-- Whether text of any case can be told from other text. -/
def tellsCase (mode : Mode) : Bool :=
  !(mode.ignoresCase && mode.unicode)

/-- Whether a class may hold a character. -/
def allows (mode : Mode) (c : Char) : Bool :=
  mode.tellsCase && (mode.unicode || c.toNat < 0x80)

/-- The text after its leading blanks and comments, which end with their line. -/
def dropBlanks (inComment : Bool) : List Char → List Char
  | [] => []
  | c :: rest =>
      if inComment then dropBlanks (c ≠ '\n') rest
      else if c = '#' then dropBlanks true rest
      else if Text.isBlank c then dropBlanks false rest
      else c :: rest

/-- The text from what stands for something on. -/
def skip (mode : Mode) (input : List Char) : List Char :=
  if mode.ignoresBlanks then dropBlanks false input else input

/-- The character by which a dash is judged that stands before a text. Blanks do not count, and of
a comment only its mark does not. -/
def ahead? (mode : Mode) (input : List Char) : Option Char :=
  if mode.ignoresBlanks then
    match input.dropWhile Text.isBlank with
    | '#' :: rest => (rest.dropWhile Text.isBlank).head?
    | rest => rest.head?
  else input.head?

end Mode

/-- What an escape stands for. -/
inductive Escape
  /-- A character. -/
  | character (c : Char)
  /-- Any character of a kind. -/
  | kind
  /-- A place between characters. -/
  | place
deriving DecidableEq, Repr

/-- Reads a number of a given count of hexadecimal digits. -/
def hexNumber? (mode : Mode) : (count value : Nat) → (input : List Char) →
    Option (Nat × List Char)
  | 0, value, input => some (value, input)
  | count + 1, value, input =>
      match mode.skip input with
      | [] => none
      | c :: rest =>
          match Text.hexValue? c with
          | some digit => hexNumber? mode count (value * 16 + digit) rest
          | none => none

/-- Reads a code point of a given count of hexadecimal digits. -/
def codePoint? (mode : Mode) (count : Nat) (input : List Char) : Option (Escape × List Char) := do
  let (value, rest) ← hexNumber? mode count 0 input
  if value.isValidChar then return (.character (Char.ofNat value), rest) else none

/-- Reads a byte of two hexadecimal digits. Matched by the byte, it must be a character. -/
def byte? (mode : Mode) (input : List Char) : Option (Escape × List Char) := do
  let (value, rest) ← hexNumber? mode 2 0 input
  if mode.unicode || value < 0x80 then return (.character (Char.ofNat value), rest) else none

/-- The character a letter stands for after a backslash. -/
def letterEscape? (c : Char) : Option Char :=
  if c = 'a' then some '\x07'
  else if c = 't' then some '\t'
  else if c = 'n' then some '\n'
  else if c = 'v' then some '\x0b'
  else if c = 'f' then some '\x0c'
  else if c = 'r' then some '\r'
  else none

/-- Whether a character stands for itself after a backslash. -/
def isEscapable (c : Char) : Bool :=
  c.toNat < 0x80 && !c.isAlphanum && c ≠ '<' && c ≠ '>'

/-- Reads an escape after its backslash. The kinds of characters and the ends of words are known
only by the byte. -/
def escape? (mode : Mode) : (input : List Char) → Option (Escape × List Char)
  | [] => none
  | 'x' :: rest => byte? mode rest
  | 'u' :: rest => codePoint? mode 4 rest
  | 'U' :: rest => codePoint? mode 8 rest
  | c :: rest =>
      if ['d', 's', 'w'].contains c then if mode.unicode then none else some (.kind, rest)
      else if ['b', 'B', '<', '>'].contains c then
        if mode.unicode then none else some (.place, rest)
      else if ['A', 'z'].contains c then some (.place, rest)
      else if isEscapable c then some (.character c, rest)
      else (letterEscape? c).map fun d => (.character d, rest)

end AbiProbe.Log.Pattern
