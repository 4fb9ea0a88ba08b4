/-! # UTF-8

Bytes are read as UTF-8 from left to right (`AbiProbe.Text.Utf8.decode`). A stretch of bytes
that starts a character and cannot be continued is ill-formed as a whole; so is a byte that
starts none. Lossy decoding puts one replacement character for each ill-formed stretch, strict
decoding accepts only bytes without one.
-/

namespace AbiProbe.Text.Utf8

/-- A character of which at least the first byte has been read and at least one is to come. -/
structure Partial where
  /-- How many bytes are to come after the next one. -/
  after : Nat
  /-- The least value the next byte may have. -/
  low : UInt8
  /-- The greatest value the next byte may have. -/
  high : UInt8
  /-- The bits of the code point read so far. -/
  bits : Nat
deriving DecidableEq, Repr

/-- What a byte is at the start of a character. -/
inductive Lead
  /-- A character of its own. -/
  | complete (c : Char)
  /-- The first of several bytes. -/
  | opens (start : Partial)
  /-- No start of a character. -/
  | invalid
deriving DecidableEq, Repr

/-- Classifies the first byte of a character. The bounds on the second byte leave out overlong
forms, surrogates and code points above the last one. -/
def Lead.ofByte (byte : UInt8) : Lead :=
  if byte < 0x80 then .complete (Char.ofNat byte.toNat)
  else if byte < 0xC2 then .invalid
  else if byte < 0xE0 then .opens ⟨0, 0x80, 0xBF, byte.toNat % 0x20⟩
  else if byte < 0xF0 then
    .opens ⟨1, if byte = 0xE0 then 0xA0 else 0x80, if byte = 0xED then 0x9F else 0xBF,
      byte.toNat % 0x10⟩
  else if byte < 0xF5 then
    .opens ⟨2, if byte = 0xF0 then 0x90 else 0x80, if byte = 0xF4 then 0x8F else 0xBF,
      byte.toNat % 0x8⟩
  else .invalid

/-- A decoded piece of a byte string: a character, or `none` for an ill-formed stretch. -/
abbrev Piece := Option Char

/-- Reads a byte at the start of a character: the finished piece, if any, and the character
left open, if any. -/
def start (byte : UInt8) : List Piece × Option Partial :=
  match Lead.ofByte byte with
  | .complete c => ([some c], none)
  | .opens open_ => ([], some open_)
  | .invalid => ([none], none)

/-- Reads a byte after an open character. A byte that does not continue it ends an ill-formed
stretch and starts afresh. -/
def continueWith (open_ : Partial) (byte : UInt8) : List Piece × Option Partial :=
  if open_.low ≤ byte ∧ byte ≤ open_.high then
    let bits := open_.bits * 0x40 + byte.toNat % 0x40
    match open_.after with
    | 0 => ([some (Char.ofNat bits)], none)
    | after + 1 => ([], some ⟨after, 0x80, 0xBF, bits⟩)
  else
    let (pieces, next) := start byte
    (none :: pieces, next)

/-- Reads one byte after an open character or at the start of one. -/
def step : Option Partial → UInt8 → List Piece × Option Partial
  | none, byte => start byte
  | some open_, byte => continueWith open_ byte

/-- The pieces of a byte string read after an open character; one left open at the end is
ill-formed. -/
def decodeFrom : Option Partial → List UInt8 → List Piece
  | none, [] => []
  | some _, [] => [none]
  | before, byte :: rest => (step before byte).1 ++ decodeFrom (step before byte).2 rest

/-- The pieces of a byte string: its characters and its maximal ill-formed stretches. -/
def decode (bytes : List UInt8) : List Piece :=
  decodeFrom none bytes

/-- The text of a byte string with a replacement character for each ill-formed stretch. -/
def decodeLossy (bytes : List UInt8) : String :=
  String.ofList ((decode bytes).map (·.getD '\uFFFD'))

/-- The characters of pieces that are all well-formed. -/
def allChars? : List Piece → Option (List Char)
  | [] => some []
  | none :: _ => none
  | some c :: rest => (allChars? rest).map (c :: ·)

/-- The text of a byte string that is well-formed UTF-8. -/
def decode? (bytes : List UInt8) : Option String :=
  (allChars? (decode bytes)).map String.ofList

/-- The bytes of a text. -/
def encode (text : String) : List UInt8 :=
  text.toList.flatMap String.utf8EncodeChar

end AbiProbe.Text.Utf8
