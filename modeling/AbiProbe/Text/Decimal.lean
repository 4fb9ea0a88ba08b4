/-! # Decimal numbers as text

An unsigned integer is read from ASCII digits with an optional `+`, a signed one also with a
`-`. A number outside the 64-bit range is refused, never wrapped. A real number is only
recognised (`AbiProbe.Text.Decimal.isReal`).
-/

namespace AbiProbe.Text.Decimal

/-- The number written by a non-empty sequence of ASCII digits. -/
def natural? (text : List Char) : Option Nat :=
  if !text.isEmpty && text.all Char.isDigit then some (Nat.ofDigitChars 10 text 0) else none

/-- Reads an unsigned 64-bit integer: an optional `+` and digits. -/
def unsigned? (text : List Char) : Option UInt64 :=
  let digits := match text with
    | '+' :: digits => digits
    | digits => digits
  match natural? digits with
  | some value => if value < UInt64.size then some (UInt64.ofNat value) else none
  | none => none

/-- The integer written by digits with an optional sign. -/
def integer? : List Char → Option Int
  | '+' :: digits => (natural? digits).map Int.ofNat
  | '-' :: digits => (natural? digits).map fun value => -Int.ofNat value
  | digits => (natural? digits).map Int.ofNat

/-- Reads a signed 64-bit integer: an optional sign and digits. -/
def signed? (text : List Char) : Option Int64 :=
  match integer? text with
  | some value =>
      if Int64.minValue.toInt ≤ value ∧ value ≤ Int64.maxValue.toInt then
        some (Int64.ofInt value)
      else none
  | none => none

/-- The decimal digits of a natural number, without leading zeros. -/
def digits (value : Nat) : List Char :=
  Nat.toDigits 10 value

/-- The decimal text of an integer: a `-` in front of a negative one. -/
def ofInt (value : Int) : String :=
  if value < 0 then String.ofList ('-' :: digits value.natAbs)
  else String.ofList (digits value.natAbs)

/-- The decimal text of a natural number. -/
def ofNat (value : Nat) : String :=
  String.ofList (digits value)

/-! ## Real numbers -/

/-- The text after an optional sign. -/
def afterSign : List Char → List Char
  | '+' :: rest | '-' :: rest => rest
  | rest => rest

/-- Whether a text writes a power of ten after a number, or nothing. -/
def isPower : List Char → Bool
  | [] => true
  | 'e' :: rest | 'E' :: rest => !(afterSign rest).isEmpty && (afterSign rest).all Char.isDigit
  | _ => false

/-- Whether a text writes a number without a sign: digits with at most one point before, among
or after them, and an optional power of ten. -/
def isMagnitude (text : List Char) : Bool :=
  let whole := text.takeWhile Char.isDigit
  match text.dropWhile Char.isDigit with
  | '.' :: rest =>
      !(whole.isEmpty && (rest.takeWhile Char.isDigit).isEmpty) &&
        isPower (rest.dropWhile Char.isDigit)
  | rest => !whole.isEmpty && isPower rest

/-- The names of what is written without digits. -/
def namedReals : List String := ["inf", "infinity", "nan"]

/-- Whether a text writes a real number: a magnitude, or a name in any case of its letters, with
an optional sign. -/
def isReal (text : List Char) : Bool :=
  let unsignedPart := afterSign text
  isMagnitude unsignedPart ||
    namedReals.contains (String.ofList (unsignedPart.map Char.toLower))

end AbiProbe.Text.Decimal
