import AbiProbe.Json.Error

/-! # Numbers in a JSON text

An integer that fits 64 bits is read exactly; every other number is read as binary64, from the
digits that fit an unsigned 64-bit significand and a power of ten
(`AbiProbe.Json.Number.read`).
-/

namespace AbiProbe.Json

/-- The value of an ASCII digit. -/
def digitValue? (c : Char) : Option Nat :=
  if c.isDigit then some (c.toNat - '0'.toNat) else none

/-- The greatest exponent whose power of ten is a binary64 number. -/
def greatestPower : Nat := 308

/-- A binary64 number divided by a power of ten, by at most `rounds` full powers first. -/
def divideByPower (value : Float) (places : Nat) : (rounds : Nat) → Float
  | 0 => value / Float.ofScientific 1 false places
  | rounds + 1 =>
      if places ≤ greatestPower then value / Float.ofScientific 1 false places
      else if value == 0 then value
      else divideByPower (value / Float.ofScientific 1 false greatestPower)
        (places - greatestPower) rounds

/-- The magnitude of a significand times a power of ten. A significand of 64 bits is zero after
three divisions by the greatest power, so four rounds are enough. -/
def realMagnitude (significand : Nat) (exponent : Int) : Except Error Float :=
  let value := (UInt64.ofNat significand).toFloat
  if exponent < 0 then .ok (divideByPower value exponent.natAbs 4)
  else if greatestPower < exponent.toNat then
    if significand = 0 then .ok value else .error .numberOutOfRange
  else
    let scaled := value * Float.ofScientific 1 false exponent.toNat
    if scaled.isInf then .error .numberOutOfRange else .ok scaled

/-- The real number with a sign, a significand and a power of ten. -/
def signedReal (negative : Bool) (significand : Nat) (exponent : Int) : Except Error Number := do
  let magnitude ← realMagnitude significand exponent
  return .real (if negative then -magnitude else magnitude)

/-- The greatest significand of a number. -/
def greatestSignificand : Nat := UInt64.size - 1

/-- The greatest exponent that is told from an infinite one. -/
def greatestExponent : Nat := Nat.pow 2 31 - 1

/-- Extends a number by digits as long as it stays within a limit: the number, how many digits
it took, and the rest of the text. -/
def takeDigits (limit : Nat) : (value taken : Nat) → List Char → Nat × Nat × List Char
  | value, taken, [] => (value, taken, [])
  | value, taken, c :: rest =>
      match digitValue? c with
      | some digit =>
          if value * 10 + digit ≤ limit then takeDigits limit (value * 10 + digit) (taken + 1) rest
          else (value, taken, c :: rest)
      | none => (value, taken, c :: rest)

/-- The number of digits a text starts with, and the rest of it. -/
def countDigits (input : List Char) : Nat × List Char :=
  ((input.takeWhile Char.isDigit).length, input.dropWhile Char.isDigit)

/-- Reads the exponent after its letter and finishes the number. -/
def readExponent (negative : Bool) (significand : Nat) (start : Int) (input : List Char) :
    Except Error (Number × List Char) := do
  let (down, unsignedPart) := match input with
    | '+' :: rest => (false, rest)
    | '-' :: rest => (true, rest)
    | rest => (false, rest)
  match unsignedPart with
  | [] => .error .endInValue
  | c :: _ =>
      if !c.isDigit then .error .invalidNumber
      else
        let (value, _, rest) := takeDigits greatestExponent 0 0 unsignedPart
        match rest with
        | next :: _ =>
            if next.isDigit then
              if significand ≠ 0 ∧ !down then .error .numberOutOfRange
              else .ok (.real (if negative then -0.0 else 0.0), rest.dropWhile Char.isDigit)
            else
              let number ← signedReal negative significand
                (if down then start - value else start + value)
              return (number, rest)
        | [] =>
            let number ← signedReal negative significand
              (if down then start - value else start + value)
            return (number, rest)

/-- Finishes a number after its digits: with an exponent, or as it stands. -/
def finishReal (negative : Bool) (significand : Nat) (exponent : Int) (input : List Char) :
    Except Error (Number × List Char) := do
  match input with
  | 'e' :: rest | 'E' :: rest => readExponent negative significand exponent rest
  | _ => return (← signedReal negative significand exponent, input)

/-- Reads the digits after a decimal point and finishes the number. Digits beyond the
significand are passed over. -/
def readFraction (negative : Bool) (significand : Nat) (start : Int) (input : List Char) :
    Except Error (Number × List Char) :=
  match input with
  | [] => .error .endInValue
  | c :: _ =>
      if !c.isDigit then .error .invalidNumber
      else
        let (value, taken, rest) := takeDigits greatestSignificand significand 0 input
        finishReal negative value (start - taken) (rest.dropWhile Char.isDigit)

/-- An integer with a given magnitude. A negative zero is a real number. -/
def integerNumber (negative : Bool) (significand : Nat) : Number :=
  if !negative then .unsigned (UInt64.ofNat significand)
  else if 0 < significand ∧ significand ≤ Nat.pow 2 63 then .negative (Int64.ofInt (-significand))
  else .real (-(UInt64.ofNat significand).toFloat)

/-- Reads a number after its sign. -/
def Number.read (negative : Bool) (input : List Char) : Except Error (Number × List Char) :=
  match input with
  | [] => .error .endInValue
  | first :: afterFirst =>
      if !first.isDigit then .error .invalidNumber
      else if first = '0' ∧ (afterFirst.head?.any Char.isDigit) then .error .invalidNumber
      else
        let (significand, _, rest) := takeDigits greatestSignificand 0 0 input
        let (skipped, rest) := countDigits rest
        match rest with
        | '.' :: fraction => readFraction negative significand skipped fraction
        | _ =>
            if skipped = 0 ∧ rest.head? ≠ some 'e' ∧ rest.head? ≠ some 'E' then
              .ok (integerNumber negative significand, rest)
            else finishReal negative significand skipped rest

end AbiProbe.Json
