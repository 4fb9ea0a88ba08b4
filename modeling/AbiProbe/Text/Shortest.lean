import AbiProbe.Text.Decimal

/-! # The shortest decimal of a binary floating-point number

A binary64 number stands for every real number that rounds to it. Its shortest decimal is the
one with the fewest significant digits among those reals, and of these the nearest to the
number itself (`AbiProbe.Text.Shortest.ofMagnitude`).
-/

namespace AbiProbe.Text.Shortest

/-- A positive decimal: a significand times a power of ten. -/
structure Decimal10 where
  /-- The significand. -/
  significand : Nat
  /-- The power of ten. -/
  exponent : Int
deriving DecidableEq, Repr

/-- The magnitude of a finite binary number: a significand times a power of two. -/
structure Magnitude where
  /-- The significand. -/
  significand : Nat
  /-- The power of two. -/
  exponent : Int
  /-- Whether the number below is only half a step away, as it is at a power of two. -/
  narrowBelow : Bool
deriving DecidableEq, Repr

/-- The magnitude of a finite binary64 number. -/
def Magnitude.ofFloat (value : Float) : Magnitude :=
  let bits := value.toBits.toNat
  let fraction := bits % Nat.pow 2 52
  let biased : Nat := bits / Nat.pow 2 52 % Nat.pow 2 11
  if biased = 0 then ⟨fraction, -1074, false⟩
  else ⟨Nat.pow 2 52 + fraction, Int.ofNat biased - 1075, fraction = 0 && biased ≠ 1⟩

/-- A positive rational number. -/
structure Ratio where
  /-- The numerator. -/
  numerator : Nat
  /-- The denominator. -/
  denominator : Nat

/-- A number of quarter steps of a magnitude as a ratio. -/
def Magnitude.quarters (magnitude : Magnitude) (count : Nat) : Ratio :=
  if 2 ≤ magnitude.exponent then ⟨count * Nat.pow 2 (magnitude.exponent - 2).toNat, 1⟩
  else ⟨count, Nat.pow 2 (2 - magnitude.exponent).toNat⟩

/-- Whether a decimal rounds to a magnitude. The ends of the interval belong to it exactly if
the significand is even. -/
def Magnitude.reads (magnitude : Magnitude) (decimal : Decimal10) : Bool :=
  let below := if magnitude.narrowBelow then 1 else 2
  let least := magnitude.quarters (4 * magnitude.significand - below)
  let greatest := magnitude.quarters (4 * magnitude.significand + 2)
  let scaled := decimal.significand * Nat.pow 10 decimal.exponent.toNat
  let divisor := Nat.pow 10 (-decimal.exponent).toNat
  let atLeast := least.numerator * divisor
  let atMost := greatest.numerator * divisor
  if magnitude.significand % 2 = 0 then
    atLeast ≤ scaled * least.denominator && scaled * greatest.denominator ≤ atMost
  else
    atLeast < scaled * least.denominator && scaled * greatest.denominator < atMost

/-- The greatest power of ten not above a positive ratio. -/
def Ratio.log10 (ratio : Ratio) : Int :=
  if ratio.denominator ≤ ratio.numerator then
    ((Nat.toDigits 10 (ratio.numerator / ratio.denominator)).length : Int) - 1
  else
    match (List.range 400).find? fun places =>
        ratio.denominator ≤ ratio.numerator * Nat.pow 10 places with
    | some places => -(places : Int)
    | none => 0

/-- The decimal with a given last place that reads back as a magnitude and is nearest to it, if
one of its two neighbours on that grid does. A tie goes to the even neighbour. -/
def Magnitude.onGrid? (magnitude : Magnitude) (place : Int) : Option Decimal10 :=
  let ratio := magnitude.quarters (4 * magnitude.significand)
  let numerator := ratio.numerator * Nat.pow 10 (-place).toNat
  let denominator := ratio.denominator * Nat.pow 10 place.toNat
  let low := numerator / denominator
  let twiceRest := 2 * (numerator % denominator)
  let below : Decimal10 := ⟨low, place⟩
  let above : Decimal10 := ⟨low + 1, place⟩
  let nearer :=
    if twiceRest < denominator ∨ (twiceRest = denominator ∧ low % 2 = 0) then [below, above]
    else [above, below]
  nearer.find? fun decimal => 0 < decimal.significand && magnitude.reads decimal

/-- The shortest decimal of a positive magnitude; seventeen digits always suffice. -/
def ofMagnitude (magnitude : Magnitude) : Decimal10 :=
  let leading := (magnitude.quarters (4 * magnitude.significand)).log10
  match (List.range 17).findSome? fun further : Nat =>
      magnitude.onGrid? (leading - Int.ofNat further) with
  | some decimal => decimal
  | none => ⟨magnitude.significand, magnitude.exponent⟩

/-- The digits of a significand without the zeros at its end. -/
def significantDigits (decimal : Decimal10) : List Char :=
  ((Decimal.digits decimal.significand).reverse.dropWhile (· = '0')).reverse

/-- The exponent of a scientific text: always with its sign, in as few digits as it has. -/
def exponentText (exponent : Int) : List Char :=
  ['e', if exponent < 0 then '-' else '+'] ++ Decimal.digits exponent.natAbs

/-- The text of digits whose decimal point stands after the first `point` of them. The text is
positional up to sixteen places before the point and down to the fifth place after it, and
scientific beyond. -/
def layOut (digits : List Char) (point : Int) : List Char :=
  let count : Int := digits.length
  if count ≤ point ∧ point ≤ 16 then
    digits ++ List.replicate (point - count).toNat '0' ++ ['.', '0']
  else if 0 < point ∧ point ≤ 16 then
    digits.take point.toNat ++ '.' :: digits.drop point.toNat
  else if -5 < point ∧ point ≤ 0 then
    '0' :: '.' :: (List.replicate (-point).toNat '0' ++ digits)
  else
    let exponent := exponentText (point - 1)
    match digits with
    | [] => exponent
    | [digit] => digit :: exponent
    | digit :: more => digit :: '.' :: (more ++ exponent)

/-- The text of a finite binary64 number by its shortest decimal. -/
def text (value : Float) : String :=
  let magnitude := Magnitude.ofFloat value
  let sign := if value.toBits.toNat / Nat.pow 2 63 = 1 then ['-'] else []
  if magnitude.significand = 0 then String.ofList (sign ++ ['0', '.', '0'])
  else
    let decimal := ofMagnitude magnitude
    let digits := significantDigits decimal
    let point := decimal.exponent + (Decimal.digits decimal.significand).length
    String.ofList (sign ++ layOut digits point)

end AbiProbe.Text.Shortest
