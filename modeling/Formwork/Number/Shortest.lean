import Formwork.Number.Binary64
/-!
# The shortest decimal that reads back

A binary64 number is printed with the fewest significant digits that denote it, and among those of
one length with the nearest.  On each length only the two neighbours of the value on that decimal grid
can do, so `Magnitude.shortest?` tests these two, by reading them back, for one digit, two digits and so
on.  Seventeen digits always suffice; the exact expansion `Magnitude.expansion` stands behind them so
that the function is total without a further argument.
-/
namespace Formwork

/-- The decimal `digits * 10 ^ scale`. -/
structure Decimal where
  /-- The significant digits, as one whole number. -/
  digits : Nat
  /-- The power of ten that multiplies them. -/
  scale : Int
deriving DecidableEq, Inhabited

namespace Decimal

/-- The same decimal without trailing zeros among its digits. -/
def trimmed (d : Decimal) : Nat → Decimal
  | 0 => d
  | fuel + 1 =>
    if d.digits ≠ 0 ∧ d.digits % 10 = 0 then trimmed ⟨d.digits / 10, d.scale + 1⟩ fuel else d

/-- The finite magnitude nearest to the decimal. -/
def magnitude? (d : Decimal) : Option Magnitude :=
  Magnitude.nearest? (d.digits * Nat.pow 10 d.scale.toNat) (Nat.pow 10 (-d.scale).toNat)

end Decimal

namespace Magnitude

/-- The exponent of the leading decimal digit of a positive fraction: the greatest `k` with
`10 ^ k ≤ numerator / denominator`. -/
def leadingPlace (numerator denominator : Nat) : Int :=
  if denominator ≤ numerator then (Binary64.decimalWidth (numerator / denominator) : Int) - 1
  else -(Binary64.decimalWidth ((denominator - 1) / numerator) : Int)

/-- The decimals next to the magnitude on the grid of `10 ^ scale`, the nearer first; of two equally
near the one with an even last digit. -/
def neighbours (x : Magnitude) (scale : Int) : List Decimal :=
  let numerator := x.units * Nat.pow 10 (-scale).toNat
  let denominator := unitsPerOne * Nat.pow 10 scale.toNat
  let below := numerator / denominator
  let twice := 2 * (numerator % denominator)
  if twice < denominator ∨ (twice = denominator ∧ below % 2 = 0) then
    [⟨below, scale⟩, ⟨below + 1, scale⟩]
  else
    [⟨below + 1, scale⟩, ⟨below, scale⟩]

/-- The magnitude written out in full. -/
def expansion (x : Magnitude) : Decimal := ⟨x.units * Nat.pow 5 1074, -1074⟩

/-- The nearest decimal of at most this many digits that reads back as the magnitude. -/
def readable? (x : Magnitude) (width : Nat) : Option Decimal :=
  (x.neighbours (leadingPlace x.units unitsPerOne + 1 - width)).find? fun d => d.magnitude? == some x

/-- The decimal of fewest digits that reads back as the magnitude. -/
def shortest (x : Magnitude) : Decimal :=
  match (List.range' 1 17).findSome? x.readable? with
  | some d => d.trimmed 20
  | none => x.expansion.trimmed 1100

end Magnitude

namespace Binary64

/-- A row of zeros. -/
def zeros (n : Nat) : List Char := List.replicate n '0'

/-- The digits of a decimal with a point: positional where the leading digit stands from four places
behind the point to sixteen in front of it, with a signed exponent of at least two digits elsewhere. -/
def layout (d : Decimal) : List Char :=
  let digits := Nat.toDigits 10 d.digits
  let point := (digits.length : Int) + d.scale
  if -4 < point ∧ point ≤ 0 then '0' :: '.' :: (zeros (-point).toNat ++ digits)
  else if 0 < point ∧ point ≤ 16 then
    if point < digits.length then digits.take point.toNat ++ '.' :: digits.drop point.toNat
    else digits ++ zeros (point.toNat - digits.length) ++ ['.', '0']
  else
    let exponent := point - 1
    let power := Nat.toDigits 10 exponent.natAbs
    digits.take 1 ++ (if digits.length = 1 then [] else '.' :: digits.drop 1)
      ++ 'e' :: (if exponent < 0 then '-' else '+') :: (zeros (2 - power.length) ++ power)

/-- The words for numbers that have no digits. -/
structure Words where
  /-- The word for what is no number. -/
  nan : String
  /-- The word for the positive infinity. -/
  infinity : String

/-- The words of a JSON text. -/
def Words.json : Words := ⟨"NaN", "Infinity"⟩

/-- The words of displayed text. -/
def Words.display : Words := ⟨"nan", "inf"⟩

/-- The text of a number: the shortest decimal that reads back, always with a point or an exponent. -/
def text (words : Words) : Binary64 → List Char
  | nan => words.nan.toList
  | infinite negative => (if negative then ['-'] else []) ++ words.infinity.toList
  | finite negative x =>
    (if negative then ['-'] else [])
      ++ (if x.significand = 0 then ['0', '.', '0'] else layout x.shortest)

end Binary64

end Formwork
