/-!
# Binary64 numbers in exact arithmetic

A JSON number with a fraction or an exponent is held as a binary64 number.  The library only reads,
compares and prints such numbers, so a value is kept as data — a sign and `significand · 2 ^ exponent`
in units of the smallest positive number `2 ^ -1074` — and rounding is integer arithmetic that a proof
can follow.  `Magnitude.canonical` leaves one representation for each magnitude, hence equality of
values is equality of the numbers they stand for, except that the two zeros stay apart.
-/
namespace Formwork

/-- A finite magnitude, `significand * 2 ^ exponent` in units of `2 ^ -1074`. -/
structure Magnitude where
  /-- At most 53 binary digits. -/
  significand : Nat
  /-- The power of two in front of the smallest unit. -/
  exponent : Nat
  /-- Below the smallest exponent's range every significand has exactly 53 digits, and nothing is
  larger than the greatest finite number. -/
  canonical : significand < 1 <<< 53 ∧ (exponent = 0 ∨ 1 <<< 52 ≤ significand) ∧ exponent ≤ 2045
deriving DecidableEq

namespace Magnitude

/-- Nothing. -/
def zero : Magnitude := ⟨0, 0, by decide⟩

instance : Inhabited Magnitude := ⟨zero⟩

/-- The magnitude with these parts, if they are canonical. -/
def ofParts? (significand exponent : Nat) : Option Magnitude :=
  if h : significand < 1 <<< 53 ∧ (exponent = 0 ∨ 1 <<< 52 ≤ significand) ∧ exponent ≤ 2045 then
    some ⟨significand, exponent, h⟩
  else
    none

/-- The magnitude as a whole number of units `2 ^ -1074`. -/
def units (x : Magnitude) : Nat := x.significand <<< x.exponent

/-- The number of units in one. -/
def unitsPerOne : Nat := 1 <<< 1074

/-- The quotient `a / b` rounded to the nearest whole number, a half going to the even neighbour. -/
def roundedQuotient (a b : Nat) : Nat :=
  let quotient := a / b
  let twice := 2 * (a % b)
  if twice < b then quotient
  else if b < twice then quotient + 1
  else if quotient % 2 = 0 then quotient
  else quotient + 1

/-- The magnitude nearest to `numerator / denominator`, or nothing when that lies beyond the finite
range.  The exponent is the least one that leaves the significand 53 digits; rounding up may carry
into a 54th, which is then the next exponent's smallest significand. -/
def nearest? (numerator denominator : Nat) : Option Magnitude :=
  let scaled := numerator * unitsPerOne
  let exponent := (scaled / denominator).log2 - 52
  let significand := roundedQuotient scaled (denominator <<< exponent)
  if significand < 1 <<< 53 then ofParts? significand exponent
  else ofParts? (1 <<< 52) (exponent + 1)

/-- The whole number that the magnitude is, if it is one. -/
def toNat? (x : Magnitude) : Option Nat :=
  if x.units % unitsPerOne = 0 then some (x.units / unitsPerOne) else none

end Magnitude

/-- A binary64 number. -/
inductive Binary64
  | finite (negative : Bool) (magnitude : Magnitude)
  | infinite (negative : Bool)
  | nan
deriving DecidableEq, Inhabited

namespace Binary64

/-- How many digits a whole number has in base ten. -/
def decimalWidth (n : Nat) : Nat := (Nat.toDigits 10 n).length

/-- The number nearest to `digits * 10 ^ scale`, with a sign.  Powers of ten far outside the range are
settled by the width alone, so a huge scale costs nothing. -/
def ofDecimal (negative : Bool) (digits : Nat) (scale : Int) : Binary64 :=
  if digits = 0 then finite negative .zero
  else if 400 < scale then infinite negative
  else if scale < -(400 + decimalWidth digits : Int) then finite negative .zero
  else
    match Magnitude.nearest? (digits * Nat.pow 10 scale.toNat) (Nat.pow 10 (-scale).toNat) with
    | some magnitude => finite negative magnitude
    | none => infinite negative

/-- Whether the number equals zero, whichever its sign. -/
def isZero : Binary64 → Bool
  | finite _ x => x.significand = 0
  | _ => false

/-- Whether the number is neither infinite nor undefined. -/
def isFinite : Binary64 → Bool
  | finite _ _ => true
  | _ => false

/-- The whole number that the value is, if it is one. -/
def toInt? : Binary64 → Option Int
  | finite negative x => x.toNat?.map fun n => if negative then -(n : Int) else n
  | _ => none

end Binary64

end Formwork
