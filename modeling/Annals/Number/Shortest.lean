import Annals.Number.Binary64

/-!
# Shortest decimals and the text of a number

A finite number is written with the fewest significant digits that read back as the same number.
`Binary64.shortest` finds them by trying one digit, two digits, and so on: on each grid of
decimals only the two neighbours of the number can read back if any point of the grid does.

`Binary64.text` lays the digits out. A fraction is always present, numbers from `10 ^ 16` on and
numbers below `10 ^ (-4)` have an exponent, and an exponent has a sign and two digits at least.
-/

set_option autoImplicit false

namespace Annals

/-- A decimal `d.ddd * 10 ^ exponent`, held as the whole number `ddd…` of its digits. -/
structure Decimal where
  /-- The digits, as one natural number. -/
  digits : Nat
  /-- The power of ten that belongs to the first digit. -/
  exponent : Int
  deriving DecidableEq, Inhabited

namespace Binary64

/-- The power of ten of the first digit of a positive number of units of `2 ^ (-1074)`.

Such a number is above `10 ^ (-324)`, so that scaling by that power makes it a whole number. -/
def decimalExponent (units : Nat) : Int :=
  (decimalLength (units * Nat.pow 10 324 / Nat.pow 2 1074) : Int) - 325

/-- The quotient `units * 2 ^ (-1074) / 10 ^ position` as a numerator and a denominator. -/
def onGrid (units : Nat) (position : Int) : Nat × Nat :=
  if position < 0 then (units * Nat.pow 10 position.natAbs, Nat.pow 2 1074)
  else (units, Nat.pow 2 1074 * Nat.pow 10 position.toNat)

/-- The decimal with at most `count` digits that reads back as `magnitude`, if there is one.

Of the two neighbours on the grid the nearer one is taken, and of two equally near ones the
larger. -/
def readsBackWith (magnitude : Nat) (exponent : Int) (count : Nat) : Option (Nat × Int) :=
  let position := exponent - (count : Int) + 1
  let (n, d) := onGrid (unitsOf magnitude) position
  let low := n / d
  let rest := 2 * (n % d)
  let lowReads := decimalMagnitude low position == magnitude
  let highReads := decimalMagnitude (low + 1) position == magnitude
  if lowReads && (!highReads || rest < d) then some (low, position)
  else if highReads then some (low + 1, position)
  else none

/-- The number without its trailing zeros, with the count of the digits that are left. -/
def trimZeros (fuel digits : Nat) : Nat :=
  match fuel with
  | 0 => digits
  | fuel + 1 => if digits % 10 = 0 ∧ digits ≠ 0 then trimZeros fuel (digits / 10) else digits

/-- The decimal `digits * 10 ^ position` in normal form. -/
def normalDecimal (digits : Nat) (position : Int) : Decimal :=
  let first := (decimalLength digits : Int) - 1 + position
  ⟨trimZeros (decimalLength digits) digits, first⟩

/-- The decimal with the fewest digits that reads back as a positive finite magnitude.

Seventeen digits always suffice; the exact value in units is the answer of last resort. -/
def shortest (magnitude : Nat) : Decimal :=
  let exponent := decimalExponent (unitsOf magnitude)
  let found := (List.range 17).findSome? fun n => readsBackWith magnitude exponent (n + 1)
  let decimal := found.getD (unitsOf magnitude * Nat.pow 5 1074, -1074)
  normalDecimal decimal.1 decimal.2

/-- The mantissa with one digit before the point and at least one after it. -/
def mantissaText (digits : List Char) : String :=
  match digits with
  | [] => "0.0"
  | [d] => String.ofList [d, '.', '0']
  | d :: rest => String.ofList (d :: '.' :: rest)

/-- An exponent with its sign and at least two digits. -/
def exponentText (exponent : Int) : String :=
  let digits := toString exponent.natAbs
  (if exponent < 0 then "e-" else "e+") ++ (if digits.length < 2 then "0" ++ digits else digits)

/-- Digits without an exponent; `exponent` is the power of ten of the first one. -/
def positionalText (digits : List Char) (exponent : Int) : String :=
  if exponent < 0 then
    "0." ++ String.ofList (List.replicate (exponent.natAbs - 1) '0' ++ digits)
  else
    let whole := exponent.toNat + 1
    let before := (digits ++ List.replicate (whole - digits.length) '0').take whole
    let after := digits.drop whole
    String.ofList before ++ "." ++ (if after.isEmpty then "0" else String.ofList after)

/-- The first power of ten that is written with an exponent. -/
def largePower : Int := 16

/-- The last power of ten that is written without an exponent. -/
def smallPower : Int := -4

/-- The text of a finite magnitude. -/
def magnitudeText (magnitude : Nat) : String :=
  if magnitude = 0 then "0.0" else
  let decimal := shortest magnitude
  let digits := (toString decimal.digits).toList
  if largePower ≤ decimal.exponent ∨ decimal.exponent < smallPower then
    mantissaText digits ++ exponentText decimal.exponent
  else positionalText digits decimal.exponent

/-- The text of a number, as a query writes it; NaN and the infinities have names. -/
def text (x : Binary64) : String :=
  if x.isNaN then "NaN"
  else (if x.isNegative then "-" else "")
    ++ (if x.isFinite then magnitudeText x.magnitude else "inf")

end Binary64

end Annals
