/-!
# Binary64 numbers

A floating-point number is held as its bit pattern, so that writing it to a file and reading it
back is exact, and so that every law about it is a law about natural numbers.

* `Binary64.compare?` orders numbers by the integer `Binary64.key`; only NaN is outside the order.
* `Binary64.ofRatio` rounds a quotient of natural numbers to the nearest number, ties to even.
* `Binary64.ofDecimal` reads a decimal, and `Binary64.ofInt` converts an integer, through it.
-/

set_option autoImplicit false

namespace Annals

/-- A 64-bit floating-point number in the binary interchange format, held as its bit pattern. -/
structure Binary64 where
  /-- The sign bit, eleven bits of exponent and fifty-two bits of fraction. -/
  bits : UInt64
  deriving DecidableEq, Inhabited

/-- The quotient of two natural numbers, rounded to the nearest one, a half to the even one. -/
def roundHalfEven (n d : Nat) : Nat :=
  let low := n / d
  let rest := 2 * (n % d)
  if rest < d then low
  else if d < rest then low + 1
  else if low % 2 = 0 then low
  else low + 1

namespace Binary64

def signWeight : Nat := 0x8000000000000000

/-- The magnitude of infinity: an exponent of ones and no fraction. -/
def infiniteMagnitude : Nat := 0x7ff0000000000000

/-- The weight of the least bit of the exponent. -/
def exponentStep : Nat := 0x10000000000000

def isNegative (x : Binary64) : Bool :=
  signWeight ≤ x.bits.toNat

def magnitude (x : Binary64) : Nat :=
  x.bits.toNat % signWeight

/-- Whether the pattern stands for no number at all. -/
def isNaN (x : Binary64) : Bool :=
  infiniteMagnitude < x.magnitude

/-- Whether the pattern stands for a number other than the infinities. -/
def isFinite (x : Binary64) : Bool :=
  x.magnitude < infiniteMagnitude

/-- The number with a given sign and magnitude. -/
def ofMagnitude (negative : Bool) (magnitude : Nat) : Binary64 :=
  ⟨UInt64.ofNat (if negative then signWeight + magnitude else magnitude)⟩

/-- The integer by which numbers are ordered: the magnitude with the sign of the number.

Both zeros have the key zero. -/
def key (x : Binary64) : Int :=
  if x.isNegative then -(x.magnitude : Int) else x.magnitude

/-- The order of numbers; NaN is comparable with nothing. -/
def compare? (x y : Binary64) : Option Ordering :=
  if x.isNaN || y.isNaN then none else some (compare x.key y.key)

/-- Whether two numbers are equal; NaN equals nothing and the two zeros are equal. -/
def equals (x y : Binary64) : Bool :=
  x.compare? y == some .eq

/-- The magnitude nearest to the quotient of two natural numbers, ties to even.

The quotient is counted in units of the smallest positive number, `2 ^ (-1074)`. Below `2 ^ 53`
units every whole number of units is representable; above, the last `shift` binary digits are
rounded away, and the sum of `shift` steps of exponent and the rounded digits is the pattern. -/
def roundMagnitude (n d : Nat) : Nat :=
  let scaled := n * Nat.pow 2 1074
  let shift := (scaled / d).log2 - 52
  min (shift * exponentStep + roundHalfEven scaled (d * Nat.pow 2 shift)) infiniteMagnitude

/-- The number nearest to a signed quotient of natural numbers. -/
def ofRatio (negative : Bool) (n d : Nat) : Binary64 :=
  ofMagnitude negative (roundMagnitude n d)

def ofInt (i : Int) : Binary64 :=
  ofRatio (i < 0) i.natAbs 1

/-- The number of decimal digits of a natural number; zero has one. -/
def decimalLength (n : Nat) : Nat :=
  if n < 10 then 1 else decimalLength (n / 10) + 1

/-- The magnitude nearest to `digits * 10 ^ exponent`.

A decimal that is out of range on either side by its length alone is not expanded. -/
def decimalMagnitude (digits : Nat) (exponent : Int) : Nat :=
  let top := (decimalLength digits : Int) + exponent
  if digits = 0 then 0
  else if 310 < top then infiniteMagnitude
  else if top < -330 then 0
  else if exponent < 0 then roundMagnitude digits (Nat.pow 10 exponent.natAbs)
  else roundMagnitude (digits * Nat.pow 10 exponent.toNat) 1

/-- The number nearest to the decimal `digits * 10 ^ exponent` with a sign. -/
def ofDecimal (negative : Bool) (digits : Nat) (exponent : Int) : Binary64 :=
  ofMagnitude negative (decimalMagnitude digits exponent)

/-- The number of units of `2 ^ (-1074)` in a finite magnitude. -/
def unitsOf (magnitude : Nat) : Nat :=
  let exponent := magnitude / exponentStep
  let fraction := magnitude % exponentStep
  if exponent = 0 then fraction else (exponentStep + fraction) * Nat.pow 2 (exponent - 1)

end Binary64

end Annals
