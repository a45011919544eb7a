/-!
# Hexadecimal text

Reading digits to the base sixteen, of either case, and writing them in lower case.
-/

set_option autoImplicit false

namespace Annals.Hex

/-- The value of a hexadecimal digit. -/
def digitValue? (c : Char) : Option Nat :=
  if '0' ≤ c ∧ c ≤ '9' then some (c.toNat - '0'.toNat)
  else if 'a' ≤ c ∧ c ≤ 'f' then some (c.toNat - 'a'.toNat + 10)
  else if 'A' ≤ c ∧ c ≤ 'F' then some (c.toNat - 'A'.toNat + 10)
  else none

/-- The number that follows `value` when the digits are appended to it. -/
def appendDigits? (value : Nat) : List Char → Option Nat
  | [] => some value
  | c :: rest => (digitValue? c).bind fun d => appendDigits? (value * 16 + d) rest

/-- The number written by a non-empty list of digits. -/
def ofDigits? (digits : List Char) : Option Nat :=
  if digits.isEmpty then none else appendDigits? 0 digits

/-- The lower-case digits of a number, without leading zeros. -/
def digits (n : Nat) : List Char :=
  Nat.toDigits 16 n

def byteDigits (b : UInt8) : List Char :=
  let text := digits b.toNat
  if b.toNat < 16 then '0' :: text else text

/-- The lower-case digits of a list of bytes, two for each. -/
def ofBytes (bytes : List UInt8) : String :=
  String.ofList (bytes.flatMap byteDigits)

/-- The bytes written by pairs of digits. -/
def toBytes? : List Char → Option (List UInt8)
  | [] => some []
  | [_] => none
  | a :: b :: rest => do
    let high ← digitValue? a
    let low ← digitValue? b
    return UInt8.ofNat (high * 16 + low) :: (← toBytes? rest)

end Annals.Hex
