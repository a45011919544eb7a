import Annals.Time.Instant
import Annals.Text.Blank

/-!
# Reading the time of a snapshot

A snapshot holds a time as text. The reader accepts more than the writer produces: blanks around
the numbers, a year with a sign, `t` or a space before the time of day, a fraction of any length
(cut to nanoseconds), and a zone other than `Z`.

Each step takes the characters that are left and returns what it read and the rest.
-/

set_option autoImplicit false

namespace Annals.Instant

def skipBlanks (cs : List Char) : List Char :=
  cs.dropWhile Text.isBlank

/-- A number of at most `width` digits and at least one. -/
def readDigits? (width : Nat) (cs : List Char) : Option (Nat × List Char) :=
  let digits := (cs.take width).takeWhile Char.isDigit
  if digits.isEmpty then none
  else (digitsValue? 0 digits).map fun n => (n, cs.drop digits.length)

/-- A number of at most two digits, after blanks. -/
def readPair? (cs : List Char) : Option (Nat × List Char) :=
  readDigits? 2 (skipBlanks cs)

/-- A year: up to four digits, or any number of them after a sign. -/
def readYear? (cs : List Char) : Option (Int × List Char) :=
  match skipBlanks cs with
  | '-' :: rest => (readDigits? rest.length rest).map fun (n, rest) => (-(n : Int), rest)
  | '+' :: rest => (readDigits? rest.length rest).map fun (n, rest) => ((n : Int), rest)
  | rest => (readDigits? 4 rest).map fun (n, rest) => ((n : Int), rest)

/-- A given character, after blanks. -/
def readMark? (mark : Char) (cs : List Char) : Option (List Char) :=
  match skipBlanks cs with
  | c :: rest => if c = mark then some rest else none
  | [] => none

/-- A fraction of a second in nanoseconds, zero if there is none. -/
def readFraction? (cs : List Char) : Option (Nat × List Char) :=
  match cs with
  | '.' :: rest => do
    let (n, after) ← readDigits? 9 rest
    let width := rest.length - after.length
    return (n * Nat.pow 10 (9 - width), after.dropWhile Char.isDigit)
  | _ => some (0, cs)

/-- The separators that may stand between the hours and the minutes of a zone. -/
def isZoneMark (c : Char) : Bool :=
  c == ':' || Text.isBlank c

/-- The hours and minutes of a zone, in seconds. -/
def readOffset? (cs : List Char) : Option (Int × List Char) :=
  match cs with
  | h1 :: h2 :: rest => do
    let hours ← digitsValue? 0 [h1, h2]
    match rest.dropWhile isZoneMark with
    | m1 :: m2 :: rest =>
      let minutes ← digitsValue? 0 [m1, m2]
      if minutes < 60 then some ((hours * 3600 + minutes * 60 : Nat), rest) else none
    | _ => none
  | _ => none

/-- The distance of a zone from the zero meridian, in seconds. -/
def readZone? (cs : List Char) : Option (Int × List Char) :=
  match cs with
  | 'Z' :: rest | 'z' :: rest => some (0, rest)
  | '+' :: rest => readOffset? rest
  | '-' :: rest | '\u2212' :: rest => (readOffset? rest).map fun (n, rest) => (-n, rest)
  | u :: t :: c :: rest =>
    if [u.toUpper, t.toUpper, c.toUpper] = ['U', 'T', 'C'] then some (0, rest) else none
  | _ => none

/-- The instant that a text of a snapshot stands for. -/
def ofFullText? (text : String) : Option Instant := do
  let (year, cs) ← readYear? text.toList
  let (month, cs) ← readPair? (← readMark? '-' cs)
  let (day, cs) ← readPair? (← readMark? '-' cs)
  let cs ← match cs with
    | 'T' :: rest | 't' :: rest | ' ' :: rest => some rest
    | _ => none
  let (hour, cs) ← readPair? cs
  let (minute, cs) ← readPair? (← readMark? ':' cs)
  let (second, cs) ← readPair? (← readMark? ':' cs)
  let (nanos, cs) ← readFraction? cs
  let (offset, cs) ← readZone? (skipBlanks cs)
  if !(skipBlanks cs).isEmpty || secondsPerDay ≤ offset.natAbs then none
  else
    let local_ ← ofClock? ⟨year, month, day⟩ hour minute second nanos
    ofUnix? (local_.seconds - offset) local_.nanos

end Annals.Instant
