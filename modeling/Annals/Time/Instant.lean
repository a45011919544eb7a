import Annals.Time.Calendar

/-!
# Instants

A point in time is a count of whole seconds since the start of 1970 and a part of a second in
nanoseconds. A part of one second and more stands for a leap second, which comes after the last
second of a minute. After any other second such a part can be set by hand; no reader makes one.

* `Instant.text` is the form of a query, to the second: `2024-05-25T19:43:48Z`.
* `Instant.ofWord?` reads that form.
* `Instant.fullText` is the form of a snapshot, with the fraction of the second.
-/

set_option autoImplicit false

namespace Annals

namespace Instant

def nanosPerSecond : Nat := 1000000000

def secondsPerDay : Int := 86400

/-- The first year that an instant can have. -/
def firstYear : Int := -262143

/-- The last year that an instant can have. -/
def lastYear : Int := 262142

def firstSecond : Int := (Date.mk firstYear 1 1).toDays * secondsPerDay

def lastSecond : Int := (Date.mk (lastYear + 1) 1 1).toDays * secondsPerDay - 1

/-- The instants in range. A part of one second and more may follow any second. -/
def Valid (seconds : Int) (nanos : Nat) : Prop :=
  firstSecond ≤ seconds ∧ seconds ≤ lastSecond ∧ nanos < 2 * nanosPerSecond

instance (seconds : Int) (nanos : Nat) : Decidable (Valid seconds nanos) := by
  unfold Valid; infer_instance

end Instant

/-- A point in time. -/
structure Instant where
  /-- The whole seconds since the start of 1970. -/
  seconds : Int
  /-- The nanoseconds after them, less than two thousand million. -/
  nanos : Nat
  valid : Instant.Valid seconds nanos
  deriving DecidableEq

namespace Instant

def epoch : Instant := ⟨0, 0, by decide⟩

instance : Inhabited Instant := ⟨epoch⟩

/-- Whether a part of one second and more is that of a leap second, at the end of a minute. -/
def Regular (t : Instant) : Prop :=
  t.nanos < nanosPerSecond ∨ t.seconds % 60 = 59

instance : DecidablePred Regular := by
  unfold Regular; infer_instance

/-- The instant of a count of seconds and nanoseconds, if it is in range and regular. -/
def ofUnix? (seconds : Int) (nanos : Nat) : Option Instant :=
  if h : Valid seconds nanos then
    let t : Instant := ⟨seconds, nanos, h⟩
    if t.Regular then some t else none
  else none

def order (a b : Instant) : Ordering :=
  (compare a.seconds b.seconds).then (compare a.nanos b.nanos)

/-- The instant of a date and a time of day, if both exist. Second 60 is the leap second. -/
def ofClock? (date : Date) (hour minute second nanos : Nat) : Option Instant :=
  if !date.exists? || 24 ≤ hour || 60 ≤ minute || 61 ≤ second || nanosPerSecond ≤ nanos then none
  else
    let leap := second = 60
    ofUnix?
      (date.toDays * secondsPerDay
        + (hour * 3600 + minute * 60 + (if leap then 59 else second) : Nat))
      (if leap then nanosPerSecond + nanos else nanos)

/-- A number in decimal, filled up with zeros to a width. -/
def padded (width n : Nat) : String :=
  let digits := toString n
  String.ofList (List.replicate (width - digits.length) '0') ++ digits

/-- A year with four digits, or with its sign outside of the years 0 to 9999. -/
def yearText (year : Int) : String :=
  (if year < 0 then "-" else if 9999 < year then "+" else "") ++ padded 4 year.natAbs

def date (t : Instant) : Date :=
  Date.ofDays (t.seconds / secondsPerDay)

/-- The second of the day of an instant. -/
def secondOfDay (t : Instant) : Nat :=
  (t.seconds % secondsPerDay).toNat

/-- The second of the minute of an instant; a leap second is the second 60. -/
def secondOfMinute (t : Instant) : Nat :=
  t.secondOfDay % 60 + (if nanosPerSecond ≤ t.nanos then 1 else 0)

/-- The date and the time of day, without fraction and zone. -/
def clockText (t : Instant) : String :=
  yearText t.date.year ++ "-" ++ padded 2 t.date.month ++ "-" ++ padded 2 t.date.day
    ++ "T" ++ padded 2 (t.secondOfDay / 3600) ++ ":" ++ padded 2 (t.secondOfDay / 60 % 60)
    ++ ":" ++ padded 2 t.secondOfMinute

/-- The form of a query, in whole seconds. -/
def text (t : Instant) : String :=
  t.clockText ++ "Z"

/-- The fraction of a second with no, three, six or nine digits, as few as are exact. -/
def fractionText (nanos : Nat) : String :=
  if nanos = 0 then ""
  else if nanos % 1000000 = 0 then "." ++ padded 3 (nanos / 1000000)
  else if nanos % 1000 = 0 then "." ++ padded 6 (nanos / 1000)
  else "." ++ padded 9 nanos

/-- The form of a snapshot, with the fraction of the second. -/
def fullText (t : Instant) : String :=
  t.clockText ++ fractionText (t.nanos % nanosPerSecond) ++ "Z"

/-- The number that a list of decimal digits writes, after `value`. -/
def digitsValue? (value : Nat) : List Char → Option Nat
  | [] => some value
  | c :: rest => if c.isDigit then digitsValue? (value * 10 + (c.toNat - '0'.toNat)) rest else none

/-- The fields of a word of the form `2024-05-25T19:43:48Z`: date, hour, minute and second. -/
def wordFields? : List Char → Option (Date × Nat × Nat × Nat)
  | [y1, y2, y3, y4, '-', m1, m2, '-', d1, d2, 'T', h1, h2, ':', n1, n2, ':', s1, s2, 'Z'] => do
    let year ← digitsValue? 0 [y1, y2, y3, y4]
    let month ← digitsValue? 0 [m1, m2]
    let day ← digitsValue? 0 [d1, d2]
    let hour ← digitsValue? 0 [h1, h2]
    let minute ← digitsValue? 0 [n1, n2]
    let second ← digitsValue? 0 [s1, s2]
    return (⟨year, month, day⟩, hour, minute, second)
  | _ => none

end Instant

end Annals
