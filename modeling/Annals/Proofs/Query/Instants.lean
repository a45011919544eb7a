import Annals.Proofs.Query.Words
import Annals.Proofs.Time.Calendar

/-!
# Reading instants back

A query writes an instant to the second, in the years 0 to 9999. The date and the time of day of
such an instant are those that it was made of, a leap second included, and its text has the form
that is read as them.

* `Instant.OfWord` says that an instant is one that a word can write.
* `Instant.wordFields?_text` reads the text of such an instant.
* `Token.legible_time`: every such instant is read back.
-/

set_option autoImplicit false

namespace Annals

namespace Instant

/-- The characters of a field of a word: a given number of digits with a given value. -/
structure Field (chars : List Char) (width n : Nat) : Prop where
  /-- There are as many characters as the field is wide. -/
  length : chars.length = width
  digits : ∀ c ∈ chars, c.isDigit = true
  value : digitsValue? 0 chars = some n

theorem padded_toList (width n : Nat) : (padded width n).toList
    = List.replicate (width - (Nat.toDigits 10 n).length) '0' ++ Nat.toDigits 10 n := by
  have digits : (toString n).toList = Nat.toDigits 10 n := Nat.toList_repr
  simp only [padded, String.toList_append, String.toList_ofList, digits, ← String.length_toList]

theorem isDigit_of_mem_padded {width n : Nat} :
    ∀ c ∈ (padded width n).toList, c.isDigit = true := by
  rw [padded_toList]
  exact isDigit_of_mem_zeros

/-- A number is written by its digits, filled up with zeros to any width. -/
theorem digitsValue?_padded (width n : Nat) :
    digitsValue? 0 (padded width n).toList = some n := by
  rw [digitsValue?_eq isDigit_of_mem_padded, padded_toList, Nat.ofDigitChars_append,
    Nat.ofDigitChars_replicate_zero, Nat.mul_zero, Nat.ofDigitChars_ten_toDigits]

/-- A number that fits into a field, filled up with zeros, is that field. -/
theorem field_padded {width n : Nat} (pos : 0 < width) (fits : n < 10 ^ width) :
    Field (padded width n).toList width n := by
  have length : (Nat.toDigits 10 n).length ≤ width :=
    (Nat.length_toDigits_le_iff (by decide) pos).mpr fits
  refine ⟨?_, isDigit_of_mem_padded, digitsValue?_padded width n⟩
  rw [padded_toList, List.length_append, List.length_replicate]
  omega

theorem Field.two {chars : List Char} {n : Nat} (field : Field chars 2 n) :
    ∃ a b : Char, chars = [a, b] := by
  match chars, field.length with
  | [a, b], _ => exact ⟨a, b, rfl⟩

theorem Field.four {chars : List Char} {n : Nat} (field : Field chars 4 n) :
    ∃ a b c d : Char, chars = [a, b, c, d] := by
  match chars, field.length with
  | [a, b, c, d], _ => exact ⟨a, b, c, d, rfl⟩

def wordOf (year month day hour minute second : List Char) : List Char :=
  year ++ '-' :: (month ++ '-' :: (day ++ 'T' :: (hour ++ ':' :: (minute ++ ':' ::
    (second ++ ['Z'])))))

/-- A word of digits, after a year of any form, holds no character that ends a word. -/
theorem isWordChar_wordOf {ys ms ds hs ns ss : List Char}
    (year : ∀ c ∈ ys, Segment.isWordChar c = true) (month : ∀ c ∈ ms, c.isDigit = true)
    (day : ∀ c ∈ ds, c.isDigit = true) (hour : ∀ c ∈ hs, c.isDigit = true)
    (minute : ∀ c ∈ ns, c.isDigit = true) (second : ∀ c ∈ ss, c.isDigit = true) :
    ∀ c ∈ wordOf ys ms ds hs ns ss, Segment.isWordChar c = true := by
  intro c mem
  simp only [wordOf, List.mem_append, List.mem_cons, List.not_mem_nil, or_false] at mem
  rcases mem with mem | rfl | mem | rfl | mem | rfl | mem | rfl | mem | rfl | mem | rfl
  · exact year c mem
  · decide
  · exact isWordChar_of_isDigit (month c mem)
  · decide
  · exact isWordChar_of_isDigit (day c mem)
  · decide
  · exact isWordChar_of_isDigit (hour c mem)
  · decide
  · exact isWordChar_of_isDigit (minute c mem)
  · decide
  · exact isWordChar_of_isDigit (second c mem)
  · decide

/-- The text of any instant is a word of the fields of its date and its time of day. -/
theorem text_eq_wordOf (t : Instant) :
    t.text.toList = wordOf (yearText t.date.year).toList (padded 2 t.date.month).toList
      (padded 2 t.date.day).toList (padded 2 (t.secondOfDay / 3600)).toList
      (padded 2 (t.secondOfDay / 60 % 60)).toList (padded 2 t.secondOfMinute).toList := by
  have dash : "-".toList = ['-'] := rfl
  have colon : ":".toList = [':'] := rfl
  have mark : "T".toList = ['T'] := rfl
  have zone : "Z".toList = ['Z'] := rfl
  simp only [text, clockText, dash, colon, mark, zone, String.toList_append, wordOf,
    List.append_assoc, List.cons_append, List.nil_append]

/-- A word of fields is read as these fields. -/
theorem wordFields?_wordOf {ys ms ds hs ns ss : List Char} {year month day hour minute second : Nat}
    (isYear : Field ys 4 year) (isMonth : Field ms 2 month) (isDay : Field ds 2 day)
    (isHour : Field hs 2 hour) (isMinute : Field ns 2 minute) (isSecond : Field ss 2 second) :
    wordFields? (wordOf ys ms ds hs ns ss) = some (⟨year, month, day⟩, hour, minute, second) := by
  obtain ⟨y₁, y₂, y₃, y₄, rfl⟩ := isYear.four
  obtain ⟨m₁, m₂, rfl⟩ := isMonth.two
  obtain ⟨d₁, d₂, rfl⟩ := isDay.two
  obtain ⟨h₁, h₂, rfl⟩ := isHour.two
  obtain ⟨n₁, n₂, rfl⟩ := isMinute.two
  obtain ⟨s₁, s₂, rfl⟩ := isSecond.two
  simp only [wordOf, List.cons_append, List.nil_append, wordFields?, isYear.value, isMonth.value,
    isDay.value, isHour.value, isMinute.value, isSecond.value, Option.bind_eq_bind,
    Option.bind_some]
  rfl

/-- As many digits write a number below that power of ten. -/
theorem digitsValue?_lt {chars : List Char} {value n : Nat}
    (read : digitsValue? value chars = some n) : n < (value + 1) * 10 ^ chars.length := by
  induction chars generalizing value with
  | nil =>
    cases read
    simp
  | cons c rest ih =>
    simp only [digitsValue?] at read
    split at read
    · rename_i digit
      have small : c.toNat - '0'.toNat ≤ 9 := by
        simp only [Char.isDigit, Bool.and_eq_true, decide_eq_true_eq] at digit
        have top : c.toNat ≤ 57 := UInt32.le_iff_toNat_le.mp digit.2
        have zero : '0'.toNat = 48 := rfl
        omega
      have below := ih read
      rw [List.length_cons, Nat.pow_succ']
      calc n < (value * 10 + (c.toNat - '0'.toNat) + 1) * 10 ^ rest.length := below
        _ ≤ ((value + 1) * 10) * 10 ^ rest.length := Nat.mul_le_mul_right _ (by omega)
        _ = (value + 1) * (10 * 10 ^ rest.length) := Nat.mul_assoc _ _ _
    · cases read

/-- The instant is one of a date and a time of day that a word can write. -/
structure OfWord (t : Instant) (date : Date) (hour minute second : Nat) : Prop where
  year : 0 ≤ date.year ∧ date.year < 10000
  /-- The date and the time of day exist, and are those of the instant. -/
  clock : ofClock? date hour minute second 0 = some t

/-- The fields that are read of a word have a year of four digits. -/
theorem year_of_wordFields? {word : List Char} {date : Date} {hour minute second : Nat}
    (read : wordFields? word = some (date, hour, minute, second)) :
    0 ≤ date.year ∧ date.year < 10000 := by
  unfold wordFields? at read
  split at read
  · simp only [Option.bind_eq_bind, Option.bind_eq_some_iff] at read
    obtain ⟨year, isYear, month, _, day, _, hour', _, minute', _, second', _, same⟩ := read
    cases same
    have small := digitsValue?_lt isYear
    simp only [List.length_cons, List.length_nil] at small
    exact ⟨Int.natCast_nonneg year, by simp only; omega⟩
  · cases read

theorem ofUnix?_eq_some {seconds : Int} {nanos : Nat} {t : Instant}
    (unix : ofUnix? seconds nanos = some t) : t.seconds = seconds ∧ t.nanos = nanos := by
  unfold ofUnix? at unix
  split at unix
  · dsimp only at unix
    split at unix
    · cases unix
      exact ⟨rfl, rfl⟩
    · cases unix
  · cases unix

/-- What a date and a time of day must be so that there is an instant of them, and which one. -/
theorem ofClock?_eq_some {date : Date} {hour minute second nanos : Nat} {t : Instant}
    (clock : ofClock? date hour minute second nanos = some t) :
    (date.exists? = true ∧ hour < 24 ∧ minute < 60 ∧ second < 61 ∧ nanos < nanosPerSecond)
      ∧ t.seconds = date.toDays * secondsPerDay
          + (hour * 3600 + minute * 60 + (if second = 60 then 59 else second) : Nat)
      ∧ t.nanos = if second = 60 then nanosPerSecond + nanos else nanos := by
  unfold ofClock? at clock
  split at clock
  · cases clock
  · rename_i possible
    simp only [Bool.or_eq_true, Bool.not_eq_true', decide_eq_true_eq, not_or, Nat.not_le,
      Bool.not_eq_false] at possible
    obtain ⟨⟨⟨⟨exist, hours⟩, minutes⟩, seconds⟩, fraction⟩ := possible
    exact ⟨⟨exist, hours, minutes, seconds, fraction⟩, ofUnix?_eq_some clock⟩

section Fields

variable {t : Instant} {date : Date} {hour minute second : Nat}

/-- The date of an instant is the one it was made of. -/
theorem date_eq (clock : ofClock? date hour minute second 0 = some t) : t.date = date := by
  obtain ⟨⟨exist, hours, minutes, _, _⟩, seconds, _⟩ := ofClock?_eq_some clock
  have day : t.seconds / secondsPerDay = date.toDays := by
    rw [seconds]
    simp only [secondsPerDay]
    split <;> omega
  rw [Instant.date, day, Date.ofDays_toDays exist]

/-- The time of day of an instant is the one it was made of; the leap second is the second 60. -/
theorem timeOfDay_eq (clock : ofClock? date hour minute second 0 = some t) :
    t.secondOfDay / 3600 = hour ∧ t.secondOfDay / 60 % 60 = minute
      ∧ t.secondOfMinute = second := by
  obtain ⟨⟨_, hours, minutes, below, _⟩, seconds, nanos⟩ := ofClock?_eq_some clock
  unfold secondOfMinute secondOfDay
  rw [seconds, nanos]
  by_cases leap : second = 60
  · simp only [leap, if_true, secondsPerDay, nanosPerSecond, Nat.le_add_right]
    omega
  · have none : ¬nanosPerSecond ≤ 0 := by decide
    simp only [leap, if_false, secondsPerDay, none]
    omega

/-- The text of an instant is a word of its fields. -/
theorem text_toList (written : t.OfWord date hour minute second) :
    ∃ ys ms ds hs ns ss : List Char,
      t.text.toList = wordOf ys ms ds hs ns ss
        ∧ Field ys 4 date.year.toNat ∧ Field ms 2 date.month ∧ Field ds 2 date.day
        ∧ Field hs 2 hour ∧ Field ns 2 minute ∧ Field ss 2 second := by
  obtain ⟨⟨low, high⟩, clock⟩ := written
  obtain ⟨⟨exist, hours, minutes, seconds, _⟩, _⟩ := ofClock?_eq_some clock
  obtain ⟨hourEq, minuteEq, secondEq⟩ := timeOfDay_eq clock
  obtain ⟨_, months, _, days⟩ := (Date.exists?_iff date.year date.month date.day).mp exist
  have length := Date.monthLength_le date.year date.month
  have natAbs : date.year.natAbs = date.year.toNat := by omega
  have yearText : yearText date.year = padded 4 date.year.toNat := by
    have noMinus : ¬date.year < 0 := by omega
    have noPlus : ¬9999 < date.year := by omega
    simp only [Instant.yearText, noMinus, noPlus, if_false, natAbs]
    exact String.empty_append
  have word : t.text.toList = wordOf (padded 4 date.year.toNat).toList (padded 2 date.month).toList
      (padded 2 date.day).toList (padded 2 hour).toList (padded 2 minute).toList
      (padded 2 second).toList := by
    rw [text_eq_wordOf, date_eq clock, hourEq, minuteEq, secondEq, yearText]
  exact ⟨_, _, _, _, _, _, word, field_padded (by decide) (by omega),
    field_padded (by decide) (by omega), field_padded (by decide) (by omega),
    field_padded (by decide) (by omega), field_padded (by decide) (by omega),
    field_padded (by decide) (by omega)⟩

end Fields

end Instant

namespace Token

/-- Every instant that a word can write is read back from its text. -/
theorem legible_time {t : Instant} {date : Date} {hour minute second : Nat}
    (written : t.OfWord date hour minute second) : (Token.time t).Legible := by
  obtain ⟨ys, ms, ds, hs, ns, ss, text, isYear, isMonth, isDay, isHour, isMinute, isSecond⟩ :=
    Instant.text_toList written
  have nonempty : ys ≠ [] := List.length_pos_iff.mp (by rw [isYear.length]; decide)
  have fields : Instant.wordFields? t.text.toList = some (date, hour, minute, second) := by
    have yearBack : ((date.year.toNat : Nat) : Int) = date.year :=
      Int.toNat_of_nonneg written.year.1
    rw [text, Instant.wordFields?_wordOf isYear isMonth isDay isHour isMinute isSecond, yearBack]
  have sign : splitSign t.text.toList = (false, t.text.toList) := by
    rw [text]
    exact splitSign_digits isYear.digits nonempty _
  have noInt : intForm? t.text.toList = none := by
    have mark : '-' ∈ t.text.toList := by
      rw [text]
      exact List.mem_append_right ys (List.mem_cons_self)
    exact intForm?_eq_none sign mark (by decide)
  have noFloat : floatForm? t.text.toList = none := by
    have whole : t.text.toList.takeWhile Char.isDigit = ys := by
      rw [text, Instant.wordOf, List.takeWhile_append_of_pos isYear.digits,
        List.takeWhile_cons_of_neg (by decide), List.append_nil]
    simp only [floatForm?, sign, whole]
    rw [text, Instant.wordOf, List.drop_left]
    rfl
  constructor
  · simp only [segment, Segment.Clean]
    rw [text]
    exact ⟨List.append_ne_nil_of_left_ne_nil nonempty _,
      Instant.isWordChar_wordOf (fun c mem => isWordChar_of_isDigit (isYear.digits c mem))
        isMonth.digits isDay.digits isHour.digits isMinute.digits isSecond.digits⟩
  · simp only [segment, ofSegment, ofWord, noInt, noFloat, fields, written.clock]

end Token

end Annals
