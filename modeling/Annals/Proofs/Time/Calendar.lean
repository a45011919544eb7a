import Annals.Time.Calendar

/-!
# Day numbers of dates

`Date.ofDays` finds the date of a day number with divisions that are corrected for leap days.
It is the inverse of `Date.toDays`: for every date that exists, and for every day number.

* `Date.yearOfEra_eq` finds the year in its era of four hundred years. A year is split into its
  century, its four years and the year among these, so that every division is by a constant.
* `Date.monthDay_eq` finds the month and the day in a year that begins in March.
* `Date.ofDays_toDays`: the date of the day number of a date is that date.
* `Date.exists_toDays` finds a date for every day number, by the same splits the other way; so
  `Date.toDays_ofDays` needs nothing more.
-/

set_option autoImplicit false

namespace Annals.Date

/-- The year of an era is found from the day of the era. -/
theorem yearOfEra_eq {yearOfEra day dayOfEra : Int} (low : 0 ≤ yearOfEra) (high : yearOfEra < 400)
    (first : 0 ≤ day) (last : day ≤ 365) (leap : day = 365 → isLeapYear (yearOfEra + 1) = true)
    (sum : dayOfEra = yearOfEra * 365 + yearOfEra / 4 - yearOfEra / 100 + day) :
    (dayOfEra - dayOfEra / 1460 + dayOfEra / 36524 - dayOfEra / 146096) / 365 = yearOfEra := by
  simp only [isLeapYear, Bool.and_eq_true, Bool.or_eq_true, decide_eq_true_eq, ne_eq] at leap
  obtain ⟨century, centuryEq⟩ : ∃ c : Int, c = yearOfEra / 100 := ⟨_, rfl⟩
  obtain ⟨four, fourEq⟩ : ∃ q : Int, q = yearOfEra % 100 / 4 := ⟨_, rfl⟩
  obtain ⟨one, oneEq⟩ : ∃ r : Int, r = yearOfEra % 4 := ⟨_, rfl⟩
  have parts : yearOfEra = 100 * century + 4 * four + one := by omega
  have days : dayOfEra = 36524 * century + 1461 * four + 365 * one + day := by omega
  have centuries : 0 ≤ century ∧ century ≤ 3 := by omega
  have fours : 0 ≤ four ∧ four ≤ 24 := by omega
  have ones : 0 ≤ one ∧ one ≤ 3 := by omega
  have longYear : day = 365 → one = 3 ∧ (four ≠ 24 ∨ century = 3) := by
    intro full
    have divisible := leap full
    omega
  obtain ⟨rest, restEq⟩ : ∃ d : Int, d = 1461 * four + 365 * one + day := ⟨_, rfl⟩
  have short : 0 ≤ rest ∧ rest < 36524 ∨ rest = 36524 ∧ century = 3 := by omega
  have whole : dayOfEra = 36524 * century + rest := by omega
  -- the last day of an era counts as a fifth century, and is taken back
  have byCentury : dayOfEra / 36524 - dayOfEra / 146096 = century := by
    rcases short with ⟨_, below⟩ | ⟨full, fourth⟩
    · have hundreds : dayOfEra / 36524 = century := by omega
      have none : dayOfEra / 146096 = 0 := by omega
      omega
    · have day : dayOfEra = 146096 := by omega
      rw [day, fourth]
      decide
  have byFour : dayOfEra / 1460
      = 25 * century + four + (24 * century + four + 365 * one + day) / 1460 := by omega
  have late : (24 * century + four + 365 * one + day) / 1460 = 0 ∧ day < 365
      ∨ (24 * century + four + 365 * one + day) / 1460 = 1 ∧ 0 < day := by
    by_cases reached : 1460 ≤ 24 * century + four + 365 * one + day
    · right
      have third : one = 3 := by omega
      omega
    · left
      omega
  have numerator : dayOfEra - dayOfEra / 1460 + dayOfEra / 36524 - dayOfEra / 146096
      = 365 * yearOfEra + (day - (24 * century + four + 365 * one + day) / 1460) := by omega
  rw [numerator]
  omega

theorem exists?_iff (year : Int) (month day : Nat) :
    (Date.mk year month day).exists? = true
      ↔ 1 ≤ month ∧ month ≤ 12 ∧ 1 ≤ day ∧ day ≤ monthLength year month := by
  simp only [exists?, Bool.and_eq_true, decide_eq_true_eq, and_assoc]

theorem monthLength_le (year : Int) (month : Nat) : monthLength year month ≤ 31 := by
  unfold monthLength
  split
  · split <;> omega
  all_goals omega

/-- The month and the day are found from the day of a year that begins in March. -/
theorem monthDay_eq {year : Int} {month day : Nat}
    (exist : (Date.mk year month day).exists? = true) :
    dayOfYear month day - (153 * ((5 * dayOfYear month day + 2) / 153) + 2) / 5 + 1 = day
      ∧ (5 * dayOfYear month day + 2) / 153 = (((month + 9) % 12 : Nat) : Int)
      ∧ 0 ≤ dayOfYear month day ∧ dayOfYear month day ≤ 365
      ∧ (dayOfYear month day = 365 → month = 2 ∧ day = 29) := by
  obtain ⟨first, last, one, length⟩ := (exists?_iff year month day).mp exist
  have short : month = 2 → monthLength year month ≤ 29 := by
    rintro rfl
    simp only [monthLength]
    split <;> omega
  have thirty : month = 4 ∨ month = 6 ∨ month = 9 ∨ month = 11 → monthLength year month = 30 := by
    rintro (rfl | rfl | rfl | rfl) <;> rfl
  have long := monthLength_le year month
  have months : month = 1 ∨ month = 2 ∨ month = 3 ∨ month = 4 ∨ month = 5 ∨ month = 6 ∨ month = 7
      ∨ month = 8 ∨ month = 9 ∨ month = 10 ∨ month = 11 ∨ month = 12 := by omega
  generalize monthLength year month = most at *
  unfold dayOfYear
  rcases months with rfl | rfl | rfl | rfl | rfl | rfl | rfl | rfl | rfl | rfl | rfl | rfl <;> omega

theorem isLeapYear_era (year : Int) :
    isLeapYear ((year - 1) % 400 + 1) = isLeapYear year := by
  unfold isLeapYear
  have four : ((year - 1) % 400 + 1) % 4 = year % 4 := by omega
  have hundred : ((year - 1) % 400 + 1) % 100 = year % 100 := by omega
  have era : ((year - 1) % 400 + 1) % 400 = year % 400 := by omega
  rw [four, hundred, era]

/-- The twenty-ninth of February exists in leap years only. -/
theorem isLeapYear_of_exists {year : Int} (exist : (Date.mk year 2 29).exists? = true) :
    isLeapYear year = true := by
  obtain ⟨_, _, _, length⟩ := (exists?_iff year 2 29).mp exist
  simp only [monthLength] at length
  by_cases leap : isLeapYear year = true
  · exact leap
  · rw [if_neg leap] at length
    omega

/-- The day number of a date that exists is the day number of that date alone. -/
theorem ofDays_toDays {date : Date} (exist : date.exists? = true) : ofDays date.toDays = date := by
  obtain ⟨year, month, day⟩ := date
  obtain ⟨dayEq, monthEq, first, last, leapDay⟩ := monthDay_eq exist
  obtain ⟨low, high, one, length⟩ := (exists?_iff year month day).mp exist
  have leap : dayOfYear month day = 365 →
      isLeapYear ((if month ≤ 2 then year - 1 else year) % 400 + 1) = true := by
    intro full
    obtain ⟨rfl, rfl⟩ := leapDay full
    rw [if_pos (by decide), isLeapYear_era]
    exact isLeapYear_of_exists exist
  unfold toDays
  simp only
  generalize dayOfYear month day = doy at *
  obtain ⟨marchYear, marchYearEq⟩ : ∃ y : Int, y = if month ≤ 2 then year - 1 else year := ⟨_, rfl⟩
  rw [← marchYearEq] at leap ⊢
  obtain ⟨dayOfEra, sum⟩ : ∃ d : Int, d = marchYear % 400 * 365 + marchYear % 400 / 4
      - marchYear % 400 / 100 + doy := ⟨_, rfl⟩
  rw [← sum]
  have range : 0 ≤ dayOfEra ∧ dayOfEra < 146097 := by omega
  have shifted : marchYear / 400 * eraDays + dayOfEra - epochShift + epochShift
      = marchYear / 400 * eraDays + dayOfEra := by omega
  have era : (marchYear / 400 * eraDays + dayOfEra) / eraDays = marchYear / 400 := by
    simp only [eraDays]
    omega
  have inEra : (marchYear / 400 * eraDays + dayOfEra) % eraDays = dayOfEra := by
    simp only [eraDays]
    omega
  have yearEq := yearOfEra_eq (Int.emod_nonneg marchYear (by decide))
    (Int.emod_lt_of_pos marchYear (by decide)) first last leap sum
  have doyEq : dayOfEra - (365 * (marchYear % 400) + marchYear % 400 / 4 - marchYear % 400 / 100)
      = doy := by omega
  simp only [ofDays, shifted, era, inEra, yearEq, doyEq, dayEq, Int.toNat_natCast]
  rw [monthEq]
  have monthBack : (if (((month + 9) % 12 : Nat) : Int) < 10
      then (((month + 9) % 12 : Nat) : Int) + 3
      else (((month + 9) % 12 : Nat) : Int) - 9) = month := by
    split <;> omega
  rw [monthBack, Int.toNat_natCast]
  congr 1
  split at marchYearEq <;> split <;> omega

/-- Every day of an era lies in one of its years. -/
theorem exists_yearOfEra {dayOfEra : Int} (low : 0 ≤ dayOfEra) (high : dayOfEra < 146097) :
    ∃ yearOfEra day : Int, (0 ≤ yearOfEra ∧ yearOfEra < 400) ∧ (0 ≤ day ∧ day ≤ 365)
      ∧ (day = 365 → isLeapYear (yearOfEra + 1) = true)
      ∧ dayOfEra = yearOfEra * 365 + yearOfEra / 4 - yearOfEra / 100 + day := by
  -- the last day of the era belongs to the fourth century, and the last of four years to the fourth
  obtain ⟨century, inCentury, centuryDays⟩ : ∃ century rest : Int,
      dayOfEra = 36524 * century + rest ∧ 0 ≤ century ∧ century ≤ 3 ∧ 0 ≤ rest
        ∧ (rest < 36524 ∨ rest = 36524 ∧ century = 3) := by
    by_cases last : dayOfEra = 146096
    · exact ⟨3, 36524, by omega⟩
    · exact ⟨dayOfEra / 36524, dayOfEra % 36524, by omega⟩
  obtain ⟨four, inFour, fourDays⟩ : ∃ four rest : Int,
      inCentury = 1461 * four + rest ∧ 0 ≤ four ∧ four ≤ 24 ∧ 0 ≤ rest ∧ rest ≤ 1460 :=
    ⟨inCentury / 1461, inCentury % 1461, by omega⟩
  obtain ⟨one, day, oneDays⟩ : ∃ one day : Int,
      inFour = 365 * one + day ∧ 0 ≤ one ∧ one ≤ 3 ∧ 0 ≤ day
        ∧ (day < 365 ∨ day = 365 ∧ one = 3) := by
    by_cases last : inFour = 1460
    · exact ⟨3, 365, by omega⟩
    · exact ⟨inFour / 365, inFour % 365, by omega⟩
  refine ⟨100 * century + 4 * four + one, day, by omega, by omega, ?_, by omega⟩
  intro full
  simp only [isLeapYear, Bool.and_eq_true, Bool.or_eq_true, decide_eq_true_eq, ne_eq]
  omega

/-- The months from March on, February apart, are as long as their first days are apart. -/
theorem monthLength_eq (year : Int) {k : Nat} (before : k < 11) :
    (monthLength year (if k < 10 then k + 3 else k - 9) : Int)
      = (153 * (k + 1) + 2) / 5 - (153 * k + 2) / 5 := by
  have months : k = 0 ∨ k = 1 ∨ k = 2 ∨ k = 3 ∨ k = 4 ∨ k = 5 ∨ k = 6 ∨ k = 7 ∨ k = 8 ∨ k = 9
      ∨ k = 10 := by omega
  rcases months with rfl | rfl | rfl | rfl | rfl | rfl | rfl | rfl | rfl | rfl | rfl <;> rfl

/-- Every day of a year that begins in March is a day of one of its months. -/
theorem exists_monthDay {year doy : Int} (low : 0 ≤ doy) (high : doy ≤ 365)
    (leap : doy = 365 → isLeapYear (year + 1) = true) :
    ∃ month day : Nat, dayOfYear month day = doy
      ∧ (Date.mk (if month ≤ 2 then year + 1 else year) month day).exists? = true := by
  obtain ⟨k, marchMonth⟩ : ∃ k : Nat, (k : Int) = (5 * doy + 2) / 153 :=
    ⟨((5 * doy + 2) / 153).toNat, by omega⟩
  obtain ⟨month, monthEq⟩ : ∃ m : Nat, m = if k < 10 then k + 3 else k - 9 := ⟨_, rfl⟩
  have range : 1 ≤ month ∧ month ≤ 12 ∧ (month + 9) % 12 = k := by
    split at monthEq <;> omega
  have length : doy - (153 * k + 2) / 5
      < monthLength (if month ≤ 2 then year + 1 else year) month := by
    by_cases february : k = 11
    · have second : month = 2 := by omega
      rw [second, if_pos (by decide)]
      by_cases full : doy = 365
      · simp only [monthLength, leap full, if_true]
        omega
      · have short : 28 ≤ monthLength (year + 1) 2 := by
          simp only [monthLength]
          split <;> omega
        omega
    · have length := monthLength_eq (if month ≤ 2 then year + 1 else year)
        (show k < 11 by omega)
      rw [← monthEq] at length
      omega
  refine ⟨month, (doy - (153 * k + 2) / 5).toNat + 1, ?_, ?_⟩
  · simp only [dayOfYear, range.2.2]
    omega
  · rw [exists?_iff]
    omega

/-- Every day number is the one of a date. -/
theorem exists_toDays (days : Int) : ∃ date : Date, date.exists? = true ∧ date.toDays = days := by
  obtain ⟨era, dayOfEra, eraDay, low, high⟩ : ∃ era dayOfEra : Int,
      days + epochShift = era * eraDays + dayOfEra ∧ 0 ≤ dayOfEra ∧ dayOfEra < 146097 := by
    refine ⟨(days + epochShift) / eraDays, (days + epochShift) % eraDays, ?_⟩
    simp only [eraDays]
    omega
  obtain ⟨yearOfEra, doy, years, ⟨one, length⟩, leap, sum⟩ := exists_yearOfEra low high
  have inEra : (era * 400 + yearOfEra) / 400 = era ∧ (era * 400 + yearOfEra) % 400 = yearOfEra := by
    omega
  have leapYear : doy = 365 → isLeapYear (era * 400 + yearOfEra + 1) = true := by
    intro full
    rw [← isLeapYear_era, Int.add_sub_cancel, inEra.2]
    exact leap full
  obtain ⟨month, day, doyEq, exist⟩ := exists_monthDay one length leapYear
  refine ⟨_, exist, ?_⟩
  have marchYear : (if month ≤ 2
      then (if month ≤ 2 then era * 400 + yearOfEra + 1 else era * 400 + yearOfEra) - 1
      else (if month ≤ 2 then era * 400 + yearOfEra + 1 else era * 400 + yearOfEra))
      = era * 400 + yearOfEra := by
    split <;> omega
  simp only [toDays, marchYear, inEra, doyEq]
  omega

/-- The date of a day number exists, and is the date of that day number. -/
theorem toDays_ofDays (days : Int) :
    (ofDays days).exists? = true ∧ (ofDays days).toDays = days := by
  obtain ⟨date, exist, rfl⟩ := exists_toDays days
  rw [ofDays_toDays exist]
  exact ⟨exist, rfl⟩

end Annals.Date
