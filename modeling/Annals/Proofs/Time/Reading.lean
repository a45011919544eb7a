import Annals.Proofs.Query.Instants
import Annals.Time.Reading

/-!
# Reading the time of a snapshot back

The text that a snapshot holds for a regular instant is read back as that instant, whatever its
year, its fraction of a second, and whether it is a leap second or not. An irregular instant has the
text of one in the next second, and is read back as that one.

* `Instant.settled` is the regular instant with the text of an instant.
* `Instant.ofClock?_clock`: a regular instant is the one of its own date and time of day.
* `Instant.readYear?_yearText`, `Instant.readPair?_field` and `Instant.readFraction?_fractionText`
  read the fields one by one, with anything after them that cannot be part of the field.
* `Instant.ofFullText?_fullText` is the result, and `Instant.readsBack_iff` says for which instants
  the text stands for the instant itself.
-/

set_option autoImplicit false

namespace Annals.Instant

/-! ### The fields of an instant -/

/-- The instant of a date and a time of day that exist. -/
theorem ofClock?_possible {date : Date} {hour minute second nanos : Nat}
    (exist : date.exists? = true) (hours : hour < 24) (minutes : minute < 60)
    (seconds : second < 61) (fraction : nanos < nanosPerSecond) :
    ofClock? date hour minute second nanos = ofUnix?
      (date.toDays * secondsPerDay
        + (hour * 3600 + minute * 60 + (if second = 60 then 59 else second) : Nat))
      (if second = 60 then nanosPerSecond + nanos else nanos) := by
  have possible : ¬(!date.exists? || 24 ≤ hour || 60 ≤ minute || 61 ≤ second
      || nanosPerSecond ≤ nanos) = true := by
    simp only [exist, Bool.not_true, Bool.false_or, Bool.or_eq_true, decide_eq_true_eq, not_or]
    omega
  unfold ofClock?
  rw [if_neg possible]

theorem ofUnix?_self {t : Instant} (regular : t.Regular) : ofUnix? t.seconds t.nanos = some t :=
  (dif_pos t.valid).trans (if_pos regular)

/-- A regular instant is the one of its date and its time of day. -/
theorem ofClock?_clock {t : Instant} (regular : t.Regular) :
    ofClock? t.date (t.secondOfDay / 3600) (t.secondOfDay / 60 % 60) t.secondOfMinute
      (t.nanos % nanosPerSecond) = some t := by
  have day : t.date.exists? = true ∧ t.date.toDays = t.seconds / secondsPerDay :=
    Date.toDays_ofDays (t.seconds / secondsPerDay)
  obtain ⟨exist, days⟩ := day
  have fraction := t.valid.2.2
  unfold Regular at regular
  have inDay : t.seconds = t.seconds / secondsPerDay * secondsPerDay + (t.secondOfDay : Int)
      ∧ (t.secondOfDay : Int) % 60 = t.seconds % 60 ∧ t.secondOfDay < 86400 := by
    simp only [secondOfDay, secondsPerDay]
    omega
  obtain ⟨whole, minute, below⟩ := inDay
  have inRange : t.secondOfMinute < 61 := by
    unfold secondOfMinute
    split <;> omega
  have short : t.nanos % nanosPerSecond < nanosPerSecond := Nat.mod_lt _ (by decide)
  rw [ofClock?_possible exist (by omega) (by omega) inRange short, days]
  refine Eq.trans ?_ (ofUnix?_self regular)
  unfold secondOfMinute
  by_cases leap : nanosPerSecond ≤ t.nanos
  · have last : t.secondOfDay % 60 = 59 := by omega
    rw [if_pos leap, last, if_pos rfl, if_pos rfl]
    simp only [nanosPerSecond] at fraction leap ⊢
    congr 1 <;> omega
  · have early : t.secondOfDay % 60 ≠ 60 := by omega
    rw [if_neg leap, Nat.add_zero, if_neg early, if_neg early]
    simp only [nanosPerSecond] at fraction leap ⊢
    congr 1 <;> omega

/-! ### Digits -/

/-- Digits are read up to the width of the field, or up to what is not a digit. -/
theorem readDigits?_append {width n : Nat} {digits : List Char} (rest : List Char)
    (some : digits ≠ []) (all : ∀ c ∈ digits, c.isDigit = true)
    (value : digitsValue? 0 digits = .some n) (fits : digits.length ≤ width)
    (stop : digits.length = width ∨ rest.takeWhile Char.isDigit = []) :
    readDigits? width (digits ++ rest) = .some (n, rest) := by
  have after : (rest.take (width - digits.length)).takeWhile Char.isDigit = [] := by
    rcases stop with full | stop
    · rw [full, Nat.sub_self, List.take_zero, List.takeWhile_nil]
    · cases rest with
      | nil => rw [List.take_nil, List.takeWhile_nil]
      | cons c rest =>
        cases width - digits.length with
        | zero => rfl
        | succ more =>
          have noDigit : ¬c.isDigit = true := by
            intro digit
            rw [List.takeWhile_cons_of_pos digit] at stop
            cases stop
          rw [List.take_succ_cons, List.takeWhile_cons_of_neg noDigit]
  have taken : ((digits ++ rest).take width).takeWhile Char.isDigit = digits := by
    rw [List.take_append, List.take_of_length_le fits, List.takeWhile_append_of_pos all, after,
      List.append_nil]
  have nonempty : digits.isEmpty = false := by
    simpa using some
  simp only [readDigits?, taken, nonempty, value, List.drop_left, Option.map_some]
  rfl

theorem isBlank_of_isDigit {c : Char} (digit : c.isDigit = true) : Text.isBlank c = false := by
  simp only [Char.isDigit, Bool.and_eq_true, decide_eq_true_eq] at digit
  have low : 48 ≤ c.toNat := UInt32.le_iff_toNat_le.mp digit.1
  have top : c.toNat ≤ 57 := UInt32.le_iff_toNat_le.mp digit.2
  simp only [Text.isBlank, Bool.or_eq_false_iff, Bool.and_eq_false_iff, decide_eq_false_iff_not,
    beq_eq_false_iff_ne]
  omega

theorem skipBlanks_cons {c : Char} (noBlank : Text.isBlank c = false) (rest : List Char) :
    skipBlanks (c :: rest) = c :: rest :=
  List.dropWhile_cons_of_neg (by rw [noBlank]; decide)

theorem skipBlanks_digits {digits rest : List Char} (some : digits ≠ [])
    (all : ∀ c ∈ digits, c.isDigit = true) : skipBlanks (digits ++ rest) = digits ++ rest := by
  obtain ⟨c, more, rfl⟩ := List.exists_cons_of_ne_nil some
  exact skipBlanks_cons (isBlank_of_isDigit (all c List.mem_cons_self)) _

/-! ### The parts of the text -/

theorem readMark?_mark {mark : Char} {rest : List Char} (noBlank : Text.isBlank mark = false) :
    readMark? mark (mark :: rest) = some rest := by
  simp only [readMark?, skipBlanks_cons noBlank, if_true]

/-- A field of two digits is read, whatever comes after it. -/
theorem readPair?_field {digits rest : List Char} {n : Nat} (field : Field digits 2 n) :
    readPair? (digits ++ rest) = some (n, rest) := by
  have nonempty : digits ≠ [] := List.length_pos_iff.mp (by rw [field.length]; decide)
  rw [readPair?, skipBlanks_digits nonempty field.digits]
  exact readDigits?_append rest nonempty field.digits field.value (Nat.le_of_eq field.length)
    (.inl field.length)

theorem padded_ne_nil (width n : Nat) : (padded width n).toList ≠ [] := by
  rw [padded_toList]
  exact List.append_ne_nil_of_right_ne_nil _ Nat.toDigits_ne_nil

/-- A year is read up to the dash after it, with a sign or without one. -/
theorem readYear?_yearText (year : Int) (rest : List Char) :
    readYear? ((yearText year).toList ++ '-' :: rest) = some (year, '-' :: rest) := by
  have signed : readDigits? ((padded 4 year.natAbs).toList ++ '-' :: rest).length
      ((padded 4 year.natAbs).toList ++ '-' :: rest) = some (year.natAbs, '-' :: rest) := by
    refine readDigits?_append ('-' :: rest) (padded_ne_nil _ _) isDigit_of_mem_padded
      (digitsValue?_padded _ _) ?_ (.inr rfl)
    rw [List.length_append]
    omega
  by_cases before : year < 0
  · have text : (yearText year).toList = '-' :: (padded 4 year.natAbs).toList := by
      simp only [yearText, before, if_true, String.toList_append]
      rfl
    have value : -((year.natAbs : Nat) : Int) = year := by omega
    rw [text, List.cons_append, readYear?, skipBlanks_cons (by decide)]
    simp only [signed, Option.map_some, value]
  · by_cases long : 9999 < year
    · have text : (yearText year).toList = '+' :: (padded 4 year.natAbs).toList := by
        simp only [yearText, before, long, if_true, if_false, String.toList_append]
        rfl
      have value : ((year.natAbs : Nat) : Int) = year := by omega
      rw [text, List.cons_append, readYear?, skipBlanks_cons (by decide)]
      simp only [signed, Option.map_some, value]
    · have text : yearText year = padded 4 year.natAbs := by
        simp only [yearText, before, long, if_false]
        exact String.empty_append
      have field : Field (padded 4 year.natAbs).toList 4 year.natAbs :=
        field_padded (by decide) (by omega)
      obtain ⟨a, b, c, d, digits⟩ := field.four
      have unsigned := readDigits?_append ('-' :: rest) (padded_ne_nil _ _) field.digits
        field.value (Nat.le_of_eq field.length) (.inl field.length)
      have value : ((year.natAbs : Nat) : Int) = year := by omega
      have noSign : a ≠ '-' ∧ a ≠ '+' := by
        have isDigit : a.isDigit = true := field.digits a (by rw [digits]; exact List.mem_cons_self)
        refine ⟨?_, ?_⟩
        · rintro rfl
          exact absurd isDigit (by decide)
        · rintro rfl
          exact absurd isDigit (by decide)
      rw [text, readYear?, skipBlanks_digits (padded_ne_nil _ _) field.digits]
      split
      · next minus =>
        rw [digits] at minus
        exact absurd (List.cons.inj minus).1 noSign.1
      · next plus =>
        rw [digits] at plus
        exact absurd (List.cons.inj plus).1 noSign.2
      · simp only [unsigned, Option.map_some, value]

/-- A fraction of a second is read up to the zone after it. -/
theorem readFraction?_fractionText {nanos : Nat} (fraction : nanos < nanosPerSecond)
    (rest : List Char) :
    readFraction? ((fractionText nanos).toList ++ 'Z' :: rest) = some (nanos, 'Z' :: rest) := by
  have digits : ∀ width n, 0 < width → width ≤ 9 → n < 10 ^ width →
      readFraction? (("." ++ padded width n).toList ++ 'Z' :: rest)
        = some (n * 10 ^ (9 - width), 'Z' :: rest) := by
    intro width n pos most fits
    have field := field_padded pos fits
    have read := readDigits?_append ('Z' :: rest) (padded_ne_nil _ _) field.digits
      field.value (field.length ▸ most) (.inr rfl)
    have length : ((padded width n).toList ++ 'Z' :: rest).length - ('Z' :: rest).length
        = width := by
      rw [List.length_append, Nat.add_sub_cancel, field.length]
    have dot : ("." ++ padded width n).toList ++ 'Z' :: rest
        = '.' :: ((padded width n).toList ++ 'Z' :: rest) := by
      rw [String.toList_append]
      rfl
    rw [dot, readFraction?, read]
    simp only [Option.bind_eq_bind, Option.bind_some, length]
    rfl
  simp only [nanosPerSecond] at fraction
  unfold fractionText
  by_cases none : nanos = 0
  · rw [if_pos none, none]
    rfl
  · rw [if_neg none]
    by_cases millis : nanos % 1000000 = 0
    · have value : nanos / 1000000 * 10 ^ (9 - 3) = nanos := by omega
      rw [if_pos millis, digits 3 _ (by decide) (by decide) (by omega), value]
    · rw [if_neg millis]
      by_cases micros : nanos % 1000 = 0
      · have value : nanos / 1000 * 10 ^ (9 - 6) = nanos := by omega
        rw [if_pos micros, digits 6 _ (by decide) (by decide) (by omega), value]
      · rw [if_neg micros, digits 9 _ (by decide) (by decide) (by omega)]
        rw [Nat.sub_self, Nat.pow_zero, Nat.mul_one]

/-- The text of a snapshot for a regular instant is read back as that instant. -/
theorem Regular.ofFullText? {t : Instant} (regular : t.Regular) :
    Instant.ofFullText? t.fullText = some t := by
  have clock := ofClock?_clock regular
  have exist : t.date.exists? = true := (Date.toDays_ofDays (t.seconds / secondsPerDay)).1
  obtain ⟨_, months, _, days⟩ := (Date.exists?_iff t.date.year t.date.month t.date.day).mp exist
  have length := Date.monthLength_le t.date.year t.date.month
  have below : t.secondOfDay < 86400 := by
    simp only [secondOfDay, secondsPerDay]
    omega
  have inRange : t.secondOfMinute < 61 := by
    unfold secondOfMinute
    split <;> omega
  have fraction : t.nanos % nanosPerSecond < nanosPerSecond := Nat.mod_lt _ (by decide)
  have isMonth : Field (padded 2 t.date.month).toList 2 t.date.month :=
    field_padded (by decide) (by omega)
  have isDay : Field (padded 2 t.date.day).toList 2 t.date.day :=
    field_padded (by decide) (by omega)
  have isHour : Field (padded 2 (t.secondOfDay / 3600)).toList 2 (t.secondOfDay / 3600) :=
    field_padded (by decide) (by omega)
  have isMinute : Field (padded 2 (t.secondOfDay / 60 % 60)).toList 2 (t.secondOfDay / 60 % 60) :=
    field_padded (by decide) (by omega)
  have isSecond : Field (padded 2 t.secondOfMinute).toList 2 t.secondOfMinute :=
    field_padded (by decide) (by omega)
  have whole : readZone? (skipBlanks ['Z']) = some (0, []) := rfl
  have near : ¬(!(skipBlanks []).isEmpty || decide (secondsPerDay ≤ ((0 : Int).natAbs : Int)))
      = true := by decide
  have dash : "-".toList = ['-'] := rfl
  have colon : ":".toList = [':'] := rfl
  have mark : "T".toList = ['T'] := rfl
  have zone : "Z".toList = ['Z'] := rfl
  simp only [Instant.ofFullText?, fullText, clockText, String.toList_append, dash, colon, mark,
    zone, List.append_assoc, List.cons_append, List.nil_append]
  -- one step for each part of the text
  refine Option.bind_eq_some_iff.mpr ⟨_, readYear?_yearText _ _, ?_⟩
  refine Option.bind_eq_some_iff.mpr ⟨_, readMark?_mark (by decide), ?_⟩
  refine Option.bind_eq_some_iff.mpr ⟨_, readPair?_field isMonth, ?_⟩
  refine Option.bind_eq_some_iff.mpr ⟨_, readMark?_mark (by decide), ?_⟩
  refine Option.bind_eq_some_iff.mpr ⟨_, readPair?_field isDay, ?_⟩
  refine Option.bind_eq_some_iff.mpr ⟨_, rfl, ?_⟩
  refine Option.bind_eq_some_iff.mpr ⟨_, readPair?_field isHour, ?_⟩
  refine Option.bind_eq_some_iff.mpr ⟨_, readMark?_mark (by decide), ?_⟩
  refine Option.bind_eq_some_iff.mpr ⟨_, readPair?_field isMinute, ?_⟩
  refine Option.bind_eq_some_iff.mpr ⟨_, readMark?_mark (by decide), ?_⟩
  refine Option.bind_eq_some_iff.mpr ⟨_, readPair?_field isSecond, ?_⟩
  refine Option.bind_eq_some_iff.mpr ⟨_, readFraction?_fractionText fraction [], ?_⟩
  refine Option.bind_eq_some_iff.mpr ⟨_, whole, ?_⟩
  rw [if_neg near, clock]
  simp only [Option.bind_eq_bind, Option.bind_some, Int.sub_zero, ofUnix?_self regular]

/-! ### Irregular instants -/

theorem not_regular_iff {t : Instant} :
    ¬t.Regular ↔ nanosPerSecond ≤ t.nanos ∧ t.seconds % 60 ≠ 59 := by
  unfold Regular
  omega

/-- After an irregular instant there is another second in range. -/
theorem valid_next {t : Instant} (irregular : ¬t.Regular) :
    Valid (t.seconds + 1) (t.nanos - nanosPerSecond) := by
  obtain ⟨low, high, fraction⟩ := t.valid
  obtain ⟨-, early⟩ := not_regular_iff.mp irregular
  have last : lastSecond % 60 = 59 := by decide
  exact ⟨by omega, by omega, by omega⟩

/-- The regular instant that has the text of an instant: a part of one second and more, unless it is
that of a leap second, counts as a second. -/
def settled (t : Instant) : Instant :=
  if h : t.Regular then t else ⟨t.seconds + 1, t.nanos - nanosPerSecond, valid_next h⟩

@[simp] theorem settled_eq {t : Instant} (regular : t.Regular) : t.settled = t := dif_pos regular

theorem settled_irregular {t : Instant} (irregular : ¬t.Regular) :
    t.settled.seconds = t.seconds + 1 ∧ t.settled.nanos = t.nanos - nanosPerSecond := by
  rw [settled, dif_neg irregular]
  exact ⟨rfl, rfl⟩

theorem regular_settled (t : Instant) : t.settled.Regular := by
  by_cases regular : t.Regular
  · rw [settled_eq regular]
    exact regular
  · obtain ⟨-, -, fraction⟩ := t.valid
    obtain ⟨beyond, -⟩ := not_regular_iff.mp regular
    refine .inl ?_
    rw [(settled_irregular regular).2]
    omega

theorem settled_eq_self_iff {t : Instant} : t.settled = t ↔ t.Regular :=
  ⟨fun same => same ▸ t.regular_settled, settled_eq⟩

/-- The second that is added does not end a minute, so that only the second changes its text. -/
theorem clock_settled (t : Instant) :
    t.settled.date = t.date ∧ t.settled.secondOfDay / 3600 = t.secondOfDay / 3600
      ∧ t.settled.secondOfDay / 60 % 60 = t.secondOfDay / 60 % 60
      ∧ t.settled.secondOfMinute = t.secondOfMinute
      ∧ t.settled.nanos % nanosPerSecond = t.nanos % nanosPerSecond := by
  by_cases regular : t.Regular
  · rw [settled_eq regular]
    exact ⟨rfl, rfl, rfl, rfl, rfl⟩
  · obtain ⟨seconds, nanos⟩ := settled_irregular regular
    obtain ⟨beyond, early⟩ := not_regular_iff.mp regular
    have fraction := t.valid.2.2
    have day : t.settled.seconds / secondsPerDay = t.seconds / secondsPerDay := by
      simp only [seconds, secondsPerDay]
      omega
    have later : t.settled.secondOfDay = t.secondOfDay + 1 ∧ t.secondOfDay % 60 ≠ 59 := by
      simp only [secondOfDay, seconds, secondsPerDay]
      omega
    obtain ⟨later, inside⟩ := later
    have none : ¬nanosPerSecond ≤ t.settled.nanos := by omega
    refine ⟨congrArg Date.ofDays day, by omega, by omega, ?_, ?_⟩
    · rw [secondOfMinute, secondOfMinute, if_pos beyond, if_neg none]
      omega
    · rw [nanos, Nat.mod_eq_sub_mod beyond]

theorem clockText_settled (t : Instant) : t.settled.clockText = t.clockText := by
  obtain ⟨date, hour, minute, second, -⟩ := t.clock_settled
  simp only [clockText, date, hour, minute, second]

/-- The text of a snapshot is read back as the regular instant that has this text. -/
theorem ofFullText?_fullText (t : Instant) : ofFullText? t.fullText = some t.settled := by
  have same : t.settled.fullText = t.fullText := by
    rw [fullText, fullText, clockText_settled, t.clock_settled.2.2.2.2]
  rw [← same]
  exact t.regular_settled.ofFullText?

/-- The text of a snapshot stands for the instant itself exactly if it is regular. -/
theorem readsBack_iff {t : Instant} : ofFullText? t.fullText = some t ↔ t.Regular := by
  rw [ofFullText?_fullText, Option.some_inj]
  exact settled_eq_self_iff

end Annals.Instant
