import Annals.Proofs.Fact.Orderly
import Annals.Proofs.Query.Fractions
import Annals.Proofs.Time.Reading

/-!
# The text of a value as a query

The text of a value that a property may hold is one word or one quoted text. Read as a query, it is
mostly one literal that stands for the value again. A word shows an instant to the second, so that
a fraction of a second is lost; no word of a query is a literal for an infinite number or for an
instant outside of the years 0 to 9999; and a text that ends in a backslash has no closing quote.

* `Value.shown` is what the text of a value shows of it.
* `Value.Expressible` says that the text of a value is a literal.
* `Token.ofQuery_text`: a legible value is the one token of its text.
* `Token.ofWord_signed`: a date whose year has a sign is no word of a query.
* `Token.ofQuery_unclosed`: a text whose last character is a backslash is not closed.
* `Value.text_shows` says what is read of the text of any value that a property may hold, and
  `Value.text_falls_short` that this is not always the value itself.
-/

set_option autoImplicit false

namespace Annals

/-! ### Texts that are one segment -/

namespace Segment

/-- A text of word characters is cut into one word. -/
theorem ofChars_word {chars : List Char} (clean : (Segment.word chars).Clean) :
    ofChars chars = .ok [.word chars] := by
  have read := ofCharsAt_word clean.2 [] []
  have some_char : chars.reverse.isEmpty = false := by simpa using clean.1
  rw [List.append_nil, List.append_nil] at read
  rw [ofChars, read]
  simp only [ofCharsAt, flush, some_char, List.reverse_reverse, Bool.false_eq_true, if_false]

/-- The text of a value with a clean segment is cut into that segment. -/
theorem ofChars_text {value : Value} (clean : (Token.ofValue value).segment.Clean) :
    ofChars value.text.toList = .ok [(Token.ofValue value).segment] := by
  cases value with
  | int n => exact ofChars_word clean
  | float x => exact ofChars_word clean
  | time t => exact ofChars_word clean
  | str s =>
    rw [Value.text_str_toList, ofChars, ofCharsAt_quoted clean []]
    rfl

end Segment

namespace Token

/-- A query that is one word has the token of that word. -/
theorem ofQuery_word {query : String} (clean : (Segment.word query.toList).Clean) :
    ofQuery query = (ofWord query.toList).map ([·]) := by
  unfold ofQuery
  rw [Segment.ofChars_word clean]
  change List.mapM ofSegment [.word query.toList] = _
  rw [List.mapM_cons, List.mapM_nil]
  change (ofWord query.toList >>= fun token => Except.ok [token]) = _
  cases ofWord query.toList <;> rfl

/-- The text of a legible value has one token, and it is that of the value. -/
theorem ofQuery_text {value : Value} (legible : (ofValue value).Legible) :
    ofQuery value.text = .ok [ofValue value] := by
  have read : [(ofValue value).segment].mapM ofSegment = .ok [ofValue value] := by
    rw [List.mapM_cons, List.mapM_nil, legible.reads]
    rfl
  unfold ofQuery
  rw [Segment.ofChars_text legible.clean]
  exact read

/-- The backslash at the end of a text takes the closing quote into the text. -/
theorem ofQuery_unclosed {s : String} (open_ : s.toList.getLast? = some Text.backslash) :
    ofQuery (Value.text (.str s)) = .error .unclosedText := by
  have last : (s.toList.reverse.head? == some Text.backslash) = true := by
    rw [List.head?_reverse, open_]
    rfl
  have read : Segment.ofChars (Value.text (.str s)).toList = .error .unclosedText := by
    rw [Value.text_str_toList, Segment.ofChars]
    change (Segment.ofCharsAt (.inside Text.singleQuote []) (Text.escapeChars s.toList
      ++ [Text.singleQuote])).map (Segment.flush []) = _
    rw [Segment.ofCharsAt_escape (by decide), List.append_nil]
    have isQuote : Text.isQuote Text.singleQuote = true := by decide
    simp only [Segment.ofCharsAt, isQuote, last, Bool.and_self, if_true]
    rfl
  unfold ofQuery
  rw [read]
  rfl

/-- No word of a query begins with a sign and has digits and a dash after it. -/
theorem ofWord_signed {sign : Char} (isSign : sign = '-' ∨ sign = '+') {digits : List Char}
    (isNumber : areDigits digits = true) (rest : List Char) :
    ofWord (sign :: (digits ++ '-' :: rest))
      = .error (.wrongSymbol (String.ofList (sign :: (digits ++ '-' :: rest)))) := by
  obtain ⟨-, areAll⟩ := (areDigits_iff digits).mp isNumber
  have split : ∃ negative, splitSign (sign :: (digits ++ '-' :: rest))
      = (negative, digits ++ '-' :: rest) := by
    rcases isSign with rfl | rfl
    · exact ⟨true, rfl⟩
    · exact ⟨false, rfl⟩
  obtain ⟨negative, split⟩ := split
  have noInt : intForm? (sign :: (digits ++ '-' :: rest)) = none :=
    intForm?_eq_none (c := '-') split (by simp) (by decide)
  have noFloat : floatForm? (sign :: (digits ++ '-' :: rest)) = none := by
    have whole : (digits ++ '-' :: rest).takeWhile Char.isDigit = digits := by
      rw [List.takeWhile_append_of_pos areAll, List.takeWhile_cons_of_neg (by decide),
        List.append_nil]
    simp only [floatForm?, split, whole, List.drop_left]
    rfl
  have noTime : Instant.wordFields? (sign :: (digits ++ '-' :: rest)) = none := by
    have noDigit : sign.isDigit = false := by
      rcases isSign with rfl | rfl <;> decide
    unfold Instant.wordFields?
    split
    · next same =>
      rw [← (List.cons.inj same).1]
      simp only [Instant.digitsValue?, noDigit, Bool.false_eq_true, if_false,
        Option.bind_eq_bind, Option.bind_none]
    · rfl
  have noSymbol : isSymbolForm (sign :: (digits ++ '-' :: rest)) = false := by
    rcases isSign with rfl | rfl
    · rfl
    · rfl
  simp only [ofWord, noInt, noFloat, noTime, noSymbol, Bool.false_eq_true, if_false]

end Token

/-! ### Instants to the second -/

namespace Instant

/-- The instant without its fraction of a second; a leap second stays one. -/
def wholeSecond (t : Instant) : Instant where
  seconds := t.seconds
  nanos := t.nanos - t.nanos % nanosPerSecond
  valid := by
    obtain ⟨low, high, fraction⟩ := t.valid
    exact ⟨low, high, by omega⟩

theorem wholeSecond_eq {t : Instant} (whole : t.nanos % nanosPerSecond = 0) :
    t.wholeSecond = t := by
  obtain ⟨seconds, nanos, valid⟩ := t
  simp only [wholeSecond, mk.injEq, true_and]
  simp only at whole
  omega

/-- The text of an instant does not show its fraction of a second. -/
theorem text_wholeSecond (t : Instant) : t.wholeSecond.text = t.text := by
  have leap : t.wholeSecond.secondOfMinute = t.secondOfMinute := by
    unfold secondOfMinute
    simp only [wholeSecond, secondOfDay, nanosPerSecond]
    congr 1
    exact if_congr (by omega) rfl rfl
  simp only [text, clockText, leap]
  rfl

theorem regular_wholeSecond {t : Instant} (regular : t.Regular) : t.wholeSecond.Regular := by
  rcases regular with short | last
  · exact .inl (Nat.lt_of_le_of_lt (Nat.sub_le _ _) short)
  · exact .inr last

/-- A regular instant of the years 0 to 9999 without a fraction of a second is one that a word
writes. -/
theorem ofWord_wholeSecond {t : Instant} (regular : t.Regular)
    (year : 0 ≤ t.date.year ∧ t.date.year ≤ 9999) :
    t.wholeSecond.OfWord t.date (t.secondOfDay / 3600) (t.secondOfDay / 60 % 60)
      t.wholeSecond.secondOfMinute := by
  have none : t.wholeSecond.nanos % nanosPerSecond = 0 := by
    simp only [wholeSecond, nanosPerSecond]
    omega
  have clock := ofClock?_clock (regular_wholeSecond regular)
  rw [none] at clock
  exact ⟨⟨year.1, by omega⟩, clock⟩

/-- The text of an instant shows the instant itself if it is regular and has no fraction. -/
theorem wholeSecond_settled_iff {t : Instant} :
    t.settled.wholeSecond = t ↔ t.Regular ∧ t.nanos % nanosPerSecond = 0 := by
  constructor
  · intro same
    have regular : t.Regular := same ▸ regular_wholeSecond t.regular_settled
    refine ⟨regular, ?_⟩
    rw [settled_eq regular] at same
    have nanos : t.nanos - t.nanos % nanosPerSecond = t.nanos := congrArg Instant.nanos same
    have below : t.nanos % nanosPerSecond ≤ t.nanos := Nat.mod_le _ _
    omega
  · rintro ⟨regular, whole⟩
    rw [settled_eq regular, wholeSecond_eq whole]

/-- The text of an instant shows its second if it is regular. -/
theorem seconds_settled_iff {t : Instant} : t.seconds = t.settled.seconds ↔ t.Regular := by
  constructor
  · intro same
    by_contra irregular
    have next := (settled_irregular irregular).1
    omega
  · intro regular
    rw [settled_eq regular]

/-- The text of an instant outside of the years 0 to 9999 is a word that no query may hold. -/
theorem ofQuery_text_signed {t : Instant} (year : t.date.year < 0 ∨ 9999 < t.date.year) :
    Token.ofQuery t.text = .error (.wrongSymbol t.text) := by
  have signed : ∃ sign, (sign = '-' ∨ sign = '+')
      ∧ (yearText t.date.year).toList = sign :: (padded 4 t.date.year.natAbs).toList := by
    by_cases before : t.date.year < 0
    · refine ⟨'-', .inl rfl, ?_⟩
      simp only [yearText, before, if_true, String.toList_append]
      rfl
    · have long : 9999 < t.date.year := by omega
      refine ⟨'+', .inr rfl, ?_⟩
      simp only [yearText, before, long, if_true, if_false, String.toList_append]
      rfl
  obtain ⟨sign, isSign, yearChars⟩ := signed
  have digits : ∀ width n, ∀ c ∈ (padded width n).toList, c.isDigit = true :=
    fun _ _ => isDigit_of_mem_padded
  have word := t.text_eq_wordOf
  have clean : (Segment.word t.text.toList).Clean := by
    rw [word]
    refine ⟨by rw [yearChars]; exact List.cons_ne_nil _ _,
      isWordChar_wordOf ?_ (digits _ _) (digits _ _) (digits _ _) (digits _ _) (digits _ _)⟩
    intro c mem
    rw [yearChars] at mem
    rcases List.mem_cons.mp mem with rfl | mem
    · rcases isSign with rfl | rfl <;> decide
    · exact isWordChar_of_isDigit (digits _ _ c mem)
  have isNumber : Token.areDigits (padded 4 t.date.year.natAbs).toList = true :=
    (Token.areDigits_iff _).mpr ⟨padded_ne_nil _ _, digits _ _⟩
  have wrong : Token.ofWord t.text.toList
      = .error (.wrongSymbol (String.ofList t.text.toList)) := by
    rw [word, wordOf, yearChars, List.cons_append]
    exact Token.ofWord_signed isSign isNumber _
  rw [Token.ofQuery_word clean, wrong, String.ofList_toList]
  rfl

end Instant

/-! ### Values -/

namespace Value

/-- What the text of a value shows of it: everything, but only the seconds of an instant. -/
def shown : Value → Value
  | time t => time t.settled.wholeSecond
  | v => v

/-- Whether the text of a value is a literal of a query: a number is finite, an instant lies in a
year of four digits, and no backslash stands before the closing quote of a text. -/
def Expressible : Value → Prop
  | int _ => True
  | float x => x.isFinite = true
  | str s => s.toList.getLast? ≠ some Text.backslash
  | time t => 0 ≤ t.date.year ∧ t.date.year ≤ 9999

instance : DecidablePred Expressible
  | int _ => isTrue trivial
  | float x => inferInstanceAs (Decidable (x.isFinite = true))
  | str s => inferInstanceAs (Decidable (s.toList.getLast? ≠ some Text.backslash))
  | time t => inferInstanceAs (Decidable (0 ≤ t.date.year ∧ t.date.year ≤ 9999))

theorem text_shown (v : Value) : v.shown.text = v.text := by
  cases v with
  | time t =>
    show t.settled.wholeSecond.text = t.text
    rw [Instant.text_wholeSecond, Instant.text, Instant.text, Instant.clockText_settled]
  | int n => rfl
  | float x => rfl
  | str s => rfl

/-- What the text of an expressible value shows is a legible token. -/
theorem Expressible.legible {name : String} {v : Value}
    (storable : Properties.checkValue name v = .ok ()) (expressible : v.Expressible) :
    (Token.ofValue v.shown).Legible := by
  cases v with
  | int n => exact Token.legible_int n
  | float x => exact Token.legible_float expressible
  | time t =>
    have year : 0 ≤ t.settled.date.year ∧ t.settled.date.year ≤ 9999 := by
      rw [t.clock_settled.1]
      exact expressible
    exact Token.legible_time (Instant.ofWord_wholeSecond t.regular_settled year)
  | str s =>
    have some_char : s.toList ≠ [] := by
      intro none
      rw [String.toList_eq_nil_iff.mp none] at storable
      cases storable
    have clean : (Segment.quoted s.toList).Clean := ⟨some_char, expressible⟩
    have legible := Token.legible_str clean
    rw [String.ofList_toList] at legible
    exact legible

/-- No token of the text of a value that is not expressible is a literal. -/
theorem no_literal {v : Value} (beyond : ¬v.Expressible) {tokens : List Token}
    (read : Token.ofQuery v.text = .ok tokens) : ∀ token ∈ tokens, token.literal? = none := by
  cases v with
  | int n => exact absurd trivial beyond
  | str s =>
    have open_ : s.toList.getLast? = some Text.backslash := Decidable.not_not.mp beyond
    rw [Token.ofQuery_unclosed open_] at read
    cases read
  | time t =>
    have year : t.date.year < 0 ∨ 9999 < t.date.year := by
      rcases Decidable.not_and_iff_or_not.mp beyond with before | after
      · exact .inl (Int.not_le.mp before)
      · exact .inr (Int.not_le.mp after)
    have wrong : Token.ofQuery t.text = .error (.wrongSymbol t.text) :=
      Instant.ofQuery_text_signed year
    rw [text, wrong] at read
    cases read
  | float x =>
    have infinite : x.isFinite = false := Bool.eq_false_iff.mpr beyond
    have names : x.text = "NaN" ∨ x.text = "-inf" ∨ x.text = "inf" := by
      simp only [Binary64.text, infinite, Bool.false_eq_true, if_false]
      cases x.isNaN <;> cases x.isNegative <;> decide
    rw [text] at read
    rcases names with same | same | same
    · rw [same, show Token.ofQuery "NaN" = .error (.wrongSymbol "NaN") by decide +kernel] at read
      cases read
    · rw [same, show Token.ofQuery "-inf" = .error (.wrongSymbol "-inf") by decide +kernel] at read
      cases read
    · rw [same, show Token.ofQuery "inf" = .ok [.symbol "inf"] by decide +kernel] at read
      cases read
      intro token mem
      rw [List.mem_singleton.mp mem]
      rfl

section Equality

variable {name : String} {v : Value}

/-- A query takes a value that may be held for equal to what its text shows, unless it is an
irregular instant, whose text shows the next second. -/
theorem looselyEquals_shown_iff (storable : Properties.checkValue name v = .ok ()) :
    v.looselyEquals v.shown = true ↔ ∀ t, v = .time t → t.Regular := by
  have number := (Properties.checkValue_ok_iff.mp storable).2
  cases v with
  | int n => simp [shown, looselyEquals, compare?]
  | str s => simp [shown, looselyEquals, compare?, compareOfLessAndEq]
  | float x => simp [shown, looselyEquals, compare?, asFloat?, Binary64.compare?, number x rfl]
  | time t =>
    have second : t.seconds = t.settled.wholeSecond.seconds ↔ t.Regular :=
      Instant.seconds_settled_iff
    simpa [shown, looselyEquals] using second

/-- The text of a value shows all of it, unless it is an irregular instant or leaves out a fraction
of a second. -/
theorem shown_eq_iff : v.shown = v ↔
    ∀ t, v = .time t → t.Regular ∧ t.nanos % Instant.nanosPerSecond = 0 := by
  cases v with
  | int n => simp [shown]
  | str s => simp [shown]
  | float x => simp [shown]
  | time t => simpa [shown] using Instant.wholeSecond_settled_iff (t := t)

/-- The text of a value that a property may hold has one token, which is a literal, if the value is
expressible, and no literal otherwise. The literal stands for what is shown of the value. That is
the value itself, bit for bit, exactly if the value is no irregular instant and no fraction of a
second is left out; a query takes the two for equal exactly if the value is no irregular instant. -/
theorem text_shows (storable : Properties.checkValue name v = .ok ()) :
    (v.Expressible → ∃ token, Token.ofQuery v.text = .ok [token]
      ∧ token.literal? = some v.shown) ∧
    (¬v.Expressible → ∀ tokens, Token.ofQuery v.text = .ok tokens →
      ∀ token ∈ tokens, token.literal? = none) ∧
    ((∀ t, v = .time t → t.Regular ∧ t.nanos % Instant.nanosPerSecond = 0) ↔ v.shown = v) ∧
    (v.shown = v → v.shown.same v = true) ∧
    ((∀ t, v = .time t → t.Regular) ↔ v.looselyEquals v.shown = true) := by
  refine ⟨fun expressible => ?_, fun beyond tokens read => no_literal beyond read,
    shown_eq_iff.symm, fun whole => ?_, (looselyEquals_shown_iff storable).symm⟩
  · have read := Token.ofQuery_text (expressible.legible storable)
    rw [text_shown] at read
    exact ⟨.ofValue v.shown, read, Token.literal?_ofValue v.shown⟩
  · rw [whole]
    exact Properties.same_self storable

end Equality

/-- A text with quotes and a backslash before each of them, half of a leap second, the least number
there is, the first instant of a year with five digits, and a text that ends in a backslash. -/
theorem text_shows_oddities :
    let quotes : Value := .str "\\'\\\"#"
    let leap : Value := .time ⟨1483228799, 1500000000, by decide⟩
    let infinite : Value := .float ⟨0xfff0000000000000⟩
    let far : Value := .time ⟨253402300800, 0, by decide⟩
    let slash : Value := .str "a\\"
    (quotes.text = "'\\\\'\\\\\"#'" ∧ ∃ token, Token.ofQuery quotes.text = .ok [token]
        ∧ token.literal? = some quotes) ∧
      (leap.text = "2016-12-31T23:59:60Z" ∧ (∃ token, Token.ofQuery leap.text = .ok [token]
        ∧ token.literal? = some (.time ⟨1483228799, 1000000000, by decide⟩))
        ∧ leap.looselyEquals leap.shown = true) ∧
      ∀ v ∈ [infinite, far, slash], ∀ tokens, Token.ofQuery v.text = .ok tokens →
        ∀ token ∈ tokens, token.literal? = none := by
  intro quotes leap infinite far slash
  have stored : ∀ v ∈ [quotes, leap, infinite, far, slash],
      Properties.checkValue "a" v = .ok () := by
    decide
  have isQuotes := text_shows (stored quotes (by simp))
  have isLeap := text_shows (stored leap (by simp))
  have regular : ∀ t, leap = .time t → t.Regular := by
    intro t same
    rw [← Value.time.inj same]
    decide
  have beyond : ∀ v ∈ [infinite, far, slash], ¬v.Expressible := by decide
  refine ⟨⟨by decide +kernel, isQuotes.1 (by decide)⟩, ⟨by decide +kernel, isLeap.1 (by decide),
    isLeap.2.2.2.2.mp regular⟩, ?_⟩
  intro v mem
  have later : v ∈ [quotes, leap, infinite, far, slash] := by
    simp only [List.mem_cons] at mem ⊢
    exact .inr (.inr mem)
  exact (text_shows (stored v later)).2.1 (beyond v mem)

/-- The text of half a second is read as the whole second, that of a second and a half in the middle
of a minute as the next second, and the texts of the least number there is, of an instant in a year
with five digits and of a text that ends in a backslash are not read at all. -/
theorem text_falls_short :
    let half : Value := .time ⟨1716666228, 500000000, by decide⟩
    let irregular : Value := .time ⟨1716666210, 1500000000, by decide⟩
    let infinite : Value := .float ⟨0xfff0000000000000⟩
    let far : Value := .time ⟨253402300800, 0, by decide⟩
    let slash : Value := .str "a\\"
    (∀ v ∈ [half, irregular, infinite, far, slash], Properties.checkValue "a" v = .ok ()) ∧
    (∃ whole, Token.ofQuery half.text = .ok [.time whole]
      ∧ (Value.time whole).same half = false) ∧
    (∃ next, Token.ofQuery irregular.text = .ok [.time next]
      ∧ (Value.time next).looselyEquals irregular = false) ∧
    Token.ofQuery infinite.text = .error (.wrongSymbol "-inf") ∧
    Token.ofQuery far.text = .error (.wrongSymbol "+10000-01-01T00:00:00Z") ∧
    Token.ofQuery slash.text = .error .unclosedText := by
  intro half irregular infinite far slash
  exact ⟨by decide, ⟨⟨1716666228, 0, by decide⟩, by decide +kernel, by decide⟩,
    ⟨⟨1716666211, 0, by decide⟩, by decide +kernel, by decide⟩, by decide +kernel,
    by decide +kernel, by decide +kernel⟩

end Value

end Annals
