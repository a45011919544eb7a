import Mathlib.Data.List.Basic
import Annals.Proofs.Number.Digits
import Annals.Proofs.Query.Lexing

/-!
# Reading words made of digits

The text of an integer, a number and an instant are words made of digits and a few marks. The
lemmas here read such words: the value of digits, the sign, the forms of an integer and of a
fraction. `Token.Legible` says that a token is read back from its segment; integers and symbols
are legible whatever they are.
-/

set_option autoImplicit false

namespace Annals

/-- The characters from zero to the lower-case letters have no meaning of their own in a query. -/
theorem isWordChar_of_range {c : Char} (low : 48 ≤ c.toNat) (high : c.toNat ≤ 122) :
    Segment.isWordChar c = true := by
  have other : ∀ d : Char, d.toNat < 48 → c ≠ d := by
    intro d below same
    rw [same] at low
    omega
  have blank : Text.isBlank c = false := by
    simp only [Text.isBlank, Bool.or_eq_false_iff, Bool.and_eq_false_iff, decide_eq_false_iff_not,
      beq_eq_false_iff_ne]
    omega
  simp only [Segment.isWordChar, Text.isQuote, blank, Bool.and_eq_true, bne_iff_ne, ne_eq,
    Bool.not_eq_true', Bool.or_eq_false_iff, beq_eq_false_iff_ne]
  exact ⟨⟨⟨⟨other _ (by decide), other _ (by decide), other _ (by decide)⟩, other _ (by decide)⟩,
    other _ (by decide)⟩, trivial⟩

theorem isWordChar_of_isDigit {c : Char} (digit : c.isDigit = true) :
    Segment.isWordChar c = true := by
  simp only [Char.isDigit, Bool.and_eq_true, decide_eq_true_eq] at digit
  have low : 48 ≤ c.toNat := UInt32.le_iff_toNat_le.mp digit.1
  have high : c.toNat ≤ 57 := UInt32.le_iff_toNat_le.mp digit.2
  exact isWordChar_of_range low (Nat.le_trans high (by decide))

namespace Token

theorem areDigits_iff (chars : List Char) :
    areDigits chars = true ↔ chars ≠ [] ∧ ∀ c ∈ chars, c.isDigit = true := by
  unfold areDigits
  rw [Bool.and_eq_true, List.all_eq_true, Bool.not_eq_true', List.isEmpty_eq_false_iff]

theorem digitsValue_eq {chars : List Char} (digits : ∀ c ∈ chars, c.isDigit = true) :
    digitsValue chars = Nat.ofDigitChars 10 chars 0 := by
  unfold digitsValue
  rw [Instant.digitsValue?_eq digits]
  rfl

theorem splitSign_digits {chars : List Char} (digits : ∀ c ∈ chars, c.isDigit = true)
    (nonempty : chars ≠ []) (rest : List Char) :
    splitSign (chars ++ rest) = (false, chars ++ rest) := by
  cases chars with
  | nil => exact absurd rfl nonempty
  | cons c others =>
    have here := digits c (by simp)
    rw [List.cons_append]
    unfold splitSign
    split
    · rename_i same
      rw [(List.cons.inj same).1] at here
      cases here
    · rename_i same
      rw [(List.cons.inj same).1] at here
      cases here
    · rfl

/-- A number without its sign is no integer if it holds something other than digits. -/
theorem intForm?_eq_none {word chars : List Char} {negative : Bool} {c : Char}
    (split : splitSign word = (negative, chars)) (mem : c ∈ chars)
    (noDigit : c.isDigit = false) : intForm? word = none := by
  have not_digits : areDigits chars = false := by
    rw [Bool.eq_false_iff]
    intro digits
    have digit := ((areDigits_iff chars).mp digits).2 c mem
    rw [noDigit] at digit
    cases digit
  simp only [intForm?, split, not_digits, Bool.false_eq_true, if_false]

/-- What a token must be so that a query can hold it: its segment stands by itself, and is read
as that token. -/
structure Legible (token : Token) : Prop where
  clean : token.segment.Clean
  reads : ofSegment token.segment = .ok token

theorem areDigits_toDigits (n : Nat) : areDigits (Nat.toDigits 10 n) = true :=
  (areDigits_iff _).mpr ⟨Nat.toDigits_ne_nil, isDigit_of_mem_toDigits⟩

theorem digitsValue_toDigits (n : Nat) : digitsValue (Nat.toDigits 10 n) = n := by
  rw [digitsValue_eq isDigit_of_mem_toDigits, Nat.ofDigitChars_ten_toDigits]

/-- The characters of the text of an integer. -/
theorem toList_toString (i : Int) :
    (toString i).toList
      = if 0 ≤ i then Nat.toDigits 10 i.toNat else '-' :: Nat.toDigits 10 (-i).toNat := by
  rw [Int.toString_eq_repr, Int.repr_eq_if]
  split
  · exact Nat.toList_repr
  · rw [String.toList_append, Nat.toList_repr]
    rfl

/-- The text of an integer has the form of that integer. -/
theorem intForm?_toString (i : Int) :
    intForm? (toString i).toList = some (decide (i < 0), i.natAbs) := by
  rw [toList_toString]
  split
  · have sign := splitSign_digits (isDigit_of_mem_toDigits (n := i.toNat)) Nat.toDigits_ne_nil []
    rw [List.append_nil] at sign
    simp only [intForm?, sign, areDigits_toDigits, if_true, digitsValue_toDigits,
      Option.some.injEq, Prod.mk.injEq]
    exact ⟨(decide_eq_false (by omega)).symm, by omega⟩
  · simp only [intForm?, splitSign, areDigits_toDigits, if_true, digitsValue_toDigits,
      Option.some.injEq, Prod.mk.injEq]
    exact ⟨(decide_eq_true (by omega)).symm, by omega⟩

/-- An integer of 64 bits fits into 64 bits. -/
theorem fitInt?_toInt (n : Int64) :
    fitInt? (decide (n.toInt < 0)) n.toInt.natAbs = some n := by
  have low := n.le_toInt
  have high := n.toInt_lt
  unfold fitInt?
  by_cases negative : n.toInt < 0
  · have same : -(n.toInt.natAbs : Int) = n.toInt := by omega
    have small : n.toInt.natAbs ≤ 0x8000000000000000 := by omega
    simp only [negative, decide_true, if_true, small, same, Int64.ofInt_toInt]
  · have same : (n.toInt.natAbs : Int) = n.toInt := by omega
    have small : n.toInt.natAbs < 0x8000000000000000 := by omega
    simp only [negative, decide_false, Bool.false_eq_true, if_false, small, if_true, same,
      Int64.ofInt_toInt]

/-- Every integer is read back from its text. -/
theorem legible_int (n : Int64) : (Token.int n).Legible := by
  constructor
  · simp only [segment, Segment.Clean]
    rw [toList_toString]
    split
    · exact ⟨Nat.toDigits_ne_nil,
        fun c mem => isWordChar_of_isDigit (isDigit_of_mem_toDigits c mem)⟩
    · refine ⟨List.cons_ne_nil _ _, ?_⟩
      intro c mem
      rcases List.mem_cons.mp mem with rfl | mem
      · decide
      · exact isWordChar_of_isDigit (isDigit_of_mem_toDigits c mem)
  · simp only [segment, ofSegment, ofWord, intForm?_toString, fitInt?_toInt]

/-- A symbol is read back as it was read. -/
theorem legible_symbol {word : List Char} {name : String} (clean : (Segment.word word).Clean)
    (read : ofWord word = .ok (.symbol name)) : (Token.symbol name).Legible := by
  have same : name = String.ofList word := by
    unfold ofWord at read
    split at read
    · split at read <;> cases read
    · simp only at read
      split at read <;> cases read
    · split at read <;> cases read
    · split at read
      · cases read
        rfl
      · cases read
  constructor
  · simp only [segment, same, String.toList_ofList]
    exact clean
  · simp only [segment, same, String.toList_ofList, ofSegment]
    rw [read, same]

/-- A text that could be cut out of a query is read back. -/
theorem legible_str {chars : List Char} (clean : (Segment.quoted chars).Clean) :
    (Token.str (String.ofList chars)).Legible := by
  constructor
  · simp only [segment, String.toList_ofList]
    exact clean
  · simp only [segment, String.toList_ofList, ofSegment]

/-- What follows the fraction of a number does not begin with a digit. -/
theorem takeWhile_of_exponentForm? {tail : List Char} {exponent : Int}
    (form : exponentForm? tail = some exponent) : tail.takeWhile Char.isDigit = [] := by
  unfold exponentForm? at form
  split at form
  · rfl
  · rfl
  · rfl
  · cases form

/-- The sign of a number in its text. -/
def signChars (negative : Bool) : List Char :=
  if negative then ['-'] else []

theorem splitSign_signChars {chars : List Char} (digits : ∀ c ∈ chars, c.isDigit = true)
    (nonempty : chars ≠ []) (negative : Bool) (rest : List Char) :
    splitSign (signChars negative ++ (chars ++ rest)) = (negative, chars ++ rest) := by
  cases negative with
  | true => rfl
  | false => exact splitSign_digits digits nonempty rest

/-- A word with a sign, digits, a point, digits and perhaps an exponent has the form of a
fraction; all the digits together are its digits. -/
theorem floatForm?_eq {whole fraction tail : List Char} {exponent : Int}
    (isWhole : areDigits whole = true) (isFraction : areDigits fraction = true)
    (form : exponentForm? tail = some exponent) (negative : Bool) :
    floatForm? (signChars negative ++ (whole ++ '.' :: (fraction ++ tail)))
      = some (negative, Nat.ofDigitChars 10 (whole ++ fraction) 0,
          exponent - fraction.length) := by
  obtain ⟨nonempty, wholeDigits⟩ := (areDigits_iff _).mp isWhole
  obtain ⟨_, fractionDigits⟩ := (areDigits_iff _).mp isFraction
  have first : (whole ++ '.' :: (fraction ++ tail)).takeWhile Char.isDigit = whole := by
    rw [List.takeWhile_append_of_pos wholeDigits]
    simp
  have second : (fraction ++ tail).takeWhile Char.isDigit = fraction := by
    rw [List.takeWhile_append_of_pos fractionDigits, takeWhile_of_exponentForm? form,
      List.append_nil]
  have all : ∀ c ∈ whole ++ fraction, c.isDigit = true := by
    intro c mem
    rcases List.mem_append.mp mem with mem | mem
    · exact wholeDigits c mem
    · exact fractionDigits c mem
  unfold floatForm?
  simp only [splitSign_signChars wholeDigits nonempty, first, List.drop_left, second, form,
    isWhole, isFraction, Bool.and_true, if_true, digitsValue_eq all]
  rfl

/-- Such a word is read as the number that is nearest to it, if that is finite. -/
theorem ofWord_fraction {whole fraction tail : List Char} {exponent : Int}
    (isWhole : areDigits whole = true) (isFraction : areDigits fraction = true)
    (form : exponentForm? tail = some exponent) {negative : Bool} {x : Binary64}
    (nearest : Binary64.ofDecimal negative (Nat.ofDigitChars 10 (whole ++ fraction) 0)
      (exponent - fraction.length) = x) (finite : x.isFinite = true) :
    ofWord (signChars negative ++ (whole ++ '.' :: (fraction ++ tail))) = .ok (.float x) := by
  obtain ⟨nonempty, wholeDigits⟩ := (areDigits_iff _).mp isWhole
  have noInt : intForm? (signChars negative ++ (whole ++ '.' :: (fraction ++ tail))) = none :=
    intForm?_eq_none (c := '.') (splitSign_signChars wholeDigits nonempty negative _)
      (by simp) (by decide)
  simp only [ofWord, noInt, floatForm?_eq isWhole isFraction form, nearest, finite, if_true]

end Token

end Annals
