import Annals.Proofs.Number.Decimal
import Annals.Proofs.Query.Words

/-!
# Reading numbers back

The text of a finite number is digits, a point, digits and perhaps an exponent. Wherever the
layout puts the point, the word has the value of the shortest decimal, so that it is read as the
number that was written.

* `Binary64.Written` relates a word without a sign to the magnitude that it is read as.
* `Binary64.written_magnitudeText`: the text of a magnitude is such a word for it.
* `Token.legible_float`: every finite number is read back, bit for bit.
-/

set_option autoImplicit false

namespace Annals

namespace Binary64

/-- A word without a sign has the form of a fraction and is nearest to a magnitude. -/
structure Written (chars : List Char) (magnitude : Nat) : Prop where
  /-- The parts of the word, the power of ten in its exponent, and its value. -/
  parts : ∃ (whole fraction tail : List Char) (exponent : Int),
    chars = whole ++ '.' :: (fraction ++ tail)
      ∧ Token.areDigits whole = true ∧ Token.areDigits fraction = true
      ∧ Token.exponentForm? tail = some exponent
      ∧ decimalMagnitude (Nat.ofDigitChars 10 (whole ++ fraction) 0)
          (exponent - fraction.length) = magnitude
  word : ∀ c ∈ chars, Segment.isWordChar c = true

theorem isWordChar_of_areDigits {chars : List Char} (digits : Token.areDigits chars = true) :
    ∀ c ∈ chars, Segment.isWordChar c = true := by
  intro c mem
  exact isWordChar_of_isDigit (((Token.areDigits_iff chars).mp digits).2 c mem)

/-- The parts of a word make a word if the exponent does. -/
theorem Written.of_parts {whole fraction tail : List Char} {exponent : Int} {magnitude : Nat}
    (isWhole : Token.areDigits whole = true) (isFraction : Token.areDigits fraction = true)
    (form : Token.exponentForm? tail = some exponent)
    (word : ∀ c ∈ tail, Segment.isWordChar c = true)
    (value : decimalMagnitude (Nat.ofDigitChars 10 (whole ++ fraction) 0)
      (exponent - fraction.length) = magnitude) :
    Written (whole ++ '.' :: (fraction ++ tail)) magnitude := by
  refine ⟨⟨whole, fraction, tail, exponent, rfl, isWhole, isFraction, form, value⟩, ?_⟩
  intro c mem
  rcases List.mem_append.mp mem with mem | mem
  · exact isWordChar_of_areDigits isWhole c mem
  · rcases List.mem_cons.mp mem with rfl | mem
    · decide
    · rcases List.mem_append.mp mem with mem | mem
      · exact isWordChar_of_areDigits isFraction c mem
      · exact word c mem

/-- The digits of an exponent, filled up to two. -/
theorem exponent_digits (n : Nat) :
    ∃ chars : List Char,
      (if (toString n).length < 2 then "0" ++ toString n else toString n).toList = chars
        ∧ Token.areDigits chars = true ∧ Token.digitsValue chars = n := by
  have digits : (toString n).toList = Nat.toDigits 10 n := Nat.toList_repr
  refine ⟨_, rfl, ?_⟩
  split
  · have all : ∀ c ∈ '0' :: Nat.toDigits 10 n, c.isDigit = true := by
      intro c mem
      rcases List.mem_cons.mp mem with rfl | mem
      · decide
      · exact isDigit_of_mem_toDigits c mem
    have written : ("0" ++ toString n).toList = '0' :: Nat.toDigits 10 n := by
      rw [String.toList_append, digits]
      rfl
    rw [written]
    refine ⟨(Token.areDigits_iff _).mpr ⟨List.cons_ne_nil _ _, all⟩, ?_⟩
    rw [Token.digitsValue_eq all, Nat.ofDigitChars_cons]
    exact Nat.ofDigitChars_ten_toDigits
  · rw [digits]
    exact ⟨Token.areDigits_toDigits n, Token.digitsValue_toDigits n⟩

/-- The text of an exponent has the form of that exponent. -/
theorem exponentForm?_exponentText (exponent : Int) :
    Token.exponentForm? (exponentText exponent).toList = some exponent
      ∧ ∀ c ∈ (exponentText exponent).toList, Segment.isWordChar c = true := by
  obtain ⟨chars, same, digits, value⟩ := exponent_digits exponent.natAbs
  have word : ∀ sign, Segment.isWordChar sign = true →
      ∀ c ∈ ['e', sign] ++ chars, Segment.isWordChar c = true := by
    intro sign isWord c mem
    simp only [List.cons_append, List.nil_append, List.mem_cons] at mem
    rcases mem with rfl | rfl | mem
    · decide
    · exact isWord
    · exact isWordChar_of_areDigits digits c mem
  have minus : "e-".toList = ['e', '-'] := rfl
  have plus : "e+".toList = ['e', '+'] := rfl
  unfold exponentText
  simp only [String.toList_append, same]
  split
  · have form : Token.exponentForm? ('e' :: '-' :: chars) = some exponent := by
      simp only [Token.exponentForm?, digits, if_true, value, Option.some.injEq]
      omega
    rw [minus]
    exact ⟨form, word '-' (by decide)⟩
  · have form : Token.exponentForm? ('e' :: '+' :: chars) = some exponent := by
      simp only [Token.exponentForm?, digits, if_true, value, Option.some.injEq]
      omega
    rw [plus]
    exact ⟨form, word '+' (by decide)⟩

section Layout

variable (digits : Nat)

/-- A decimal with an exponent is written as that decimal. -/
theorem written_mantissa (exponent : Int) :
    Written (mantissaText (Nat.toDigits 10 digits) ++ exponentText exponent).toList
      (Decimal.magnitude ⟨digits, exponent⟩) := by
  obtain ⟨form, word⟩ := exponentForm?_exponentText exponent
  have all := Token.areDigits_toDigits digits
  have value : Nat.ofDigitChars 10 (Nat.toDigits 10 digits) 0 = digits :=
    Nat.ofDigitChars_ten_toDigits
  simp only [Decimal.magnitude, Decimal.position, decimalLength_eq]
  generalize Nat.toDigits 10 digits = chars at all value ⊢
  obtain ⟨nonempty, isDigit⟩ := (Token.areDigits_iff chars).mp all
  cases chars with
  | nil => exact absurd rfl nonempty
  | cons d rest =>
    have first : Token.areDigits [d] = true :=
      (Token.areDigits_iff [d]).mpr ⟨List.cons_ne_nil _ _, by simpa using isDigit d (by simp)⟩
    cases rest with
    | nil =>
      -- a digit by itself gets a zero after the point
      have text : (mantissaText [d] ++ exponentText exponent).toList
          = [d] ++ '.' :: (['0'] ++ (exponentText exponent).toList) := by
        rw [String.toList_append, mantissaText, String.toList_ofList]
        rfl
      rw [text]
      refine Written.of_parts first (by decide) form word ?_
      have appended : Nat.ofDigitChars 10 ['0'] digits = 10 * digits := by
        rw [Nat.ofDigitChars_cons, Nat.ofDigitChars_nil]
        rfl
      have one : exponent - ([d].length : Int) + 1 = exponent := by
        simp only [List.length_cons, List.length_nil]
        omega
      rw [Nat.ofDigitChars_append, value, appended, one]
      exact decimalMagnitude_mul_ten digits exponent
    | cons e others =>
      have others' : Token.areDigits (e :: others) = true :=
        (Token.areDigits_iff _).mpr ⟨List.cons_ne_nil _ _,
          fun c mem => isDigit c (List.mem_cons_of_mem d mem)⟩
      have text : (mantissaText (d :: e :: others) ++ exponentText exponent).toList
          = [d] ++ '.' :: ((e :: others) ++ (exponentText exponent).toList) := by
        rw [String.toList_append, mantissaText, String.toList_ofList]
        · rfl
        · simp
      rw [text]
      refine Written.of_parts first others' form word ?_
      have joined : [d] ++ e :: others = d :: e :: others := rfl
      rw [joined, value]
      congr 1
      simp only [List.length_cons]
      omega

/-- A decimal below one is written with zeros before its digits. -/
theorem written_below_one {exponent : Int} (below : exponent < 0) :
    Written (positionalText (Nat.toDigits 10 digits) exponent).toList
      (Decimal.magnitude ⟨digits, exponent⟩) := by
  have isFraction : Token.areDigits
      (List.replicate (exponent.natAbs - 1) '0' ++ Nat.toDigits 10 digits) = true :=
    (Token.areDigits_iff _).mpr
      ⟨List.append_ne_nil_of_right_ne_nil _ Nat.toDigits_ne_nil, isDigit_of_mem_zeros⟩
  have text : (positionalText (Nat.toDigits 10 digits) exponent).toList
      = ['0'] ++ '.' :: ((List.replicate (exponent.natAbs - 1) '0' ++ Nat.toDigits 10 digits)
          ++ []) := by
    simp only [positionalText, below, if_true, String.toList_append, String.toList_ofList,
      List.append_nil]
    rfl
  rw [text]
  refine Written.of_parts (by decide) isFraction rfl (by simp) ?_
  simp only [Decimal.magnitude, Decimal.position, decimalLength_eq]
  have zero : Nat.ofDigitChars 10 ['0'] 0 = 0 := rfl
  rw [Nat.ofDigitChars_append, zero, Nat.ofDigitChars_append, Nat.ofDigitChars_replicate_zero,
    Nat.mul_zero, Nat.ofDigitChars_ten_toDigits]
  congr 1
  simp only [List.length_append, List.length_replicate]
  omega

theorem positionalText_from_one {exponent : Int} (fromOne : ¬exponent < 0) (chars : List Char) :
    positionalText chars exponent
      = String.ofList ((chars ++ List.replicate (exponent.toNat + 1 - chars.length) '0').take
            (exponent.toNat + 1))
          ++ "." ++ (if (chars.drop (exponent.toNat + 1)).isEmpty then "0"
            else String.ofList (chars.drop (exponent.toNat + 1))) := by
  simp only [positionalText, fromOne, if_false]

/-- A decimal with all its digits before the point is written with zeros after them. -/
theorem written_whole {exponent : Int} (fromOne : ¬exponent < 0)
    (short : (Nat.toDigits 10 digits).length ≤ exponent.toNat + 1) :
    Written (positionalText (Nat.toDigits 10 digits) exponent).toList
      (Decimal.magnitude ⟨digits, exponent⟩) := by
  obtain ⟨nonempty, isDigit⟩ := (Token.areDigits_iff _).mp (Token.areDigits_toDigits digits)
  have value : Nat.ofDigitChars 10 (Nat.toDigits 10 digits) 0 = digits :=
    Nat.ofDigitChars_ten_toDigits
  rw [positionalText_from_one fromOne]
  simp only [Decimal.magnitude, Decimal.position, decimalLength_eq]
  generalize Nat.toDigits 10 digits = chars at nonempty isDigit value short ⊢
  obtain ⟨zeros, zerosEq⟩ : ∃ zeros : Nat, zeros = exponent.toNat + 1 - chars.length := ⟨_, rfl⟩
  rw [← zerosEq]
  have before : (chars ++ List.replicate zeros '0').take (exponent.toNat + 1)
      = chars ++ List.replicate zeros '0' := by
    apply List.take_of_length_le
    simp only [List.length_append, List.length_replicate]
    omega
  have after : chars.drop (exponent.toNat + 1) = [] := List.drop_of_length_le short
  have isWhole : Token.areDigits (chars ++ List.replicate zeros '0') = true := by
    refine (Token.areDigits_iff _).mpr ⟨List.append_ne_nil_of_left_ne_nil nonempty _, ?_⟩
    intro c mem
    rcases List.mem_append.mp mem with mem | mem
    · exact isDigit c mem
    · rw [(List.mem_replicate.mp mem).2]
      decide
  have text : (String.ofList (chars ++ List.replicate zeros '0') ++ "."
        ++ (if ([] : List Char).isEmpty then "0" else String.ofList [])).toList
      = (chars ++ List.replicate zeros '0') ++ '.' :: (['0'] ++ []) := by
    simp only [String.toList_append, String.toList_ofList, List.isEmpty_nil, if_true,
      List.append_assoc]
    rfl
  rw [before, after, text]
  refine Written.of_parts isWhole (by decide) rfl (by simp) ?_
  have shifted := decimalMagnitude_shift (zeros + 1) digits (exponent - chars.length + 1)
  have last : Nat.ofDigitChars 10 ['0'] (10 ^ zeros * digits) = 10 ^ (zeros + 1) * digits := by
    rw [Nat.ofDigitChars_cons, Nat.ofDigitChars_nil, Nat.pow_succ', Nat.mul_assoc]
    rfl
  rw [Nat.ofDigitChars_append, Nat.ofDigitChars_append, value, Nat.ofDigitChars_replicate_zero,
    last, ← shifted]
  congr 1
  simp only [List.length_cons, List.length_nil]
  omega

/-- A decimal with digits on both sides of the point is written with the point between them. -/
theorem written_between {exponent : Int} (fromOne : ¬exponent < 0)
    (long : exponent.toNat + 1 < (Nat.toDigits 10 digits).length) :
    Written (positionalText (Nat.toDigits 10 digits) exponent).toList
      (Decimal.magnitude ⟨digits, exponent⟩) := by
  have isDigit : ∀ c ∈ Nat.toDigits 10 digits, c.isDigit = true := isDigit_of_mem_toDigits
  have value : Nat.ofDigitChars 10 (Nat.toDigits 10 digits) 0 = digits :=
    Nat.ofDigitChars_ten_toDigits
  rw [positionalText_from_one fromOne]
  simp only [Decimal.magnitude, Decimal.position, decimalLength_eq]
  generalize Nat.toDigits 10 digits = chars at isDigit value long ⊢
  obtain ⟨whole, wholeEq⟩ : ∃ whole : Nat, whole = exponent.toNat + 1 := ⟨_, rfl⟩
  rw [← wholeEq] at long ⊢
  have before : (chars ++ List.replicate (whole - chars.length) '0').take whole
      = chars.take whole := by
    rw [List.take_append_of_le_length (by omega)]
  have isWhole : Token.areDigits (chars.take whole) = true := by
    refine (Token.areDigits_iff _).mpr ⟨?_, fun c mem => isDigit c (List.mem_of_mem_take mem)⟩
    apply List.ne_nil_of_length_pos
    rw [List.length_take]
    omega
  have isFraction : Token.areDigits (chars.drop whole) = true := by
    refine (Token.areDigits_iff _).mpr ⟨?_, fun c mem => isDigit c (List.mem_of_mem_drop mem)⟩
    apply List.ne_nil_of_length_pos
    rw [List.length_drop]
    omega
  have after : (chars.drop whole).isEmpty = false :=
    List.isEmpty_eq_false_iff.mpr ((Token.areDigits_iff _).mp isFraction).1
  have text : (String.ofList (chars.take whole) ++ "."
        ++ (if (chars.drop whole).isEmpty then "0" else String.ofList (chars.drop whole))).toList
      = chars.take whole ++ '.' :: (chars.drop whole ++ []) := by
    simp only [after, Bool.false_eq_true, if_false, String.toList_append, String.toList_ofList,
      List.append_assoc, List.append_nil]
    rfl
  rw [before, text]
  refine Written.of_parts isWhole isFraction rfl (by simp) ?_
  rw [List.take_append_drop, value]
  congr 1
  simp only [List.length_drop]
  omega

end Layout

/-- The text of a finite magnitude is a word that is nearest to it. -/
theorem written_magnitudeText {magnitude : Nat} (finite : magnitude < infiniteMagnitude) :
    Written (magnitudeText magnitude).toList magnitude := by
  unfold magnitudeText
  split
  · rename_i zero
    have text : "0.0".toList = ['0'] ++ '.' :: (['0'] ++ []) := rfl
    rw [text, zero]
    refine Written.of_parts (by decide) (by decide) rfl (by simp) ?_
    exact decimalMagnitude_zero _
  · rename_i nonzero
    have reads := magnitude_shortest (Nat.pos_of_ne_zero nonzero) finite
    generalize shortest magnitude = decimal at reads ⊢
    obtain ⟨digits, exponent⟩ := decimal
    have characters : (toString digits).toList = Nat.toDigits 10 digits := Nat.toList_repr
    simp only [characters]
    rw [← reads]
    split
    · exact written_mantissa digits exponent
    · by_cases below : exponent < 0
      · exact written_below_one digits below
      · rcases Nat.lt_or_ge (exponent.toNat + 1) (Nat.toDigits 10 digits).length with long | short
        · exact written_between digits below long
        · exact written_whole digits below short

/-- A number is its sign and its magnitude. -/
theorem ofMagnitude_magnitude (x : Binary64) : ofMagnitude x.isNegative x.magnitude = x := by
  have bound := x.bits.toNat_lt
  have same : (if x.isNegative = true then signWeight + x.magnitude else x.magnitude)
      = x.bits.toNat := by
    have weight : 2 ^ 64 = 2 * signWeight := rfl
    simp only [isNegative, magnitude, decide_eq_true_eq]
    split
    · rename_i negative
      rw [Nat.mod_eq_sub_mod negative, Nat.mod_eq_of_lt (by omega)]
      omega
    · rename_i positive
      exact Nat.mod_eq_of_lt (Nat.not_le.mp positive)
  unfold ofMagnitude
  rw [same, UInt64.ofNat_toNat]

theorem not_isNaN {x : Binary64} (finite : x.isFinite = true) : x.isNaN = false := by
  simp only [isFinite, isNaN, decide_eq_true_eq, decide_eq_false_iff_not] at finite ⊢
  omega

end Binary64

namespace Token

/-- Every finite number is read back from its text, bit for bit. -/
theorem legible_float {x : Binary64} (finite : x.isFinite = true) : (Token.float x).Legible := by
  have small : x.magnitude < Binary64.infiniteMagnitude := by
    simpa only [Binary64.isFinite, decide_eq_true_eq] using finite
  have written := Binary64.written_magnitudeText small
  have text : x.text.toList
      = signChars x.isNegative ++ (Binary64.magnitudeText x.magnitude).toList := by
    simp only [Binary64.text, Binary64.not_isNaN finite, finite, if_true, Bool.false_eq_true,
      if_false, String.toList_append]
    congr 1
    cases x.isNegative <;> rfl
  obtain ⟨⟨whole, fraction, tail, exponent, parts, isWhole, isFraction, form, value⟩, word⟩ :=
    written
  have nearest : Binary64.ofDecimal x.isNegative (Nat.ofDigitChars 10 (whole ++ fraction) 0)
      (exponent - fraction.length) = x := by
    unfold Binary64.ofDecimal
    rw [value, Binary64.ofMagnitude_magnitude]
  constructor
  · simp only [segment, Segment.Clean]
    rw [text]
    constructor
    · rw [parts]
      simp
    · intro c mem
      rcases List.mem_append.mp mem with mem | mem
      · simp only [signChars] at mem
        split at mem
        · rw [List.mem_singleton.mp mem]
          decide
        · cases mem
      · exact word c mem
  · simp only [segment, ofSegment]
    rw [text, parts]
    exact ofWord_fraction isWhole isFraction form nearest finite

end Token

end Annals
