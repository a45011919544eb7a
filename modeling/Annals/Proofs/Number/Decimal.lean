import Mathlib.Algebra.Order.Group.Nat
import Annals.Proofs.Number.Digits

/-!
# The value of a decimal

`Binary64.decimalMagnitude` depends on a decimal only through its value: moving a zero from the
power of ten to the digits changes nothing. From that, the shortest decimal of a number reads
back as that number.

* `Binary64.decimalMagnitude_shift` moves zeros.
* `Binary64.decimalMagnitude_units` is the decimal of last resort, which is exact.
* `Binary64.shortest_magnitude` is the result.
-/

set_option autoImplicit false

namespace Annals

/-- Rounding a quotient does not depend on a common factor. -/
theorem roundHalfEven_mul {k : Nat} (pos : 0 < k) (n d : Nat) :
    roundHalfEven (k * n) (k * d) = roundHalfEven n d := by
  unfold roundHalfEven
  have below : 2 * (k * (n % d)) < k * d ↔ 2 * (n % d) < d := by
    rw [Nat.mul_left_comm]
    exact Nat.mul_lt_mul_left pos
  have above : k * d < 2 * (k * (n % d)) ↔ d < 2 * (n % d) := by
    rw [Nat.mul_left_comm]
    exact Nat.mul_lt_mul_left pos
  simp only [Nat.mul_div_mul_left _ _ pos, Nat.mul_mod_mul_left, below, above]

theorem roundHalfEven_mul_self {d : Nat} (pos : 0 < d) (n : Nat) :
    roundHalfEven (n * d) d = n := by
  unfold roundHalfEven
  simp only [Nat.mul_div_cancel n pos, Nat.mul_mod_left, Nat.mul_zero, pos, if_true]

namespace Binary64

theorem roundMagnitude_mul {k : Nat} (pos : 0 < k) (n d : Nat) :
    roundMagnitude (k * n) (k * d) = roundMagnitude n d := by
  unfold roundMagnitude
  simp only [Nat.mul_assoc, Nat.mul_div_mul_left _ _ pos, roundHalfEven_mul pos]

theorem decimalLength_mul_ten {n : Nat} (pos : 0 < n) :
    decimalLength (10 * n) = decimalLength n + 1 := by
  conv_lhs => unfold decimalLength
  have big : ¬10 * n < 10 := by omega
  simp only [big, if_false, Nat.mul_div_cancel_left n (by decide : 0 < 10)]

theorem decimalMagnitude_zero (exponent : Int) : decimalMagnitude 0 exponent = 0 := by
  unfold decimalMagnitude
  simp only [if_true]

/-- A zero may be moved from the power of ten to the digits. -/
theorem decimalMagnitude_mul_ten (digits : Nat) (exponent : Int) :
    decimalMagnitude (10 * digits) (exponent - 1) = decimalMagnitude digits exponent := by
  rcases Nat.eq_zero_or_pos digits with rfl | pos
  · rw [Nat.mul_zero, decimalMagnitude_zero, decimalMagnitude_zero]
  · have top : ((decimalLength (10 * digits) : Nat) : Int) + (exponent - 1)
        = (decimalLength digits : Int) + exponent := by
      rw [decimalLength_mul_ten pos]
      omega
    have nonzero : ¬10 * digits = 0 := by omega
    have nonzero' : ¬digits = 0 := by omega
    simp only [decimalMagnitude, top, nonzero, nonzero', if_false]
    -- the powers of ten on both sides of the point are different cases of the definition
    by_cases negative : exponent < 0
    · have natAbs : (exponent - 1).natAbs = exponent.natAbs + 1 := by omega
      have lower : exponent - 1 < 0 := by omega
      have power : Nat.pow 10 (exponent.natAbs + 1) = 10 * Nat.pow 10 exponent.natAbs :=
        Nat.pow_succ'
      simp only [negative, lower, if_true, natAbs, power, roundMagnitude_mul (by decide : 0 < 10)]
    · rcases Int.lt_or_eq_of_le (Int.not_lt.mp negative) with positive | zero
      · have lower : ¬exponent - 1 < 0 := by omega
        have toNat : exponent.toNat = (exponent - 1).toNat + 1 := by omega
        have power : Nat.pow 10 ((exponent - 1).toNat + 1) = 10 * Nat.pow 10 (exponent - 1).toNat :=
          Nat.pow_succ'
        simp only [negative, lower, if_false, toNat, power]
        rw [Nat.mul_assoc, Nat.mul_left_comm]
      · subst zero
        have one : roundMagnitude (10 * digits) (10 * 1) = roundMagnitude digits 1 :=
          roundMagnitude_mul (by decide) digits 1
        have lower : (0 : Int) - 1 < 0 := by decide
        have unit : digits * Nat.pow 10 (0 : Int).toNat = digits := Nat.mul_one digits
        have ten : Nat.pow 10 ((0 : Int) - 1).natAbs = 10 * 1 := rfl
        simp only [lower, if_true, negative, if_false, unit, ten, one]

/-- Zeros may be moved from the power of ten to the digits. -/
theorem decimalMagnitude_shift (count digits : Nat) (exponent : Int) :
    decimalMagnitude (10 ^ count * digits) (exponent - count)
      = decimalMagnitude digits exponent := by
  induction count with
  | zero => simp
  | succ count ih =>
    have factor : 10 ^ (count + 1) * digits = 10 * (10 ^ count * digits) := by
      rw [Nat.pow_succ', Nat.mul_assoc]
    have position : exponent - ((count + 1 : Nat) : Int) = exponent - count - 1 := by omega
    rw [factor, position, decimalMagnitude_mul_ten, ih]

theorem decimalLength_shift (count : Nat) {digits : Nat} (pos : 0 < digits) :
    decimalLength (10 ^ count * digits) = decimalLength digits + count := by
  induction count with
  | zero => simp
  | succ count ih =>
    have factor : 10 ^ (count + 1) * digits = 10 * (10 ^ count * digits) := by
      rw [Nat.pow_succ', Nat.mul_assoc]
    rw [factor, decimalLength_mul_ten (Nat.mul_pos (Nat.pow_pos (by decide)) pos), ih]
    omega

/-- Trimming removes nothing but zeros. -/
theorem trimZeros_spec (fuel digits : Nat) :
    ∃ count : Nat, digits = 10 ^ count * trimZeros fuel digits := by
  induction fuel generalizing digits with
  | zero => exact ⟨0, by simp [trimZeros]⟩
  | succ fuel ih =>
    unfold trimZeros
    split
    · rename_i trailing
      obtain ⟨count, same⟩ := ih (digits / 10)
      refine ⟨count + 1, ?_⟩
      rw [Nat.pow_succ', Nat.mul_assoc, ← same]
      omega
    · exact ⟨0, by simp⟩

end Binary64

namespace Decimal

/-- The power of ten that belongs to the last digit. -/
def position (d : Decimal) : Int :=
  d.exponent - (Binary64.decimalLength d.digits : Int) + 1

/-- The magnitude that a decimal is read as. -/
def magnitude (d : Decimal) : Nat :=
  Binary64.decimalMagnitude d.digits d.position

end Decimal

namespace Binary64

/-- The normal form of a decimal is read as that decimal. -/
theorem magnitude_normalDecimal (digits : Nat) (position : Int) :
    (normalDecimal digits position).magnitude = decimalMagnitude digits position := by
  obtain ⟨count, same⟩ := trimZeros_spec (decimalLength digits) digits
  simp only [normalDecimal, Decimal.magnitude, Decimal.position]
  rcases Nat.eq_zero_or_pos (trimZeros (decimalLength digits) digits) with zero | pos
  · have none : digits = 0 := by rw [same, zero, Nat.mul_zero]
    rw [zero, none, decimalMagnitude_zero, decimalMagnitude_zero]
  · have length : decimalLength digits
        = decimalLength (trimZeros (decimalLength digits) digits) + count := by
      conv_lhs => rw [same]
      exact decimalLength_shift count pos
    have last : (decimalLength digits : Int) - 1 + position
        - (decimalLength (trimZeros (decimalLength digits) digits) : Int) + 1
        = position + count := by omega
    have moved := decimalMagnitude_shift count (trimZeros (decimalLength digits) digits)
      (position + count)
    rw [last, ← moved, ← same]
    congr 1
    omega

/-- What is found on a grid reads back. -/
theorem decimalMagnitude_of_readsBackWith {magnitude count : Nat} {exponent : Int} {digits : Nat}
    {position : Int} (found : readsBackWith magnitude exponent count = some (digits, position)) :
    decimalMagnitude digits position = magnitude := by
  unfold readsBackWith at found
  simp only at found
  split at found
  · rename_i low
    cases found
    exact eq_of_beq (Bool.and_eq_true_iff.mp low).1
  · split at found
    · rename_i high
      cases found
      exact eq_of_beq high
    · cases found

theorem pow_pos' {b : Nat} (pos : 0 < b) (exponent : Nat) : 0 < Nat.pow b exponent :=
  Nat.pow_pos pos

theorem unitsOf_normal {magnitude : Nat} (normal : magnitude / exponentStep ≠ 0) :
    unitsOf magnitude = (exponentStep + magnitude % exponentStep)
      * Nat.pow 2 (magnitude / exponentStep - 1) := by
  simp only [unitsOf, normal, if_false]

theorem unitsOf_subnormal {magnitude : Nat} (subnormal : magnitude / exponentStep = 0) :
    unitsOf magnitude = magnitude := by
  have small : magnitude % exponentStep = magnitude :=
    Nat.mod_eq_of_lt (Nat.lt_of_div_eq_zero (by decide) subnormal)
  simp only [unitsOf, subnormal, if_true, small]

theorem unitsOf_pos {magnitude : Nat} (pos : 0 < magnitude) : 0 < unitsOf magnitude := by
  by_cases subnormal : magnitude / exponentStep = 0
  · rw [unitsOf_subnormal subnormal]
    exact pos
  · rw [unitsOf_normal subnormal]
    exact Nat.mul_pos (Nat.add_pos_left (by decide) _) (pow_pos' (by decide) _)

theorem unitsOf_lt {magnitude : Nat} (top : Nat) (exponent : magnitude / exponentStep - 1 ≤ top) :
    unitsOf magnitude < Nat.pow 2 53 * Nat.pow 2 top := by
  have low := Nat.mod_lt magnitude (by decide : 0 < exponentStep)
  have power : Nat.pow 2 (magnitude / exponentStep - 1) ≤ Nat.pow 2 top :=
    Nat.pow_le_pow_right (by decide) exponent
  by_cases subnormal : magnitude / exponentStep = 0
  · rw [unitsOf_subnormal subnormal]
    have small : magnitude < exponentStep := Nat.lt_of_div_eq_zero (by decide) subnormal
    calc magnitude < exponentStep := small
      _ ≤ Nat.pow 2 53 := by decide
      _ ≤ Nat.pow 2 53 * Nat.pow 2 top := Nat.le_mul_of_pos_right _ (pow_pos' (by decide) top)
  · rw [unitsOf_normal subnormal]
    have fraction : exponentStep + magnitude % exponentStep < Nat.pow 2 53 := by
      have weight : exponentStep + exponentStep = Nat.pow 2 53 := by decide
      omega
    exact Nat.mul_lt_mul_of_lt_of_le fraction power (pow_pos' (by decide) _)

/-- The exponent that rounding chooses for the units of a magnitude. -/
theorem log2_unitsOf (magnitude : Nat) :
    (unitsOf magnitude).log2 - 52 = magnitude / exponentStep - 1 := by
  by_cases subnormal : magnitude / exponentStep = 0
  · rw [unitsOf_subnormal subnormal, subnormal]
    have small : magnitude < exponentStep := Nat.lt_of_div_eq_zero (by decide) subnormal
    by_cases zero : magnitude = 0
    · rw [zero]
      rfl
    · have short : magnitude.log2 < 52 := (Nat.log2_lt zero).mpr small
      omega
  · rw [unitsOf_normal subnormal]
    have low := Nat.mod_lt magnitude (by decide : 0 < exponentStep)
    have length : ((exponentStep + magnitude % exponentStep)
        * Nat.pow 2 (magnitude / exponentStep - 1)).log2
          = 52 + (magnitude / exponentStep - 1) := by
      have power := pow_pos' (by decide : 0 < 2) (magnitude / exponentStep - 1)
      refine (Nat.log2_eq_iff ?_).mpr ⟨?_, ?_⟩
      · exact Nat.mul_ne_zero (by simp only [exponentStep]; omega) (Nat.ne_of_gt power)
      · rw [Nat.pow_add]
        exact Nat.mul_le_mul_right _ (Nat.le_add_right exponentStep _)
      · have succ : 52 + (magnitude / exponentStep - 1) + 1
            = 53 + (magnitude / exponentStep - 1) := by omega
        rw [succ, Nat.pow_add]
        refine Nat.mul_lt_mul_of_pos_right ?_ power
        simp only [exponentStep] at low ⊢
        omega
    rw [length]
    omega

/-- The units of a finite magnitude, divided by the units of one, are rounded to that magnitude. -/
theorem roundMagnitude_unitsOf {magnitude places : Nat} (finite : magnitude < infiniteMagnitude)
    (all : places = 1074) : roundMagnitude (unitsOf magnitude) (Nat.pow 2 places) = magnitude := by
  have one := pow_pos' (b := 2) (by decide) places
  have rounded : (magnitude / exponentStep - 1) * exponentStep
      + roundHalfEven (unitsOf magnitude) (Nat.pow 2 (magnitude / exponentStep - 1))
        = magnitude := by
    by_cases subnormal : magnitude / exponentStep = 0
    · have exact := roundHalfEven_mul_self (by decide : 0 < 1) magnitude
      rw [Nat.mul_one] at exact
      rw [unitsOf_subnormal subnormal, subnormal]
      change 0 * exponentStep + roundHalfEven magnitude 1 = magnitude
      rw [exact]
      omega
    · rw [unitsOf_normal subnormal, roundHalfEven_mul_self (pow_pos' (by decide) _)]
      simp only [exponentStep] at subnormal ⊢
      omega
  unfold roundMagnitude
  simp only
  rw [← all, Nat.mul_div_cancel _ one, log2_unitsOf, Nat.mul_comm (unitsOf magnitude),
    roundHalfEven_mul one, rounded]
  exact Nat.min_eq_left (Nat.le_of_lt finite)

/-- A quotient of powers of ten may be taken as one of powers of two. -/
theorem roundMagnitude_mul_five (n k : Nat) :
    roundMagnitude (n * Nat.pow 5 k) (Nat.pow 10 k) = roundMagnitude n (Nat.pow 2 k) := by
  have ten : Nat.pow 10 k = Nat.pow 5 k * Nat.pow 2 k := Nat.mul_pow 5 2 k
  rw [ten, Nat.mul_comm n]
  exact roundMagnitude_mul (pow_pos' (by decide) k) n (Nat.pow 2 k)

/-- A decimal that is not out of range by its length is rounded. -/
theorem decimalMagnitude_eq_round {digits places : Nat} (nonzero : 0 < digits)
    (negative : 0 < places) (short : decimalLength digits ≤ places + 310)
    (long : places ≤ decimalLength digits + 330) :
    decimalMagnitude digits (-(places : Int)) = roundMagnitude digits (Nat.pow 10 places) := by
  have notZero : ¬digits = 0 := by omega
  have notLarge : ¬310 < (decimalLength digits : Int) + -(places : Int) := by omega
  have notSmall : ¬(decimalLength digits : Int) + -(places : Int) < -330 := by omega
  have below : -(places : Int) < 0 := by omega
  simp only [decimalMagnitude, notZero, notLarge, notSmall, below, if_false, if_true,
    Int.natAbs_neg, Int.natAbs_natCast]

/-- A decimal with many places and about as many digits is rounded. -/
theorem decimalMagnitude_scaled {units a b : Nat} (factor places : Nat) (pos : 0 < units)
    (below : units < a * b) (far : 331 < places) (enough : Nat.pow 10 (places - 331) ≤ factor)
    (bound : a * b * factor < Nat.pow 10 (places + 310)) :
    decimalMagnitude (units * factor) (-(places : Int))
      = roundMagnitude (units * factor) (Nat.pow 10 places) := by
  have factorPos : 0 < factor := Nat.lt_of_lt_of_le (pow_pos' (by decide) _) enough
  have short : decimalLength (units * factor) ≤ places + 310 := by
    rw [decimalLength_le_iff (by omega)]
    exact Nat.lt_trans (Nat.mul_lt_mul_of_pos_right below factorPos) bound
  have long : ¬decimalLength (units * factor) ≤ places - 331 := by
    rw [decimalLength_le_iff (by omega)]
    exact Nat.not_lt.mpr (Nat.le_trans enough (Nat.le_mul_of_pos_left factor pos))
  exact decimalMagnitude_eq_round (Nat.mul_pos pos factorPos) (by omega) short (by omega)

/-- The exact decimal of a finite magnitude is read as that magnitude.

The number of places is a variable, so that its powers are not computed at every step. -/
theorem decimalMagnitude_units {magnitude places : Nat} (pos : 0 < magnitude)
    (finite : magnitude < infiniteMagnitude) (all : places = 1074) :
    decimalMagnitude (unitsOf magnitude * Nat.pow 5 places) (-(places : Int)) = magnitude := by
  have exponent : magnitude / exponentStep - 1 ≤ places + 971 := by
    simp only [exponentStep, infiniteMagnitude] at finite ⊢
    omega
  have enough : Nat.pow 10 (places - 331) ≤ Nat.pow 5 places := by
    rw [all]
    decide +kernel
  have bound : Nat.pow 2 53 * Nat.pow 2 (places + 971) * Nat.pow 5 places
      < Nat.pow 10 (places + 310) := by
    rw [all]
    decide +kernel
  have far : 331 < places := by omega
  rw [decimalMagnitude_scaled (Nat.pow 5 places) places (unitsOf_pos pos)
    (unitsOf_lt (places + 971) exponent) far enough bound, roundMagnitude_mul_five,
    roundMagnitude_unitsOf finite all]

/-- The shortest decimal is one that reads back, or else the exact one. -/
theorem shortest_cases (magnitude : Nat) :
    (∃ (digits : Nat) (position : Int), shortest magnitude = normalDecimal digits position
      ∧ decimalMagnitude digits position = magnitude)
      ∨ shortest magnitude = normalDecimal (unitsOf magnitude * Nat.pow 5 1074) (-1074) := by
  cases found : (List.range 17).findSome? fun n =>
      readsBackWith magnitude (decimalExponent (unitsOf magnitude)) (n + 1) with
  | none =>
    right
    simp only [shortest, found, Option.getD_none]
  | some decimal =>
    obtain ⟨digits, position⟩ := decimal
    obtain ⟨count, _, reads⟩ := List.exists_of_findSome?_eq_some found
    refine Or.inl ⟨digits, position, ?_, decimalMagnitude_of_readsBackWith reads⟩
    simp only [shortest, found, Option.getD_some]

/-- The shortest decimal of a positive finite magnitude is read as that magnitude. -/
theorem magnitude_shortest {magnitude : Nat} (pos : 0 < magnitude)
    (finite : magnitude < infiniteMagnitude) : (shortest magnitude).magnitude = magnitude := by
  obtain ⟨places, all⟩ : ∃ places : Nat, places = 1074 := ⟨1074, rfl⟩
  rcases shortest_cases magnitude with ⟨digits, position, same, reads⟩ | same
  · rw [same, magnitude_normalDecimal, reads]
  · rw [same, magnitude_normalDecimal]
    have last : (-1074 : Int) = -(places : Int) := by omega
    rw [last, ← all]
    exact decimalMagnitude_units pos finite all

end Binary64

end Annals
