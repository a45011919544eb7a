import Mathlib.Algebra.Order.Group.Nat
import Annals.Proofs.Number.Decimal

/-!
# Rounding keeps the order

A number is rounded by choosing an exponent and rounding the digits above it. A larger number has
the same exponent and no smaller digits, or it has a larger exponent, whose least magnitude is no
smaller than the greatest one of the exponent below.

* `Binary64.roundMagnitude_mono` says so of quotients with one denominator.
* `Binary64.key_ofInt_mono` and `Binary64.isNaN_ofInt` are what comes of it for integers: the
  numbers that they are rounded to are in the same order, and never NaN.
-/

set_option autoImplicit false

namespace Annals

theorem div_le_roundHalfEven (n d : Nat) : n / d ≤ roundHalfEven n d := by
  unfold roundHalfEven
  dsimp only
  split_ifs <;> omega

theorem roundHalfEven_le (n d : Nat) : roundHalfEven n d ≤ n / d + 1 := by
  unfold roundHalfEven
  dsimp only
  split_ifs <;> omega

/-- A larger number is not rounded to a smaller one. -/
theorem roundHalfEven_mono {n m : Nat} (le : n ≤ m) (d : Nat) :
    roundHalfEven n d ≤ roundHalfEven m d := by
  have floors : n / d ≤ m / d := Nat.div_le_div_right le
  rcases Nat.lt_or_eq_of_le floors with below | same
  · calc roundHalfEven n d ≤ n / d + 1 := roundHalfEven_le n d
      _ ≤ m / d := below
      _ ≤ roundHalfEven m d := div_le_roundHalfEven m d
  · have rests : n % d ≤ m % d := by
      have first := Nat.div_add_mod n d
      have second := Nat.div_add_mod m d
      rw [same] at first
      omega
    unfold roundHalfEven
    dsimp only
    rw [same]
    split_ifs <;> omega

theorem log2_mono {n m : Nat} (le : n ≤ m) : n.log2 ≤ m.log2 := by
  by_cases zero : n = 0
  · rw [zero]
    exact Nat.zero_le _
  · have nonzero : m ≠ 0 := by omega
    exact (Nat.le_log2 nonzero).mpr (Nat.le_trans (Nat.log2_self_le zero) le)

namespace Binary64

/-- The pattern that rounding gives is no more than the least one of the exponent after the next. -/
theorem roundHalfEven_le_of_log2 (scaled d : Nat) :
    roundHalfEven scaled (d * Nat.pow 2 ((scaled / d).log2 - 52)) ≤ 2 * exponentStep := by
  have short : (scaled / d) / Nat.pow 2 ((scaled / d).log2 - 52) < 2 * exponentStep := by
    refine (Nat.div_lt_iff_lt_mul (pow_pos' (by decide) _)).mpr ?_
    have bound : scaled / d < 2 ^ ((scaled / d).log2 + 1) := Nat.lt_log2_self
    have power : 2 ^ ((scaled / d).log2 + 1) ≤ 2 ^ (53 + ((scaled / d).log2 - 52)) :=
      Nat.pow_le_pow_right (by decide) (by omega)
    have parts : 2 ^ (53 + ((scaled / d).log2 - 52))
        = 2 * exponentStep * Nat.pow 2 ((scaled / d).log2 - 52) := Nat.pow_add 2 53 _
    omega
  have rounded := roundHalfEven_le scaled (d * Nat.pow 2 ((scaled / d).log2 - 52))
  rw [← Nat.div_div_eq_div_mul] at rounded
  omega

/-- With an exponent above the least one, rounding gives no less than the least pattern of it. -/
theorem le_roundHalfEven_of_log2 {scaled d : Nat} (large : 52 < (scaled / d).log2) :
    exponentStep ≤ roundHalfEven scaled (d * Nat.pow 2 ((scaled / d).log2 - 52)) := by
  have nonzero : scaled / d ≠ 0 := by
    intro zero
    rw [zero] at large
    exact absurd large (by decide)
  have long : exponentStep ≤ (scaled / d) / Nat.pow 2 ((scaled / d).log2 - 52) := by
    refine (Nat.le_div_iff_mul_le (pow_pos' (by decide) _)).mpr ?_
    have parts : 2 ^ (52 + ((scaled / d).log2 - 52))
        = exponentStep * Nat.pow 2 ((scaled / d).log2 - 52) := Nat.pow_add 2 52 _
    rw [← parts, show 52 + ((scaled / d).log2 - 52) = (scaled / d).log2 by omega]
    exact Nat.log2_self_le nonzero
  have rounded := div_le_roundHalfEven scaled (d * Nat.pow 2 ((scaled / d).log2 - 52))
  rw [← Nat.div_div_eq_div_mul] at rounded
  omega

/-- Of two numbers of units the larger one has no smaller pattern. -/
theorem pattern_mono {low high : Nat} (le : low ≤ high) (d : Nat) :
    ((low / d).log2 - 52) * exponentStep
        + roundHalfEven low (d * Nat.pow 2 ((low / d).log2 - 52))
      ≤ ((high / d).log2 - 52) * exponentStep
        + roundHalfEven high (d * Nat.pow 2 ((high / d).log2 - 52)) := by
  have floors : low / d ≤ high / d := Nat.div_le_div_right le
  have exponents : (low / d).log2 - 52 ≤ (high / d).log2 - 52 :=
    Nat.sub_le_sub_right (log2_mono floors) 52
  rcases Nat.lt_or_eq_of_le exponents with below | same
  · have upper := roundHalfEven_le_of_log2 low d
    have lower := le_roundHalfEven_of_log2 (show 52 < (high / d).log2 by omega)
    have steps : ((low / d).log2 - 52 + 1) * exponentStep
        ≤ ((high / d).log2 - 52) * exponentStep := Nat.mul_le_mul_right _ below
    rw [Nat.add_mul] at steps
    omega
  · rw [same]
    exact Nat.add_le_add_left (roundHalfEven_mono le _) _

/-- Rounding keeps the order of quotients with one denominator. -/
theorem roundMagnitude_mono {n m : Nat} (le : n ≤ m) (d : Nat) :
    roundMagnitude n d ≤ roundMagnitude m d :=
  min_le_min_right _ (pattern_mono (Nat.mul_le_mul_right _ le) d)

theorem roundMagnitude_le (n d : Nat) : roundMagnitude n d ≤ infiniteMagnitude :=
  Nat.min_le_right _ _

section Signs

variable {negative : Bool} {magnitude : Nat}

/-- The pattern of a sign and a magnitude, which is at most that of infinity. -/
theorem toNat_ofMagnitude (le : magnitude ≤ infiniteMagnitude) :
    (ofMagnitude negative magnitude).bits.toNat
      = if negative then signWeight + magnitude else magnitude := by
  unfold ofMagnitude
  simp only [UInt64.toNat_ofNat']
  refine Nat.mod_eq_of_lt ?_
  simp only [infiniteMagnitude] at le
  simp only [signWeight]
  split <;> omega

theorem magnitude_ofMagnitude (le : magnitude ≤ infiniteMagnitude) :
    (ofMagnitude negative magnitude).magnitude = magnitude := by
  have small : magnitude < signWeight := Nat.lt_of_le_of_lt le (by decide)
  rw [Binary64.magnitude, toNat_ofMagnitude le]
  cases negative with
  | true => exact (Nat.add_mod_left _ _).trans (Nat.mod_eq_of_lt small)
  | false => exact Nat.mod_eq_of_lt small

theorem isNegative_ofMagnitude (le : magnitude ≤ infiniteMagnitude) :
    (ofMagnitude negative magnitude).isNegative = negative := by
  have small : magnitude < signWeight := Nat.lt_of_le_of_lt le (by decide)
  rw [isNegative, toNat_ofMagnitude le]
  cases negative with
  | true => exact decide_eq_true (Nat.le_add_right _ _)
  | false => exact decide_eq_false (Nat.not_le.mpr small)

theorem key_ofRatio (n d : Nat) :
    (ofRatio negative n d).key
      = if negative then -(roundMagnitude n d : Int) else roundMagnitude n d := by
  rw [key, ofRatio, magnitude_ofMagnitude (roundMagnitude_le n d),
    isNegative_ofMagnitude (roundMagnitude_le n d)]

end Signs

theorem isNaN_ofInt (i : Int) : (ofInt i).isNaN = false := by
  rw [isNaN, ofInt, ofRatio, magnitude_ofMagnitude (roundMagnitude_le _ _)]
  exact decide_eq_false (Nat.not_lt.mpr (roundMagnitude_le _ _))

/-- Of two integers the larger one is not rounded to a smaller number. -/
theorem key_ofInt_mono {i j : Int} (le : i ≤ j) : (ofInt i).key ≤ (ofInt j).key := by
  rw [ofInt, ofInt, key_ofRatio, key_ofRatio]
  by_cases negative : i < 0
  · by_cases negative' : j < 0
    · have magnitudes : roundMagnitude j.natAbs 1 ≤ roundMagnitude i.natAbs 1 :=
        roundMagnitude_mono (by omega) 1
      simp only [negative, negative', decide_true, if_true]
      omega
    · simp only [negative, negative', decide_true, decide_false, if_true, Bool.false_eq_true,
        if_false]
      omega
  · have positive : ¬j < 0 := by omega
    have magnitudes : roundMagnitude i.natAbs 1 ≤ roundMagnitude j.natAbs 1 :=
      roundMagnitude_mono (by omega) 1
    simp only [negative, positive, decide_false, Bool.false_eq_true, if_false]
    exact Int.ofNat_le.mpr magnitudes

end Binary64

end Annals
