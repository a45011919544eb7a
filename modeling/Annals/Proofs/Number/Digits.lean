import Mathlib.Algebra.Order.Group.Nat
import Annals.Number.Shortest
import Annals.Time.Instant

/-!
# Decimal digits

The digits of a natural number, and the number that digits write. What the library reads and
counts is what the standard library says about `Nat.toDigits` and `Nat.ofDigitChars`.
-/

set_option autoImplicit false

namespace Annals

/-- The value of digits after a number is that of the standard library. -/
theorem Instant.digitsValue?_eq {chars : List Char} (digits : ∀ c ∈ chars, c.isDigit = true)
    (value : Nat) : digitsValue? value chars = some (Nat.ofDigitChars 10 chars value) := by
  induction chars generalizing value with
  | nil =>
    rw [Nat.ofDigitChars_nil]
    rfl
  | cons c rest ih =>
    have here := digits c (by simp)
    simp only [digitsValue?, here, if_true]
    rw [ih (fun d mem => digits d (List.mem_cons_of_mem c mem)), Nat.ofDigitChars_cons,
      Nat.mul_comm value 10]

theorem isDigit_of_mem_toDigits {n : Nat} : ∀ c ∈ Nat.toDigits 10 n, c.isDigit = true := by
  intro c mem
  exact Nat.isDigit_of_mem_toDigits (by decide) (by decide) mem

theorem isDigit_of_mem_zeros {count n : Nat} :
    ∀ c ∈ List.replicate count '0' ++ Nat.toDigits 10 n, c.isDigit = true := by
  intro c mem
  rcases List.mem_append.mp mem with mem | mem
  · rw [(List.mem_replicate.mp mem).2]
    decide
  · exact isDigit_of_mem_toDigits c mem

theorem decimalLength_eq (n : Nat) : Binary64.decimalLength n = (Nat.toDigits 10 n).length := by
  induction n using Nat.strongRecOn with
  | ind n ih =>
    unfold Binary64.decimalLength
    rw [Nat.toDigits_eq_if (by decide)]
    split
    · rfl
    · rw [ih (n / 10) (by omega), List.length_append]
      rfl

theorem decimalLength_le_iff {n k : Nat} (pos : 0 < k) :
    Binary64.decimalLength n ≤ k ↔ n < Nat.pow 10 k := by
  rw [decimalLength_eq]
  exact Nat.length_toDigits_le_iff (by decide) pos

end Annals
