import Mathlib.Data.String.Basic
import Mathlib.Order.Compare
import Annals.Value
import Annals.Proofs.Number.Rounding

/-!
# The order of values

Two integers are compared exactly, but an integer is rounded before it is compared with a number of
the other kind. So two integers can be in order although a number between them equals both. What
holds of all values is that the order is strict: rounding keeps the order of integers, so that what
is in order after rounding was in order before, and never the other way round.

* `Value.Below` is the order by its cases, and `Value.compare?_eq_lt_iff` says that it is the order.
* `Value.compare?_swap`, `Value.compare?_self_ne` and `Value.compare?_trans` are its laws.
* `Value.Comparable` tells which values compare at all, which is transitive although being equal is
  not. So what is less than one of two equal values is never greater than the other one.
* `Value.comparison_laws` puts them together.
-/

set_option autoImplicit false

namespace Annals

namespace Binary64

variable {x y z : Binary64}

theorem compare?_eq_lt_iff :
    x.compare? y = some .lt ↔ x.isNaN = false ∧ y.isNaN = false ∧ x.key < y.key := by
  unfold compare?
  split
  · rename_i nan
    rcases Bool.or_eq_true_iff.mp nan with nan | nan <;> simp [nan]
  · rename_i numbers
    rw [Bool.not_eq_true, Bool.or_eq_false_iff] at numbers
    simp [numbers, compare_lt_iff_lt]

theorem compare?_swap (x y : Binary64) : y.compare? x = (x.compare? y).map Ordering.swap := by
  unfold compare?
  rw [Bool.or_comm]
  split
  · rfl
  · exact congrArg some Std.OrientedCmp.eq_swap

end Binary64

namespace Instant

theorem order_swap (s t : Instant) : t.order s = (s.order t).swap := by
  unfold order
  rw [Ordering.swap_then, ← Std.OrientedCmp.eq_swap, ← Std.OrientedCmp.eq_swap]

theorem order_trans {s t u : Instant} (first : s.order t = .lt) (second : t.order u = .lt) :
    s.order u = .lt := by
  have lexical : ∀ a b : Instant,
      a.order b = compareLex (compareOn Instant.seconds) (compareOn Instant.nanos) a b :=
    fun _ _ => rfl
  rw [lexical] at first second ⊢
  exact Std.TransCmp.lt_trans first second

end Instant

namespace Value

variable {a b c : Value}

/-- One value comes before another one. Numbers of both kinds do so as well by what they are rounded
to; for two integers that is less than what the first case says. -/
inductive Below : Value → Value → Prop
  | ints {m n : Int64} (less : m.toInt < n.toInt) : Below (.int m) (.int n)
  | numbers {a b : Value} {x y : Binary64} (left : a.asFloat? = some x)
      (right : b.asFloat? = some y) (less : x.compare? y = some .lt) : Below a b
  | texts {s t : String} (less : s < t) : Below (.str s) (.str t)
  | times {s t : Instant} (less : s.order t = .lt) : Below (.time s) (.time t)

/-- Integers that are rounded to different numbers are in the order of these. -/
theorem toInt_lt_of_key {m n : Int64}
    (less : (Binary64.ofInt m.toInt).key < (Binary64.ofInt n.toInt).key) : m.toInt < n.toInt := by
  by_contra notLess
  exact absurd (Binary64.key_ofInt_mono (Int.not_lt.mp notLess)) (Int.not_le.mpr less)

/-- Numbers that are not both integers are compared by what they are rounded to. -/
theorem compare?_numbers {x y : Binary64} (left : a.asFloat? = some x) (right : b.asFloat? = some y)
    (notInts : ¬∃ m n, a = .int m ∧ b = .int n) : a.compare? b = x.compare? y := by
  cases a with
  | str s => cases left
  | time s => cases left
  | int m =>
    cases b with
    | int n => exact absurd ⟨m, n, rfl, rfl⟩ notInts
    | float y => cases left; cases right; rfl
    | str t => cases right
    | time t => cases right
  | float x =>
    cases b with
    | int n => cases left; cases right; rfl
    | float y => cases left; cases right; rfl
    | str t => cases right
    | time t => cases right

theorem compare?_eq_lt_iff : a.compare? b = some .lt ↔ a.Below b := by
  constructor
  · intro less
    cases a with
    | int m =>
      cases b with
      | int n => exact .ints (compare_lt_iff_lt.mp (Option.some.inj less))
      | float y => exact .numbers rfl rfl less
      | str t => cases less
      | time t => cases less
    | float x =>
      cases b with
      | int n => exact .numbers rfl rfl less
      | float y => exact .numbers rfl rfl less
      | str t => cases less
      | time t => cases less
    | str s =>
      cases b with
      | str t => exact .texts (compareOfLessAndEq_eq_lt.mp (Option.some.inj less))
      | int n => cases less
      | float y => cases less
      | time t => cases less
    | time s =>
      cases b with
      | time t => exact .times (Option.some.inj less)
      | int n => cases less
      | float y => cases less
      | str t => cases less
  · intro below
    cases below with
    | ints less => exact congrArg some (compare_lt_iff_lt.mpr less)
    | texts less => exact congrArg some (compareOfLessAndEq_eq_lt.mpr less)
    | times less => exact congrArg some less
    | numbers left right less =>
      by_cases ints : ∃ m n, a = .int m ∧ b = .int n
      · obtain ⟨m, n, rfl, rfl⟩ := ints
        cases left
        cases right
        have keys := (Binary64.compare?_eq_lt_iff.mp less).2.2
        exact congrArg some (compare_lt_iff_lt.mpr (toInt_lt_of_key keys))
      · rw [compare?_numbers left right ints]
        exact less

/-- Comparing the other way round gives the reverse. -/
theorem compare?_swap (a b : Value) : b.compare? a = (a.compare? b).map Ordering.swap := by
  cases a with
  | int m =>
    cases b with
    | int n => exact congrArg some Std.OrientedCmp.eq_swap
    | float y => exact Binary64.compare?_swap _ _
    | str t => rfl
    | time t => rfl
  | float x =>
    cases b with
    | int n => exact Binary64.compare?_swap _ _
    | float y => exact Binary64.compare?_swap _ _
    | str t => rfl
    | time t => rfl
  | str s =>
    cases b with
    | str t => exact congrArg some (Std.OrientedCmp.eq_swap : compare t s = (compare s t).swap)
    | int n => rfl
    | float y => rfl
    | time t => rfl
  | time s =>
    cases b with
    | time t => exact congrArg some (Instant.order_swap s t)
    | int n => rfl
    | float y => rfl
    | str t => rfl

theorem Below.trans (first : a.Below b) (second : b.Below c) : a.Below c := by
  cases first with
  | ints less =>
    cases second with
    | ints less' => exact .ints (Int.lt_trans less less')
    | numbers left right less' =>
      -- the lesser integer is not rounded to a greater number
      cases left
      obtain ⟨-, number, keys⟩ := Binary64.compare?_eq_lt_iff.mp less'
      have rounded := Binary64.key_ofInt_mono (Int.le_of_lt less)
      exact .numbers rfl right (Binary64.compare?_eq_lt_iff.mpr
        ⟨Binary64.isNaN_ofInt _, number, Int.lt_of_le_of_lt rounded keys⟩)
  | numbers left right less =>
    obtain ⟨number, -, keys⟩ := Binary64.compare?_eq_lt_iff.mp less
    cases second with
    | ints less' =>
      cases right
      have rounded := Binary64.key_ofInt_mono (Int.le_of_lt less')
      exact .numbers left rfl (Binary64.compare?_eq_lt_iff.mpr
        ⟨number, Binary64.isNaN_ofInt _, Int.lt_of_lt_of_le keys rounded⟩)
    | numbers left' right' less' =>
      obtain rfl := Option.some.inj (right.symm.trans left')
      obtain ⟨-, number', keys'⟩ := Binary64.compare?_eq_lt_iff.mp less'
      exact .numbers left right' (Binary64.compare?_eq_lt_iff.mpr
        ⟨number, number', Int.lt_trans keys keys'⟩)
    | texts less' => cases right
    | times less' => cases right
  | texts less =>
    cases second with
    | texts less' => exact .texts (lt_trans less less')
    | numbers left right less' => cases left
  | times less =>
    cases second with
    | times less' => exact .times (Instant.order_trans less less')
    | numbers left right less' => cases left

/-- A value that is compared with itself is not below or above it. -/
theorem compare?_self_ne {wanted : Ordering} (strict : wanted ≠ .eq) (v : Value) :
    v.compare? v ≠ some wanted := by
  intro ordered
  have swapped := v.compare?_swap v
  rw [ordered, Option.map_some, Option.some_inj] at swapped
  cases wanted with
  | lt => cases swapped
  | eq => exact strict rfl
  | gt => cases swapped

/-- Below and above are transitive, for numbers of both kinds too. -/
theorem compare?_trans {wanted : Ordering} (strict : wanted ≠ .eq)
    (first : a.compare? b = some wanted) (second : b.compare? c = some wanted) :
    a.compare? c = some wanted := by
  cases wanted with
  | lt =>
    exact compare?_eq_lt_iff.mpr
      ((compare?_eq_lt_iff.mp first).trans (compare?_eq_lt_iff.mp second))
  | eq => exact absurd rfl strict
  | gt =>
    have below : ∀ {v w : Value}, v.compare? w = some .gt → w.Below v := by
      intro v w above
      rw [← compare?_eq_lt_iff, compare?_swap v w, above]
      rfl
    have reversed := compare?_eq_lt_iff.mpr ((below second).trans (below first))
    rw [compare?_swap c a, reversed]
    rfl

/-! ### Values that compare at all -/

/-- Two numbers of any kinds, neither of which is NaN, or two texts, or two instants. -/
inductive Comparable : Value → Value → Prop
  | numbers {a b : Value} {x y : Binary64} (left : a.asFloat? = some x)
      (right : b.asFloat? = some y) (number : x.isNaN = false) (number' : y.isNaN = false) :
      Comparable a b
  | texts (s t : String) : Comparable (.str s) (.str t)
  | times (s t : Instant) : Comparable (.time s) (.time t)

theorem Comparable.trans (first : a.Comparable b) (second : b.Comparable c) : a.Comparable c := by
  cases first with
  | numbers left right number number' =>
    cases second with
    | numbers left' right' _ number'' => exact .numbers left right' number number''
    | texts s t => cases right
    | times s t => cases right
  | texts s t =>
    cases second with
    | texts _ u => exact .texts s u
    | numbers left _ _ _ => cases left
  | times s t =>
    cases second with
    | times _ u => exact .times s u
    | numbers left _ _ _ => cases left

theorem isSome_compare?_iff : (a.compare? b).isSome = true ↔ a.Comparable b := by
  constructor
  · intro compares
    by_cases numeric : ∃ x y, a.asFloat? = some x ∧ b.asFloat? = some y
    · obtain ⟨x, y, left, right⟩ := numeric
      by_cases ints : ∃ m n, a = .int m ∧ b = .int n
      · obtain ⟨m, n, rfl, rfl⟩ := ints
        exact .numbers rfl rfl (Binary64.isNaN_ofInt _) (Binary64.isNaN_ofInt _)
      · rw [compare?_numbers left right ints] at compares
        have numbers : ¬(x.isNaN || y.isNaN) = true := by
          intro nan
          simp [Binary64.compare?, nan] at compares
        simp only [Bool.or_eq_true, not_or, Bool.not_eq_true] at numbers
        exact .numbers left right numbers.1 numbers.2
    · -- of two values that are not both numbers, only those of one kind compare
      cases a <;> cases b <;> simp [compare?, asFloat?] at compares numeric
      · exact .texts _ _
      · exact .times _ _
  · intro comparable
    cases comparable with
    | texts s t => rfl
    | times s t => rfl
    | numbers left right number number' =>
      by_cases ints : ∃ m n, a = .int m ∧ b = .int n
      · obtain ⟨m, n, rfl, rfl⟩ := ints
        rfl
      · rw [compare?_numbers left right ints]
        simp [Binary64.compare?, number, number']

/-- What is less than one of two equal values is less than the other one or equals it. -/
theorem compare?_of_lt_of_eq (less : a.compare? b = some .lt) (equal : b.compare? c = some .eq) :
    a.compare? c = some .lt ∨ a.compare? c = some .eq := by
  have comparable : (a.compare? c).isSome = true := by
    apply isSome_compare?_iff.mpr
    apply Comparable.trans (b := b)
    · apply isSome_compare?_iff.mp
      rw [less]
      rfl
    · apply isSome_compare?_iff.mp
      rw [equal]
      rfl
  obtain ⟨order, compares⟩ := Option.isSome_iff_exists.mp comparable
  cases order with
  | lt => exact .inl compares
  | eq => exact .inr compares
  | gt =>
    -- then `c` is below `a`, which is below `b`, and yet `b` and `c` are equal
    have below : c.compare? a = some .lt := by
      rw [compare?_swap a c, compares]
      rfl
    have less := compare?_trans (by decide) below less
    rw [compare?_swap b c, equal] at less
    cases less

theorem looselyEquals_comm (a b : Value) : a.looselyEquals b = b.looselyEquals a := by
  have swapped : (a.compare? b == some .eq) = (b.compare? a == some .eq) := by
    rw [compare?_swap a b]
    cases a.compare? b with
    | none => rfl
    | some order => cases order <;> rfl
  cases a with
  | time s =>
    cases b with
    | time t => exact Bool.beq_comm
    | int n => exact swapped
    | float y => exact swapped
    | str t => exact swapped
  | int m => cases b <;> exact swapped
  | float x => cases b <;> exact swapped
  | str s => cases b <;> exact swapped

/-- The laws of comparison, for values of all kinds, NaN and the infinities included. What is less
comes first in the order `Value.Below`; to compare the other way round gives the reverse; less is
irreflexive and transitive, for integers and floating-point numbers side by side too; what is less
than one of two equal values is never greater than the other one, and always less or equal; and the
equality of a query is symmetric. -/
theorem comparison_laws (a b c : Value) :
    (a.compare? b = some .lt ↔ a.Below b) ∧
    b.compare? a = (a.compare? b).map Ordering.swap ∧
    a.compare? a ≠ some .lt ∧
    (a.compare? b = some .lt → b.compare? c = some .lt → a.compare? c = some .lt) ∧
    (a.compare? b = some .lt → b.compare? c = some .eq →
      a.compare? c = some .lt ∨ a.compare? c = some .eq) ∧
    a.looselyEquals b = b.looselyEquals a :=
  ⟨compare?_eq_lt_iff, compare?_swap a b, compare?_self_ne (by decide) a,
    compare?_trans (by decide), compare?_of_lt_of_eq, looselyEquals_comm a b⟩

/-- Of two integers that are rounded to the same number the lesser one is less than the greater one,
which equals the number, and the lesser one equals the number as well. -/
theorem comparison_laws_rounded :
    let a := int 9007199254740992
    let b := int 9007199254740993
    let x := float ⟨0x4340000000000000⟩
    let y := float ⟨0x4340000000000001⟩
    a.compare? b = some .lt ∧ b.compare? x = some .eq ∧ b.compare? y = some .lt ∧
      a.compare? y = some .lt ∧
      (a.compare? x = some .lt ∨ a.compare? x = some .eq) ∧ a.compare? x ≠ some .lt := by
  intro a b x y
  have less : a.compare? b = some .lt := by decide +kernel
  have equal : b.compare? x = some .eq := by decide +kernel
  have less' : b.compare? y = some .lt := by decide +kernel
  obtain ⟨-, -, -, transitive, -, -⟩ := comparison_laws a b y
  obtain ⟨-, -, -, -, upToEquality, -⟩ := comparison_laws a b x
  exact ⟨less, equal, less', transitive less less', upToEquality less equal, by decide +kernel⟩

end Value

end Annals
