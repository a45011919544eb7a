import Annals.Fact.Name
import Annals.Proofs.Query.Words

/-!
# Names of properties in a query

A property is named in a query by a word of its own. That word begins with a letter or an
underscore, so that it is neither a number nor an instant, and is read as the symbol of that name.
-/

set_option autoImplicit false

namespace Annals

/-- The bounds of a range of characters bound the codes of the characters in it. -/
theorem toNat_bounds {low high : UInt32} {c : Char}
    (within : (decide (low ≤ c.val) && decide (c.val ≤ high)) = true) :
    low.toNat ≤ c.toNat ∧ c.toNat ≤ high.toNat := by
  obtain ⟨above, below⟩ := Bool.and_eq_true_iff.mp within
  exact ⟨UInt32.le_iff_toNat_le.mp (of_decide_eq_true above),
    UInt32.le_iff_toNat_le.mp (of_decide_eq_true below)⟩

theorem isWordChar_of_isSymbolPart {c : Char} (part : Token.isSymbolPart c = true) :
    Segment.isWordChar c = true := by
  have range : 48 ≤ c.toNat ∧ c.toNat ≤ 122 := by
    have part : (((c.isUpper || c.isLower) || c.isDigit) || c == '_') = true := part
    simp only [Bool.or_eq_true, beq_iff_eq] at part
    rcases part with ((upper | lower) | digit) | rfl
    · obtain ⟨low, high⟩ := of_decide_eq_true upper
      exact ⟨Nat.le_trans (by decide) (UInt32.le_iff_toNat_le.mp low),
        Nat.le_trans (UInt32.le_iff_toNat_le.mp high) (by decide)⟩
    · have bounds := toNat_bounds lower
      exact ⟨Nat.le_trans (by decide) bounds.1, Nat.le_trans bounds.2 (by decide)⟩
    · have bounds := toNat_bounds digit
      exact ⟨Nat.le_trans (by decide) bounds.1, Nat.le_trans bounds.2 (by decide)⟩
    · decide
  exact isWordChar_of_range range.1 range.2

namespace Token

variable {c : Char} {name : String}

/-- A sign and a digit begin no symbol. -/
theorem first_of_symbol (first : (c == '_' || c.isLower) = true) :
    c.isDigit = false ∧ c ≠ '-' ∧ c ≠ '+' ∧ c ≠ '.' ∧ c ≠ '$' := by
  have range : 95 ≤ c.toNat := by
    rcases Bool.or_eq_true_iff.mp first with line | lower
    · rw [eq_of_beq line]
      decide
    · exact Nat.le_trans (by decide) (toNat_bounds lower).1
  have other : ∀ d : Char, d.toNat < 95 → c ≠ d := by
    intro d below same
    rw [same] at range
    omega
  refine ⟨?_, other _ (by decide), other _ (by decide), other _ (by decide), other _ (by decide)⟩
  rw [Bool.eq_false_iff]
  intro digit
  have high : c.toNat ≤ 57 := (toNat_bounds digit).2
  omega

/-- A word that does not begin with a sign or a digit is no number and no instant. -/
theorem forms_eq_none (noDigit : c.isDigit = false) (noMinus : c ≠ '-') (noPlus : c ≠ '+')
    (noPoint : c ≠ '.') (rest : List Char) : intForm? (c :: rest) = none
      ∧ floatForm? (c :: rest) = none ∧ Instant.wordFields? (c :: rest) = none := by
  have sign : splitSign (c :: rest) = (false, c :: rest) := by
    unfold splitSign
    split
    · rename_i same
      exact absurd (List.cons.inj same).1 noMinus
    · rename_i same
      exact absurd (List.cons.inj same).1 noPlus
    · rfl
  refine ⟨intForm?_eq_none sign List.mem_cons_self noDigit, ?_, ?_⟩
  · unfold floatForm?
    simp only [sign, List.takeWhile_cons, noDigit, Bool.false_eq_true, if_false, List.length_nil,
      List.drop_zero]
    split
    · rename_i same
      exact absurd (List.cons.inj same).1 noPoint
    · rfl
  · unfold Instant.wordFields?
    split
    · rename_i same
      rw [(List.cons.inj same).1] at noDigit
      simp only [Instant.digitsValue?, noDigit]
      rfl
    · rfl

theorem exists_of_isPropertyName (plain : isPropertyName name = true) : ∃ c rest,
    name.toList = c :: rest ∧ (c == '_' || c.isLower) = true ∧ rest.all isSymbolPart = true := by
  unfold isPropertyName at plain
  cases chars : name.toList with
  | nil =>
    rw [chars] at plain
    cases plain
  | cons c rest =>
    rw [chars] at plain
    obtain ⟨first, others⟩ := Bool.and_eq_true_iff.mp plain
    refine ⟨c, rest, rfl, first, ?_⟩
    rw [List.all_eq_true] at others ⊢
    intro d mem
    rw [isSymbolPart, Bool.or_comm]
    exact others d mem

/-- A property does not have the name of a parameter. -/
theorem isParameter_eq_false (plain : isPropertyName name = true) :
    Term.isParameter name = false := by
  obtain ⟨c, rest, chars, first, -⟩ := exists_of_isPropertyName plain
  unfold Term.isParameter
  rw [chars]
  exact beq_false_of_ne fun dollar => (first_of_symbol first).2.2.2.2 (Option.some.inj dollar)

/-- What is not the name of a parameter has the form of a symbol if it can name a property, and only
then. -/
theorem isSymbolForm_eq (plain : Term.isParameter name = false) :
    isSymbolForm name.toList = isPropertyName name := by
  unfold Term.isParameter at plain
  unfold isPropertyName
  cases chars : name.toList with
  | nil => rfl
  | cons first rest =>
    rw [chars] at plain
    unfold isSymbolForm
    split
    · next same =>
      rw [(List.cons.inj same).1] at plain
      cases plain
    · next same =>
      obtain ⟨rfl, rfl⟩ := List.cons.inj same
      rw [Bool.or_comm first.isLower]
      congr 2
      funext c
      exact Bool.or_comm _ _
    · next same => cases same

/-- The name of a property is read as the symbol of that name. -/
theorem ofWord_of_isPropertyName (plain : isPropertyName name = true) :
    ofWord name.toList = .ok (.symbol name) := by
  obtain ⟨c, rest, chars, first, -⟩ := exists_of_isPropertyName plain
  obtain ⟨noDigit, noMinus, noPlus, noPoint, -⟩ := first_of_symbol first
  obtain ⟨noInt, noFloat, noTime⟩ := forms_eq_none noDigit noMinus noPlus noPoint rest
  have symbol : isSymbolForm (c :: rest) = true := by
    rw [← chars, isSymbolForm_eq (isParameter_eq_false plain), plain]
  have text : String.ofList (c :: rest) = name := by
    rw [← chars, String.ofList_toList]
  rw [chars]
  simp only [ofWord, noInt, noFloat, noTime, symbol, text, if_true]

/-- The name of a property can stand in a query. -/
theorem legible_of_isPropertyName (plain : isPropertyName name = true) :
    (Token.symbol name).Legible := by
  refine ⟨?_, ofWord_of_isPropertyName plain⟩
  obtain ⟨c, rest, chars, first, others⟩ := exists_of_isPropertyName plain
  have part : isSymbolPart c = true := by
    rcases Bool.or_eq_true_iff.mp first with line | lower
    · rw [eq_of_beq line]
      decide
    · show (((c.isUpper || c.isLower) || c.isDigit) || c == '_') = true
      rw [lower, Bool.or_true, Bool.true_or, Bool.true_or]
  simp only [segment, chars]
  refine ⟨List.cons_ne_nil c rest, fun d mem => isWordChar_of_isSymbolPart ?_⟩
  rcases List.mem_cons.mp mem with rfl | mem
  · exact part
  · exact List.all_eq_true.mp others d mem

end Token

end Annals
