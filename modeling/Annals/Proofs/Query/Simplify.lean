import Annals.Query.Grammar

/-!
# Simplified terms

Simplifying a term leaves out operands and levels of nesting and adds nothing, and simplifying it
once is enough.

* `Term.Contains` is the relation between a term and what is left of it.
* `Term.contains_simplify`: the simplified term is contained in the term.
* `Term.simplify_simplify`: the simplified term is its own simplification.
-/

set_option autoImplicit false

namespace Annals.Term

theorem mem_operandsTokens {operands : List (Operand Term)} {token : Token} :
    token ∈ operandsTokens operands ↔ ∃ operand ∈ operands, token ∈ operandTokens operand := by
  induction operands with
  | nil => simp [operandsTokens]
  | cons operand rest ih => simp [operandsTokens, ih]

theorem operandsDepth_le_iff {operands : List (Operand Term)} {bound : Nat} :
    operandsDepth operands ≤ bound ↔ ∀ operand ∈ operands, operandDepth operand ≤ bound := by
  induction operands with
  | nil => simp [operandsDepth]
  | cons operand rest ih => simp only [operandsDepth, Nat.max_le, ih, List.forall_mem_cons]

theorem anyOperatorIn_eq_false_iff {sort : Operator → Bool} {operands : List (Operand Term)} :
    anyOperatorIn sort operands = false
      ↔ ∀ operand ∈ operands, anyOperatorOf sort operand = false := by
  induction operands with
  | nil => simp [anyOperatorIn]
  | cons operand rest ih =>
    simp only [anyOperatorIn, Bool.or_eq_false_iff, ih, List.forall_mem_cons]

/-- What is left of an operand: its tokens are among those of the operand, it is nested no deeper
and holds no other operators. -/
structure ContainsOperand (whole part : Operand Term) : Prop where
  tokens : ∀ token ∈ operandTokens part, token ∈ operandTokens whole
  shallow : operandDepth part ≤ operandDepth whole
  operators : ∀ sort : Operator → Bool,
    anyOperatorOf sort whole = false → anyOperatorOf sort part = false

def Contains (whole part : Term) : Prop :=
  ContainsOperand (.term whole) (.term part)

theorem ContainsOperand.refl (operand : Operand Term) : ContainsOperand operand operand :=
  ⟨fun _ mem => mem, Nat.le_refl _, fun _ none => none⟩

theorem ContainsOperand.trans {a b c : Operand Term} (first : ContainsOperand a b)
    (second : ContainsOperand b c) : ContainsOperand a c :=
  ⟨fun token mem => first.tokens token (second.tokens token mem),
    Nat.le_trans second.shallow first.shallow,
    fun sort none => second.operators sort (first.operators sort none)⟩

/-- A term contains its operands. -/
theorem contains_operand {op : Operator} {operands : List (Operand Term)} {operand : Operand Term}
    (mem : operand ∈ operands) : ContainsOperand (.term (.node op operands)) operand := by
  refine ⟨?_, ?_, ?_⟩
  · intro token among
    have inside := mem_operandsTokens.mpr ⟨operand, mem, among⟩
    simp only [operandTokens, tokens, List.mem_cons, List.mem_append]
    exact Or.inr (Or.inr (Or.inl inside))
  · have below := operandsDepth_le_iff.mp (Nat.le_refl (operandsDepth operands)) operand mem
    simp only [operandDepth, depth]
    omega
  · intro sort none
    simp only [anyOperatorOf, anyOperator, Bool.or_eq_false_iff] at none
    exact anyOperatorIn_eq_false_iff.mp none.2 operand mem

/-- A term contains the term of its operator and parts of its operands. -/
theorem contains_node {op : Operator} {operands parts : List (Operand Term)}
    (all : ∀ part ∈ parts, ∃ operand ∈ operands, ContainsOperand operand part) :
    Contains (.node op operands) (.node op parts) := by
  refine ⟨?_, ?_, ?_⟩
  · intro token mem
    simp only [operandTokens, tokens, List.mem_cons, List.mem_append] at mem ⊢
    rcases mem with first | name | inside | last
    · exact Or.inl first
    · exact Or.inr (Or.inl name)
    · obtain ⟨part, isPart, among⟩ := mem_operandsTokens.mp inside
      obtain ⟨operand, isOperand, contains⟩ := all part isPart
      exact Or.inr (Or.inr (Or.inl
        (mem_operandsTokens.mpr ⟨operand, isOperand, contains.tokens token among⟩)))
    · exact Or.inr (Or.inr (Or.inr last))
  · have below : operandsDepth parts ≤ operandsDepth operands := by
      refine operandsDepth_le_iff.mpr ?_
      intro part isPart
      obtain ⟨operand, isOperand, contains⟩ := all part isPart
      exact Nat.le_trans contains.shallow
        (operandsDepth_le_iff.mp (Nat.le_refl _) operand isOperand)
    simp only [operandDepth, depth]
    omega
  · intro sort none
    simp only [anyOperatorOf, anyOperator, Bool.or_eq_false_iff] at none ⊢
    refine ⟨none.1, anyOperatorIn_eq_false_iff.mpr ?_⟩
    intro part isPart
    obtain ⟨operand, isOperand, contains⟩ := all part isPart
    exact contains.operators sort (anyOperatorIn_eq_false_iff.mp none.2 operand isOperand)

theorem firstOccurrences_sublist (seen : List String) (operands : List (Operand Term)) :
    (firstOccurrences seen operands).Sublist operands := by
  induction operands generalizing seen with
  | nil => exact List.Sublist.slnil
  | cons first rest ih =>
    simp only [firstOccurrences]
    split
    · exact (ih seen).cons first
    · exact (ih _).cons_cons first

theorem firstOccurrences_subset (seen : List String) (operands : List (Operand Term)) :
    ∀ operand ∈ firstOccurrences seen operands, operand ∈ operands :=
  fun _ mem => (firstOccurrences_sublist seen operands).mem mem

/-- First occurrences occur once. -/
theorem firstOccurrences_idem (seen : List String) (operands : List (Operand Term)) :
    firstOccurrences seen (firstOccurrences seen operands) = firstOccurrences seen operands := by
  induction operands generalizing seen with
  | nil => rfl
  | cons first rest ih =>
    simp only [firstOccurrences]
    split
    · exact ih seen
    · rename_i new
      simp only [firstOccurrences, new, if_false]
      rw [ih]

/-- A single operand that is a term is taken for the term; otherwise there is a node. -/
theorem collapse_cases (op : Operator) (operands : List (Operand Term)) :
    (∃ t : Term, operands = [.term t] ∧ collapse op operands = t)
      ∨ collapse op operands = .node op operands := by
  unfold collapse
  split
  · rename_i t
    exact Or.inl ⟨t, rfl, rfl⟩
  · exact Or.inr rfl

def Joins (op : Operator) : Prop :=
  op = .and ∨ op = .or

/-- A conjunction or a disjunction is simplified from its simplified operands. -/
theorem simplify_joins {op : Operator} (joins : Joins op) (operands : List (Operand Term)) :
    simplify (.node op operands)
      = collapse op (firstOccurrences [] (simplifyOperands operands)) := by
  rcases joins with rfl | rfl
  · simp only [simplify]
  · simp only [simplify]

/-- Other terms are left as they are. -/
theorem simplify_other {op : Operator} (other : ¬Joins op) (operands : List (Operand Term)) :
    simplify (.node op operands) = .node op operands := by
  cases op with
  | and => exact absurd (Or.inl rfl) other
  | or => exact absurd (Or.inr rfl) other
  | _ => simp only [simplify]

theorem mem_simplifyOperands {operands : List (Operand Term)} {operand : Operand Term} :
    operand ∈ simplifyOperands operands
      ↔ ∃ before ∈ operands, simplifyOperand before = operand := by
  induction operands with
  | nil => simp [simplifyOperands]
  | cons first rest ih =>
    simp [simplifyOperands, ih, eq_comm]

mutual

/-- A term contains its simplification. -/
theorem contains_simplify : ∀ t : Term, Contains t t.simplify
  | .node op operands => by
    by_cases joins : Joins op
    · rw [simplify_joins joins]
      have all : ∀ part ∈ firstOccurrences [] (simplifyOperands operands),
          ∃ operand ∈ operands, ContainsOperand operand part := by
        intro part mem
        obtain ⟨operand, isOperand, rfl⟩ :=
          mem_simplifyOperands.mp (firstOccurrences_subset [] _ part mem)
        exact ⟨operand, isOperand, contains_simplifyOperands operands operand isOperand⟩
      rcases collapse_cases op (firstOccurrences [] (simplifyOperands operands)) with
        ⟨t, single, same⟩ | same
      · rw [same]
        obtain ⟨operand, isOperand, contains⟩ := all (.term t) (by rw [single]; simp)
        exact (contains_operand isOperand).trans contains
      · rw [same]
        exact contains_node all
    · rw [simplify_other joins]
      exact ContainsOperand.refl _

theorem contains_simplifyOperands : ∀ operands : List (Operand Term), ∀ operand ∈ operands,
    ContainsOperand operand (simplifyOperand operand)
  | [], operand, mem => nomatch mem
  | first :: rest, operand, mem => by
    rcases List.mem_cons.mp mem with same | mem
    · rw [same]
      exact contains_simplifyOperand first
    · exact contains_simplifyOperands rest operand mem

theorem contains_simplifyOperand : ∀ operand : Operand Term,
    ContainsOperand operand (simplifyOperand operand)
  | .literal _ => ContainsOperand.refl _
  | .symbol _ => ContainsOperand.refl _
  | .term t => contains_simplify t

end

/-- A term without a memory is simplified to one without a memory. -/
theorem remembers_simplify {t : Term} (memoryless : t.remembers = false) :
    t.simplify.remembers = false :=
  (contains_simplify t).operators (· == .prev) memoryless

theorem simplifyOperands_of_fixed {operands : List (Operand Term)}
    (fixed : ∀ operand ∈ operands, simplifyOperand operand = operand) :
    simplifyOperands operands = operands := by
  induction operands with
  | nil => rfl
  | cons first rest ih =>
    simp only [simplifyOperands]
    rw [fixed first List.mem_cons_self,
      ih (fun operand mem => fixed operand (List.mem_cons_of_mem first mem))]

mutual

/-- A simplified term is its own simplification. -/
theorem simplify_simplify : ∀ t : Term, t.simplify.simplify = t.simplify
  | .node op operands => by
    by_cases joins : Joins op
    · rw [simplify_joins joins]
      have fixed : ∀ part ∈ firstOccurrences [] (simplifyOperands operands),
          simplifyOperand part = part := by
        intro part mem
        obtain ⟨operand, isOperand, rfl⟩ :=
          mem_simplifyOperands.mp (firstOccurrences_subset [] _ part mem)
        exact simplifyOperands_idem operands operand isOperand
      rcases collapse_cases op (firstOccurrences [] (simplifyOperands operands)) with
        ⟨t, single, same⟩ | same
      · have inner := fixed (.term t) (by rw [single]; simp)
        rw [same]
        exact Operand.term.inj inner
      · rw [same, simplify_joins joins, simplifyOperands_of_fixed fixed, firstOccurrences_idem,
          same]
    · rw [simplify_other joins, simplify_other joins]

theorem simplifyOperands_idem : ∀ operands : List (Operand Term), ∀ operand ∈ operands,
    simplifyOperand (simplifyOperand operand) = simplifyOperand operand
  | [], operand, mem => nomatch mem
  | first :: rest, operand, mem => by
    rcases List.mem_cons.mp mem with same | mem
    · rw [same]
      exact simplifyOperand_idem first
    · exact simplifyOperands_idem rest operand mem

theorem simplifyOperand_idem : ∀ operand : Operand Term,
    simplifyOperand (simplifyOperand operand) = simplifyOperand operand
  | .literal _ => rfl
  | .symbol _ => rfl
  | .term t => by
    simp only [simplifyOperand]
    rw [simplify_simplify t]

end

end Annals.Term
