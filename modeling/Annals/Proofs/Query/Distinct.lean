import Annals.Proofs.Query.Acceptance
import Annals.Proofs.Query.RoundTrip

/-!
# Operands that their texts tell apart

Simplifying a term compares operands by their texts. That is sound where operands with the same
text are the same, which `Term.TextsTell` says of a term. It is so of every term that is read from
a query (`Term.textsTell_of_read`), because texts are read back; it need not be so of other terms,
as the number `1` and a symbol named `1` show.
-/

set_option autoImplicit false

namespace Annals.Term

mutual

/-- Wherever simplifying a term compares two operands, their texts tell them apart. -/
def TextsTell : Term → Prop
  | node op operands => Joins op →
    (∀ a ∈ simplifyOperands operands, ∀ b ∈ simplifyOperands operands,
      operandText a = operandText b → a = b) ∧ TextsTellIn operands

def TextsTellIn : List (Operand Term) → Prop
  | [] => True
  | operand :: rest => TextsTellOf operand ∧ TextsTellIn rest

def TextsTellOf : Operand Term → Prop
  | .literal _ => True
  | .symbol _ => True
  | .term t => TextsTell t

end

/-- Operands that can be read back are told apart by their texts. -/
theorem eq_of_operandText {a b : Operand Term}
    (legible : ∀ token ∈ operandTokens a, token.Legible)
    (legible' : ∀ token ∈ operandTokens b, token.Legible)
    (named : anyOperatorOf Operator.isMisnamed a = false)
    (named' : anyOperatorOf Operator.isMisnamed b = false)
    (same : operandText a = operandText b) : a = b := by
  -- both texts are cut in front of a blank
  have stops : Segment.Stops [' '] := ⟨[], Or.inl rfl⟩
  have nothing : Segment.ofCharsAt (.plain []) [' '] = .ok [] := rfl
  have cut := ofCharsAt_operandText (fun token mem => (legible token mem).clean) stops
  have cut' := ofCharsAt_operandText (fun token mem => (legible' token mem).clean) stops
  rw [same, cut', nothing] at cut
  have segments : (operandTokens b).map Token.segment = (operandTokens a).map Token.segment := by
    simpa only [Except.map, List.append_nil, Except.ok.injEq] using cut
  have read : ((operandTokens a).map Token.segment).mapM Token.ofSegment = .ok (operandTokens a) :=
    mapM_map_eq fun token mem => (legible token mem).reads
  have read' : ((operandTokens b).map Token.segment).mapM Token.ofSegment = .ok (operandTokens b) :=
    mapM_map_eq fun token mem => (legible' token mem).reads
  rw [segments, read] at read'
  exact eq_of_operandTokens named named' (Except.ok.inj read')

mutual

/-- Texts that are read back tell the operands of a term apart. -/
theorem textsTell_of_legible : ∀ t : Term, (∀ token ∈ t.tokens, token.Legible) →
    t.anyOperator Operator.isMisnamed = false → t.TextsTell
  | .node op operands, legible, named => by
    intro joins
    have part : ∀ operand ∈ operands, ContainsOperand (.term (.node op operands)) operand :=
      fun operand mem => contains_operand mem
    refine ⟨?_, textsTellIn_of_legible operands
      (fun operand mem token among => legible token ((part operand mem).tokens token among))
      (fun operand mem => (part operand mem).operators _ named)⟩
    have simple : ∀ a ∈ simplifyOperands operands,
        ContainsOperand (.term (.node op operands)) a := by
      intro a mem
      obtain ⟨operand, isOperand, rfl⟩ := mem_simplifyOperands.mp mem
      exact (part operand isOperand).trans (contains_simplifyOperand operand)
    intro a isA b isB same
    exact eq_of_operandText (fun token mem => legible token ((simple a isA).tokens token mem))
      (fun token mem => legible token ((simple b isB).tokens token mem))
      ((simple a isA).operators _ named) ((simple b isB).operators _ named) same

theorem textsTellIn_of_legible : ∀ operands : List (Operand Term),
    (∀ operand ∈ operands, ∀ token ∈ operandTokens operand, token.Legible) →
    (∀ operand ∈ operands, anyOperatorOf Operator.isMisnamed operand = false) →
    TextsTellIn operands
  | [], _, _ => trivial
  | operand :: rest, legible, named => by
    refine ⟨textsTellOf_of_legible operand (legible operand List.mem_cons_self)
      (named operand List.mem_cons_self), textsTellIn_of_legible rest ?_ ?_⟩
    · exact fun other mem => legible other (List.mem_cons_of_mem operand mem)
    · exact fun other mem => named other (List.mem_cons_of_mem operand mem)

theorem textsTellOf_of_legible : ∀ operand : Operand Term,
    (∀ token ∈ operandTokens operand, token.Legible) →
    anyOperatorOf Operator.isMisnamed operand = false → TextsTellOf operand
  | .literal _, _, _ => trivial
  | .symbol _, _, _ => trivial
  | .term t, legible, named => textsTell_of_legible t legible named

end

/-- Texts tell the operands of every term apart that is read from a query. -/
theorem textsTell_of_read {limit : Nat} {query : String} {t : Term} {n : Nat}
    (read : Factory.verbatim.ofQuery limit query = .ok (t, n)) : t.TextsTell := by
  obtain ⟨cut, _, named, _⟩ := verbatim_ofQuery_iff.mp read
  exact textsTell_of_legible t (Token.legible_of_ofQuery cut) named

/-- Leaving out the operands that occurred before leaves out none, if texts tell them apart. -/
theorem mem_firstOccurrences {operands : List (Operand Term)} (seen : List String)
    {operand : Operand Term} (mem : operand ∈ operands) (new : operandText operand ∉ seen)
    (tell : ∀ a ∈ operands, ∀ b ∈ operands, operandText a = operandText b → a = b) :
    operand ∈ firstOccurrences seen operands := by
  induction operands generalizing seen with
  | nil => cases mem
  | cons first rest ih =>
    have tellRest : ∀ a ∈ rest, ∀ b ∈ rest, operandText a = operandText b → a = b :=
      fun a isA b isB => tell a (List.mem_cons_of_mem first isA) b (List.mem_cons_of_mem first isB)
    have later : operand ≠ first → operand ∈ rest := by
      intro other
      rcases List.mem_cons.mp mem with same | mem
      · exact absurd same other
      · exact mem
    rw [firstOccurrences]
    split
    · next old =>
      have other : operand ≠ first := by
        rintro rfl
        exact new old
      exact ih seen (later other) new tellRest
    · by_cases same : operand = first
      · rw [same]
        exact List.mem_cons_self
      · have apart : operandText operand ≠ operandText first :=
          fun alike => same (tell operand mem first List.mem_cons_self alike)
        refine List.mem_cons_of_mem first (ih _ (later same) ?_ tellRest)
        exact List.not_mem_cons_of_ne_of_not_mem apart new

theorem isAbstract_collapse (op : Operator) (operands : List (Operand Term)) :
    (collapse op operands).isAbstract = anyAbstract operands := by
  rcases collapse_cases op operands with ⟨t, single, same⟩ | same
  · rw [same, single, anyAbstract, anyAbstract, isAbstractOperand, Bool.or_false]
  · rw [same, isAbstract]

mutual

/-- A term that is simplified mentions a parameter if the term does. -/
theorem isAbstract_simplify : ∀ t : Term, t.TextsTell → t.simplify.isAbstract = t.isAbstract
  | .node op operands, tell => by
    by_cases joins : Joins op
    · obtain ⟨tell, inner⟩ := tell joins
      have all : anyAbstract (firstOccurrences [] (simplifyOperands operands))
          = anyAbstract (simplifyOperands operands) := by
        rw [Bool.eq_iff_iff, anyAbstract_iff, anyAbstract_iff]
        constructor
        · rintro ⟨operand, mem, abstract⟩
          exact ⟨operand, firstOccurrences_subset [] _ operand mem, abstract⟩
        · rintro ⟨operand, mem, abstract⟩
          exact ⟨operand, mem_firstOccurrences [] mem List.not_mem_nil tell, abstract⟩
      rw [simplify_joins joins, isAbstract_collapse, all, isAbstract,
        anyAbstract_simplifyOperands operands inner]
    · rw [simplify_other joins]

theorem anyAbstract_simplifyOperands : ∀ operands : List (Operand Term), TextsTellIn operands →
    anyAbstract (simplifyOperands operands) = anyAbstract operands
  | [], _ => rfl
  | operand :: rest, tell => by
    rw [simplifyOperands, anyAbstract, anyAbstract, isAbstract_simplifyOperand operand tell.1,
      anyAbstract_simplifyOperands rest tell.2]

theorem isAbstract_simplifyOperand : ∀ operand : Operand Term, TextsTellOf operand →
    isAbstractOperand (simplifyOperand operand) = isAbstractOperand operand
  | .literal _, _ => rfl
  | .symbol _, _ => rfl
  | .term t, tell => isAbstract_simplify t tell

end

end Annals.Term
