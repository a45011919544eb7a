import Annals.Proofs.Query.Reading
import Mathlib.Logic.ExistsUnique

/-!
# The reader accepts exactly its grammar

The tokens of an operand determine it, whatever comes after them. So a factory that refuses nothing
reads a query if its tokens are those of one term, nested no deeper than the limit, and it makes of
it the fold of that term. `Factory.ofTokens_accepts` says all of this.
-/

set_option autoImplicit false

namespace Annals

namespace Term

/-- The tokens of an operand show where it ends and what it is. -/
theorem eq_of_operandTokens_append {a b : Operand Term} {rest rest' : List Token}
    (named : anyOperatorOf Operator.isMisnamed a = false)
    (named' : anyOperatorOf Operator.isMisnamed b = false)
    (same : operandTokens a ++ rest = operandTokens b ++ rest') : a = b ∧ rest = rest' := by
  -- one reader reads both, if its limit is high enough
  let limit := max (operandDepth a) (operandDepth b)
  have shallow : operandDepth a + ([] : List (OpenGroup Term)).length ≤ limit :=
    Nat.le_max_left _ _
  have shallow' : operandDepth b + ([] : List (OpenGroup Term)).length ≤ limit :=
    Nat.le_max_right _ _
  have first := Factory.verbatim.operandOf_tokens (Factory.verbatim_buildOperand a) shallow
    named 0 rest
  have second := Factory.verbatim.operandOf_tokens (Factory.verbatim_buildOperand b) shallow'
    named' 0 rest'
  rw [same, second] at first
  simp only [Factory.deliver, Except.ok.injEq, Prod.mk.injEq] at first
  exact ⟨first.1.symm, first.2.2.symm⟩

theorem eq_of_operandTokens {a b : Operand Term}
    (named : anyOperatorOf Operator.isMisnamed a = false)
    (named' : anyOperatorOf Operator.isMisnamed b = false)
    (same : operandTokens a = operandTokens b) : a = b := by
  have whole : operandTokens a ++ [] = operandTokens b ++ [] := by rw [same]
  exact (eq_of_operandTokens_append named named' whole).1

/-- The number of terms in a term, from those of its operands. -/
def countNode (_ : Operator) (operands : List (Operand Nat)) : Nat :=
  operands.foldr (fun operand n => Factory.operandCount operand + n) 1

mutual

/-- There is an opening parenthesis for every term. -/
theorem fold_countNode : ∀ t : Term, t.fold countNode = t.tokens.count .opening
  | .node _ operands => by
    have inside := foldr_countNode operands
    simp only [fold, countNode, tokens, List.count_cons, List.count_append, List.count_nil, inside]
    simp

theorem operandCount_foldOperand : ∀ operand : Operand Term,
    Factory.operandCount (foldOperand countNode operand) = (operandTokens operand).count .opening
  | .literal v => by cases v <;> rfl
  | .symbol name => rfl
  | .term t => fold_countNode t

theorem foldr_countNode : ∀ operands : List (Operand Term),
    (foldOperands countNode operands).foldr (fun operand n => Factory.operandCount operand + n) 1
      = (operandsTokens operands).count .opening + 1
  | [] => rfl
  | operand :: rest => by
    have first := operandCount_foldOperand operand
    have later := foldr_countNode rest
    simp only [foldOperands, operandsTokens, List.foldr_cons, List.count_append, first, later]
    omega

end

end Term

namespace Factory

variable {N : Type} {factory : Factory N} {make : Operator → List (Operand N) → N}

mutual

/-- A factory that refuses nothing builds the fold of a term. -/
theorem build_eq_fold (total : ∀ op operands, factory.make op operands = .ok (make op operands)) :
    ∀ t : Term, factory.build t = .ok (t.fold make)
  | .node _ operands =>
    factory.build_node_eq_ok.mpr
      ⟨Term.foldOperands make operands, buildOperands_eq_fold total operands, total _ _⟩

theorem buildOperand_eq_fold
    (total : ∀ op operands, factory.make op operands = .ok (make op operands)) :
    ∀ operand : Operand Term, factory.buildOperand operand = .ok (Term.foldOperand make operand)
  | .literal _ => rfl
  | .symbol _ => rfl
  | .term t => factory.buildOperand_term_eq_ok.mpr ⟨t.fold make, build_eq_fold total t, rfl⟩

theorem buildOperands_eq_fold
    (total : ∀ op operands, factory.make op operands = .ok (make op operands)) :
    ∀ operands : List (Operand Term),
      factory.buildOperands operands = .ok (Term.foldOperands make operands)
  | [] => rfl
  | operand :: rest =>
    factory.buildOperands_cons_eq_ok.mpr ⟨Term.foldOperand make operand,
      buildOperand_eq_fold total operand, Term.foldOperands make rest,
      buildOperands_eq_fold total rest, rfl⟩

end

/-- A factory that refuses nothing reads the tokens of a term that is not nested too deeply, and
nothing else. -/
theorem ofTokens_eq_fold (total : ∀ op operands, factory.make op operands = .ok (make op operands))
    (limit : Nat) (tokens : List Token) (result : N) :
    factory.ofTokens limit tokens = .ok result ↔
      ∃ t : Term, t.tokens = tokens ∧ t.depth ≤ limit
        ∧ t.anyOperator Operator.isMisnamed = false ∧ result = factory.finish (t.fold make) := by
  rw [ofTokens_iff]
  constructor
  · rintro ⟨t, node, same, shallow, named, built, finished⟩
    rw [build_eq_fold total t] at built
    cases built
    exact ⟨t, same.symm, shallow, named, finished⟩
  · rintro ⟨t, same, shallow, named, finished⟩
    exact ⟨t, t.fold make, same.symm, shallow, named, build_eq_fold total t, finished⟩

/-- A factory that refuses nothing reads a list of tokens exactly if that is the list of the tokens
of just one term that is nested no deeper than the limit. No other operand at all has these tokens,
and what is read is the finished fold of the term; for the factory that counts terms, it is the
number of opening parentheses. -/
theorem ofTokens_accepts (factory : Factory N) (make : Operator → List (Operand N) → N)
    (total : ∀ op operands, factory.make op operands = .ok (make op operands))
    (limit : Nat) (tokens : List Token) :
    ((∃ result, factory.ofTokens limit tokens = .ok result) ↔
      ∃! t : Term, t.tokens = tokens ∧ t.depth ≤ limit
        ∧ t.anyOperator Operator.isMisnamed = false) ∧
    (∀ t : Term, t.tokens = tokens → t.anyOperator Operator.isMisnamed = false →
      (∀ operand, Term.operandTokens operand = tokens →
        Term.anyOperatorOf Operator.isMisnamed operand = false → operand = .term t) ∧
      (t.depth ≤ limit →
        factory.ofTokens limit tokens = .ok (factory.finish (t.fold make)))) ∧
    (∀ count, (counting []).ofTokens limit tokens = .ok count →
      count = tokens.count .opening) := by
  have unique : ∀ t : Term, t.tokens = tokens → t.anyOperator Operator.isMisnamed = false →
      ∀ operand, Term.operandTokens operand = tokens →
        Term.anyOperatorOf Operator.isMisnamed operand = false → operand = .term t := by
    intro t same named operand same' named'
    have alike : Term.operandTokens operand = Term.operandTokens (.term t) := same'.trans same.symm
    exact Term.eq_of_operandTokens named' named alike
  refine ⟨⟨?_, ?_⟩, ?_, ?_⟩
  · rintro ⟨result, read⟩
    obtain ⟨t, same, shallow, named, _⟩ := (ofTokens_eq_fold total limit tokens result).mp read
    refine ⟨t, ⟨same, shallow, named⟩, ?_⟩
    rintro other ⟨same', _, named'⟩
    exact Operand.term.inj (unique t same named (.term other) same' named')
  · rintro ⟨t, ⟨same, shallow, named⟩, _⟩
    exact ⟨_, (ofTokens_eq_fold total limit tokens _).mpr ⟨t, same, shallow, named, rfl⟩⟩
  · intro t same named
    refine ⟨unique t same named, fun shallow => ?_⟩
    exact (ofTokens_eq_fold total limit tokens _).mpr ⟨t, same, shallow, named, rfl⟩
  · intro count read
    have counts : ∀ op operands,
        (counting []).make op operands = .ok (Term.countNode op operands) := by
      intro op operands
      simp [counting, Term.countNode]
    obtain ⟨t, same, _, _, finished⟩ := (ofTokens_eq_fold counts limit tokens count).mp read
    rw [finished, ← same]
    exact Term.fold_countNode t

/-- The tokens of `(and (exists a) (not (never)))` at their limit, and one below it. -/
theorem ofTokens_accepts_nested :
    let tokens : List Token := [.opening, .symbol "and", .opening, .symbol "exists", .symbol "a",
      .closing, .opening, .symbol "not", .opening, .symbol "never", .closing, .closing, .closing]
    (∀ op operands, (counting []).make op operands = .ok (Term.countNode op operands)) ∧
      (counting []).ofTokens 3 tokens = .ok 4 ∧
      ¬∃ count, (counting []).ofTokens 2 tokens = .ok count := by
  intro tokens
  have total : ∀ op operands,
      (counting []).make op operands = .ok (Term.countNode op operands) := by
    intro op operands
    simp [counting, Term.countNode]
  let t : Term := .node .and [.term (.node .present [.symbol "a"]),
    .term (.node .not [.term (.node .never [])])]
  have read := (ofTokens_accepts (counting []) Term.countNode total 3 tokens).2.1 t rfl rfl
  have tooDeep := (ofTokens_accepts (counting []) Term.countNode total 2 tokens).1
  refine ⟨total, read.2 (by decide), ?_⟩
  intro accepted
  obtain ⟨other, ⟨same, shallow, named⟩, _⟩ := tooDeep.mp accepted
  have isT : Operand.term other = .term t := read.1 (.term other) same named
  rw [Operand.term.inj isT] at shallow
  exact absurd shallow (by decide)

end Factory

end Annals
