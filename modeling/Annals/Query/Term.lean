import Annals.Query.Operator
import Annals.Value

/-!
# Terms

A term is an operator with its operands, and an operand is a literal, a symbol or a term.

* `Term.text` is the canonical text of a term, which a query reads back.
* `Term.simplify` removes repeated operands of conjunctions and disjunctions.
* `Term.isAbstract` tells whether a term mentions a parameter, and `Term.isStatic` whether it can
  be evaluated without a fact.
-/

set_option autoImplicit false

namespace Annals

/-- An operand; `N` is the type of nested terms. -/
inductive Operand (N : Type) where
  | literal (value : Value)
  /-- The name of a property or, with a dollar sign, of a parameter. -/
  | symbol (name : String)
  | term (node : N)
  deriving DecidableEq

/-- A term of a query. -/
inductive Term where
  | node (op : Operator) (operands : List (Operand Term))

namespace Term

instance : Inhabited Term := ⟨.node .always []⟩

def op : Term → Operator
  | node op _ => op

def operands : Term → List (Operand Term)
  | node _ operands => operands

mutual

/-- Whether an operator of some sort occurs anywhere in a term. -/
def anyOperator (sort : Operator → Bool) : Term → Bool
  | node op operands => sort op || anyOperatorIn sort operands

/-- Whether an operator of some sort occurs in an operand. -/
def anyOperatorOf (sort : Operator → Bool) : Operand Term → Bool
  | .literal _ => false
  | .symbol _ => false
  | .term t => anyOperator sort t

/-- Whether an operator of some sort occurs in one of the operands. -/
def anyOperatorIn (sort : Operator → Bool) : List (Operand Term) → Bool
  | [] => false
  | operand :: rest => anyOperatorOf sort operand || anyOperatorIn sort rest

end

/-- Whether a term holds an operator that remembers operands from one subject to the next. -/
def remembers (t : Term) : Bool := t.anyOperator (· == .prev)

/-- What occurs in no operand of a term occurs in none of the terms among them. -/
theorem anyOperator_of_mem {sort : Operator → Bool} {operands : List (Operand Term)} {t : Term}
    (none : anyOperatorIn sort operands = false) (mem : .term t ∈ operands) :
    t.anyOperator sort = false := by
  induction operands with
  | nil => cases mem
  | cons operand rest ih =>
    rw [anyOperatorIn, Bool.or_eq_false_iff] at none
    rcases List.mem_cons.mp mem with rfl | mem
    · exact none.1
    · exact ih none.2 mem

/-- The operands of a term that remembers nothing remember nothing. -/
theorem remembers_of_operand {op : Operator} {operands : List (Operand Term)} {t : Term}
    (memoryless : (node op operands).remembers = false) (mem : .term t ∈ operands) :
    t.remembers = false := by
  unfold remembers at memoryless
  rw [anyOperator, Bool.or_eq_false_iff] at memoryless
  exact anyOperator_of_mem memoryless.2 mem

mutual

/-- Whether two terms are equal. -/
def decideEq : (a b : Term) → Decidable (a = b)
  | node op operands, node op' operands' =>
    if h : op = op' then
      match decideEqOperands operands operands' with
      | isTrue h' => isTrue (by rw [h, h'])
      | isFalse h' => isFalse fun e => h' (Term.node.inj e).2
    else isFalse fun e => h (Term.node.inj e).1

/-- Whether two operands are equal. -/
def decideEqOperand : (a b : Operand Term) → Decidable (a = b)
  | .literal v, .literal w =>
    if h : v = w then isTrue (by rw [h]) else isFalse fun e => h (Operand.literal.inj e)
  | .symbol s, .symbol t =>
    if h : s = t then isTrue (by rw [h]) else isFalse fun e => h (Operand.symbol.inj e)
  | .term s, .term t =>
    match decideEq s t with
    | isTrue h => isTrue (by rw [h])
    | isFalse h => isFalse fun e => h (Operand.term.inj e)
  | .literal _, .symbol _ | .literal _, .term _ | .symbol _, .literal _ | .symbol _, .term _
  | .term _, .literal _ | .term _, .symbol _ => isFalse fun e => nomatch e

/-- Whether two lists of operands are equal. -/
def decideEqOperands : (a b : List (Operand Term)) → Decidable (a = b)
  | [], [] => isTrue rfl
  | [], _ :: _ | _ :: _, [] => isFalse fun e => nomatch e
  | a :: as, b :: bs =>
    match decideEqOperand a b, decideEqOperands as bs with
    | isTrue h, isTrue h' => isTrue (by rw [h, h'])
    | isFalse h, _ => isFalse fun e => h (List.cons.inj e).1
    | _, isFalse h => isFalse fun e => h (List.cons.inj e).2

end

instance : DecidableEq Term := decideEq

mutual

def text : Term → String
  | node op operands => "(" ++ String.intercalate " " (op.name :: operandTexts operands) ++ ")"

/-- The canonical text of an operand. -/
def operandText : Operand Term → String
  | .literal value => value.text
  | .symbol name => name
  | .term t => text t

/-- The canonical texts of the operands in a list. -/
def operandTexts : List (Operand Term) → List String
  | [] => []
  | operand :: rest => operandText operand :: operandTexts rest

end

/-- Whether a symbol is the name of a parameter. -/
def isParameter (name : String) : Bool :=
  name.toList.head? == some '$'

mutual

/-- Whether a parameter is mentioned anywhere in a term. -/
def isAbstract : Term → Bool
  | node _ operands => anyAbstract operands

/-- Whether a parameter is mentioned in an operand. -/
def isAbstractOperand : Operand Term → Bool
  | .literal _ => false
  | .symbol name => isParameter name
  | .term t => isAbstract t

/-- Whether a parameter is mentioned in one of the operands. -/
def anyAbstract : List (Operand Term) → Bool
  | [] => false
  | operand :: rest => isAbstractOperand operand || anyAbstract rest

end

mutual

/-- Whether a term reads no property of its subject.

A term over selected facts picks its own subjects and counts as static. -/
def isStatic : Term → Bool
  | node op operands => op == .agg || allStatic operands

/-- Whether an operand reads no property of the subject. -/
def isStaticOperand : Operand Term → Bool
  | .literal _ => true
  | .symbol name => isParameter name
  | .term t => isStatic t

/-- Whether none of the operands reads a property of the subject. -/
def allStatic : List (Operand Term) → Bool
  | [] => true
  | operand :: rest => isStaticOperand operand && allStatic rest

end

theorem anyAbstract_iff {operands : List (Operand Term)} :
    anyAbstract operands = true ↔ ∃ operand ∈ operands, isAbstractOperand operand = true := by
  induction operands with
  | nil => simp [anyAbstract]
  | cons first rest ih => simp [anyAbstract, ih]

theorem allStatic_iff {operands : List (Operand Term)} :
    allStatic operands = true ↔ ∀ operand ∈ operands, isStaticOperand operand = true := by
  induction operands with
  | nil => simp [allStatic]
  | cons first rest ih => simp [allStatic, ih]

/-- The operands whose text is neither in `seen` nor that of an operand before. -/
def firstOccurrences (seen : List String) : List (Operand Term) → List (Operand Term)
  | [] => []
  | operand :: rest =>
    let text := operandText operand
    if text ∈ seen then firstOccurrences seen rest
    else operand :: firstOccurrences (text :: seen) rest

/-- The term of an operator and operands; a single operand that is a term stands for itself. -/
def collapse (op : Operator) : List (Operand Term) → Term
  | [.term t] => t
  | operands => node op operands

mutual

/-- An equivalent term that is not longer.

Conjunctions and disjunctions, from the root down through each other, lose the operands whose
text occurred before and give way to a single operand that is a term. -/
def simplify : Term → Term
  | node op operands =>
    match op with
    | .and => collapse .and (firstOccurrences [] (simplifyOperands operands))
    | .or => collapse .or (firstOccurrences [] (simplifyOperands operands))
    | op => node op operands

def simplifyOperand : Operand Term → Operand Term
  | .term t => .term (simplify t)
  | operand => operand

def simplifyOperands : List (Operand Term) → List (Operand Term)
  | [] => []
  | operand :: rest => simplifyOperand operand :: simplifyOperands rest

end

end Term

end Annals
