import Annals.Query.Parser

/-!
# The grammar of queries

What the reader of terms reads, said without a reader: a query is the list of the tokens of a
term, and what a factory makes of it is built from the innermost terms outwards.

* `Term.tokens` are the tokens of a term: parentheses around the name of the operator and the
  tokens of the operands.
* `Term.depth` is the nesting of its parentheses.
* `Factory.build` is what a factory makes of a term.
* `Term.fold` is what becomes of a term if nothing can be refused.
-/

set_option autoImplicit false

namespace Annals

/-- The token of a value. -/
def Token.ofValue : Value → Token
  | .int n => .int n
  | .float x => .float x
  | .str s => .str s
  | .time t => .time t

/-- The token of a value writes down that value. -/
theorem Token.literal?_ofValue (v : Value) : (Token.ofValue v).literal? = some v := by
  cases v <;> rfl

namespace Term

mutual

def tokens : Term → List Token
  | node op operands => .opening :: .symbol op.name :: (operandsTokens operands ++ [.closing])

/-- The tokens of an operand. -/
def operandTokens : Operand Term → List Token
  | .literal v => [.ofValue v]
  | .symbol name => [.symbol name]
  | .term t => tokens t

/-- The tokens of the operands in a list. -/
def operandsTokens : List (Operand Term) → List Token
  | [] => []
  | operand :: rest => operandTokens operand ++ operandsTokens rest

end

mutual

/-- How deeply the terms in a term are nested; a term without terms in it has depth one. -/
def depth : Term → Nat
  | node _ operands => operandsDepth operands + 1

/-- How deeply the terms in an operand are nested. -/
def operandDepth : Operand Term → Nat
  | .literal _ => 0
  | .symbol _ => 0
  | .term t => depth t

/-- How deeply the terms in a list of operands are nested. -/
def operandsDepth : List (Operand Term) → Nat
  | [] => 0
  | operand :: rest => max (operandDepth operand) (operandsDepth rest)

end

section

variable {N : Type} (make : Operator → List (Operand N) → N)

mutual

/-- The fold of a term from the innermost terms outwards. -/
def fold : Term → N
  | node op operands => make op (foldOperands operands)

/-- An operand with the term in it folded. -/
def foldOperand : Operand Term → Operand N
  | .literal v => .literal v
  | .symbol name => .symbol name
  | .term t => .term (fold t)

/-- Operands with the terms in them folded. -/
def foldOperands : List (Operand Term) → List (Operand N)
  | [] => []
  | operand :: rest => foldOperand operand :: foldOperands rest

end

end

end Term

namespace Factory

variable {N : Type} (factory : Factory N)

mutual

/-- What a factory makes of a term, from the innermost terms outwards and from left to right. -/
def build : Term → Except Error N
  | .node op operands => do factory.make op (← buildOperands operands)

/-- What a factory makes of an operand. -/
def buildOperand : Operand Term → Except Error (Operand N)
  | .literal v => .ok (.literal v)
  | .symbol name => .ok (.symbol name)
  | .term t => do return .term (← build t)

/-- What a factory makes of the operands in a list. -/
def buildOperands : List (Operand Term) → Except Error (List (Operand N))
  | [] => .ok []
  | operand :: rest => do return (← buildOperand operand) :: (← buildOperands rest)

end

end Factory

end Annals
