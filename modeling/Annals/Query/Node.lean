import Annals.Query.Term

/-!
# Nodes

A term that was made once may stand in many places. Whoever holds it can tell whether another one
is the very same or only looks the same, because every term gets a number when it is made. A node is
a term with its number and the numbers of the terms in it.

* `Node.ofTerm` numbers the terms in a term in the order in which a reader makes them.
* `Node.simplify` simplifies a node. It gives the node itself if there is nothing to simplify, or
  one of the nodes in it, and makes a new one only where none of these will do.
-/

set_option autoImplicit false

namespace Annals

/-- A term with a number that tells it from the others that look the same. -/
inductive Node where
  | mk (number : Nat) (op : Operator) (operands : List (Operand Node))

namespace Node

instance : Inhabited Node := ⟨.mk 0 .always []⟩

def number : Node → Nat
  | mk number _ _ => number

mutual

/-- The term that a node is, whatever its number. -/
def term : Node → Term
  | mk _ op operands => .node op (operandTerms operands)

/-- An operand without the numbers in it. -/
def operandTerm : Operand Node → Operand Term
  | .literal v => .literal v
  | .symbol name => .symbol name
  | .term x => .term (term x)

/-- Operands without the numbers in them. -/
def operandTerms : List (Operand Node) → List (Operand Term)
  | [] => []
  | operand :: rest => operandTerm operand :: operandTerms rest

end

mutual

/-- The node of a term that is made with new numbers from `next` on, and the number after them. -/
def ofTerm : Term → Nat → Node × Nat
  | .node op operands, next =>
    let made := ofOperands operands next
    (mk made.2 op made.1, made.2 + 1)

/-- An operand with new numbers. -/
def ofOperand : Operand Term → Nat → Operand Node × Nat
  | .literal v, next => (.literal v, next)
  | .symbol name, next => (.symbol name, next)
  | .term t, next =>
    let made := ofTerm t next
    (.term made.1, made.2)

/-- Operands with new numbers. -/
def ofOperands : List (Operand Term) → Nat → List (Operand Node) × Nat
  | [], next => ([], next)
  | operand :: rest, next =>
    let first := ofOperand operand next
    let others := ofOperands rest first.2
    (first.1 :: others.1, others.2)

end

/-- The operands whose text is neither in `seen` nor that of an operand before. -/
def firstOccurrences (seen : List String) : List (Operand Node) → List (Operand Node)
  | [] => []
  | operand :: rest =>
    let text := Term.operandText (operandTerm operand)
    if text ∈ seen then firstOccurrences seen rest
    else operand :: firstOccurrences (text :: seen) rest

/-- Whether the terms among some operands are the very same as those among others. -/
def unchanged (before after : List (Operand Node)) : Bool :=
  (before.zip after).all fun
    | (.term x, .term y) => x.number == y.number
    | _ => true

/-- What a node is simplified to if `kept` is left of its operands: a single operand that is a term,
or the node itself if nothing has changed, or else a new node. -/
def settle (number : Nat) (op : Operator) (operands kept : List (Operand Node)) (next : Nat) :
    Node × Nat :=
  match kept with
  | [.term x] => (x, next)
  | kept =>
    if kept.length = operands.length ∧ unchanged operands kept = true then
      (mk number op operands, next)
    else (mk next op kept, next + 1)

mutual

/-- What a node is simplified to, where `next` is the number for the next new node, and the number
after those that were taken. -/
def simplify : Node → Nat → Node × Nat
  | mk number op operands, next =>
    match op with
    | .and =>
      let simple := simplifyOperands operands next
      settle number .and operands (firstOccurrences [] simple.1) simple.2
    | .or =>
      let simple := simplifyOperands operands next
      settle number .or operands (firstOccurrences [] simple.1) simple.2
    | op => (mk number op operands, next)

def simplifyOperand : Operand Node → Nat → Operand Node × Nat
  | .term x, next =>
    let simple := simplify x next
    (.term simple.1, simple.2)
  | operand, next => (operand, next)

def simplifyOperands : List (Operand Node) → Nat → List (Operand Node) × Nat
  | [], next => ([], next)
  | operand :: rest, next =>
    let first := simplifyOperand operand next
    let others := simplifyOperands rest first.2
    (first.1 :: others.1, others.2)

end

end Node

/-- Whether simplifying a term gives the very same node. -/
def Term.staysItself (t : Term) : Bool :=
  let made := Node.ofTerm t 0
  (made.1.simplify made.2).1.number == made.1.number

end Annals
