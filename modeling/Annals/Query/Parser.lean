import Annals.Error
import Annals.Query.Term

/-!
# Reading terms

The tokens of a query are read from left to right with the list of the groups that are open; a
closing parenthesis completes the innermost one. What becomes of a complete group is left to a
`Factory`, so that terms, counts of terms and other things can be read by one reader.

* `Factory.operandOf` reads the first complete operand.
* `Factory.ofTokens` reads a list of tokens that is exactly one term.
* `Term.ofQuery` reads a query and simplifies the term.
-/

set_option autoImplicit false

namespace Annals

/-- A builder of terms of type `N`. -/
structure Factory (N : Type) where
  /-- What becomes of an operator and its operands. -/
  make : Operator → List (Operand N) → Except Error N
  /-- What is done to the term at the root, once. -/
  finish : N → N

/-- A group that is open; its operands are held backwards. -/
structure OpenGroup (N : Type) where
  op : Operator
  /-- The operands read so far, the last one first. -/
  operands : List (Operand N)

namespace Factory

variable {N : Type}

/-- The operand that a token stands for by itself. -/
def atom? : Token → Option (Operand N)
  | .symbol name => some (.symbol name)
  | token => token.literal?.map .literal

/-- Read tokens until the outermost operand is complete.

The result is the operand, the position after it and the tokens after it. -/
def operandOf (factory : Factory N) (limit : Nat) :
    Nat → List (OpenGroup N) → List Token → Except ParseFault (Operand N × Nat × List Token)
  | position, _, [] => .error (.endOfTokens position)
  | position, groups, .opening :: rest =>
    if limit ≤ groups.length then .error (.tooDeep limit position)
    else
      match rest with
      | [] => .error (.endOfTokens (position + 1))
      | .closing :: _ => .error (.noOperator (position + 1))
      | .symbol name :: rest =>
        factory.operandOf limit (position + 2) (⟨.ofName name, []⟩ :: groups) rest
      | found :: _ => .error (.operatorExpected (position + 1) found)
  | position, [], .closing :: _ => .error (.closingTooSoon position)
  | position, group :: groups, .closing :: rest =>
    match factory.make group.op group.operands.reverse, groups with
    | .error e, _ => .error (.rejected e.message)
    | .ok node, [] => .ok (.term node, position + 1, rest)
    | .ok node, outer :: groups =>
      factory.operandOf limit (position + 1)
        (⟨outer.op, .term node :: outer.operands⟩ :: groups) rest
  | position, groups, token :: rest =>
    match atom? token, groups with
    | none, _ => .error (.endOfTokens position)
    | some operand, [] => .ok (operand, position + 1, rest)
    | some operand, group :: groups =>
      factory.operandOf limit (position + 1)
        (⟨group.op, operand :: group.operands⟩ :: groups) rest

/-- Read tokens that are exactly one term, nested at most `limit` deep. -/
def ofTokens (factory : Factory N) (limit : Nat) (tokens : List Token) : Except ParseFault N :=
  if tokens.isEmpty then .error .noTokens
  else
    match factory.operandOf limit 0 [] tokens with
    | .error fault => .error fault
    | .ok (root, position, rest) =>
      if !rest.isEmpty then .error (.tooManyTerms position tokens.length)
      else
        match root with
        | .term node => .ok (factory.finish node)
        | _ => .error .notATerm

/-- Read the text of a query; the result comes with the number of its tokens. -/
def ofQuery (factory : Factory N) (limit : Nat) (query : String) : Except Error (N × Nat) :=
  match Token.ofQuery query with
  | .error fault => .error (.token fault query)
  | .ok tokens =>
    match factory.ofTokens limit tokens with
    | .error fault => .error (.parse fault query tokens)
    | .ok node => .ok (node, tokens.length)

/-- The builder of terms as they are written. -/
def verbatim : Factory Term where
  make op operands := .ok (.node op operands)
  finish t := t

/-- The builder of terms that simplifies the root. -/
def simplifying : Factory Term where
  make op operands := .ok (.node op operands)
  finish t := t.simplify

/-- The number of terms in an operand, where nested terms are numbers. -/
def operandCount : Operand Nat → Nat
  | .term n => n
  | _ => 0

/-- The builder that counts terms, and refuses those of some operators. -/
def counting (forbidden : List String) : Factory Nat where
  make op operands :=
    if op.name ∈ forbidden then .error (.arity op.name 1 operands.length)
    else .ok (operands.foldr (fun operand n => operandCount operand + n) 1)
  finish n := n

end Factory

namespace Term

/-- The depth of nesting that a query may have unless a store is configured otherwise. -/
def defaultDepth : Nat := 256

/-- The simplified term of a query, with the number of its tokens. -/
def ofQuery (limit : Nat) (query : String) : Except Error (Term × Nat) :=
  Factory.simplifying.ofQuery limit query

end Term

end Annals
