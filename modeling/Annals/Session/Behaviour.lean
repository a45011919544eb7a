import Annals.Eval.Registry

/-!
# Ready-made operators

Operators that a session can define under names of its choice. Each is a function of the results
of its operands.
-/

set_option autoImplicit false

namespace Annals

/-- What a ready-made operator does. -/
inductive Behaviour where
  | twice
  /-- Tell whether all values are even integers. -/
  | even
  | listing
  | echo
  /-- Collect the values of all operands. -/
  | gather
  /-- Give a list without a value. -/
  | hollow
  /-- Fail with the number of operands. -/
  | fail
  /-- Fail like an operator that is not defined. -/
  | undefined
  /-- Fail with an error that names a term. -/
  | elsewhere
  deriving DecidableEq

namespace Behaviour

/-- An integer doubled, if that fits into 64 bits. -/
def double? (v : Value) : Option Value :=
  match v with
  | .int n =>
    let d := 2 * n.toInt
    if Int64.minValue.toInt ≤ d ∧ d ≤ Int64.maxValue.toInt then some (.int (Int64.ofInt d))
    else none
  | _ => none

def isEven : Value → Bool
  | .int n => n.toInt % 2 == 0
  | _ => false

/-- The operator that does it. -/
def meaning : Behaviour → CustomOperator
  | twice, operands =>
    match (operands.head?.bind (·.toList.head?)).bind double? with
    | some v => .ok (.single v)
    | none => .error (.type (.stated "integer expected"))
  | even, operands =>
    .ok (.bool (match operands with
      | [] => false
      | d :: _ => d.toList.all isEven))
  | listing, operands =>
    .ok (.single (.str ("<" ++ String.intercalate "|" (operands.map Datum.text) ++ ">")))
  | echo, operands => .ok (operands.head?.getD .nil)
  | gather, operands => .ok (.ofValues (operands.flatMap Datum.toList))
  | hollow, _ => .ok (.values [])
  | fail, operands => .error (.notFound (toString operands.length ++ " operands"))
  | undefined, _ => .error (.undefinedOperator "ghost" "(ghost)")
  | elsewhere, _ => .error ((Error.type (.stated "deep")).within "(elsewhere)")

end Behaviour

end Annals
