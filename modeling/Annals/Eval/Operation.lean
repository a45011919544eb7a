import Annals.Eval.Registry
import Annals.Event
import Annals.Fact.View
import Annals.Pattern.Reader

/-!
# What the operators do

The meaning of every operator, in any monad in which terms can be evaluated. An operator gets its
operands as arguments, each of which is an action that evaluates it, and decides which of them it
runs and on what. Everything else that an operator needs from the evaluation around it is in a
`Strategy`.

The number of operands is checked first, then that an operand is a symbol or a term where it has
to be one, and then operands are evaluated from left to right.
-/

set_option autoImplicit false

namespace Annals

/-- The place of a term in a pass: the positions of operands on the way from the term up to a
root, and the number of the root. -/
structure Address where
  /-- The positions, from the term up. -/
  path : List Nat
  deriving DecidableEq, Inhabited

namespace Address

/-- The place of the root of a number. -/
def root (number : Nat) : Address := ⟨[number]⟩

/-- The place of an operand of the term at a place. -/
def operand (address : Address) (position : Nat) : Address := ⟨position :: address.path⟩

end Address

/-- What the operators see of a store. -/
structure Scene where
  /-- The operators outside of the catalogue. -/
  registry : Registry
  contents : Contents

/-- How terms are evaluated in a monad. -/
structure Strategy (m : Type → Type) where
  /-- The result of the term at a place on a subject, where the action computes it. -/
  answer : Term → Address → Subject → m Datum → m Datum
  /-- Remember a result for the term at a place, and give what was remembered before. -/
  exchange : Address → Datum → m Datum
  report : Event → m Unit
  /-- An identity for a view without a fact. -/
  vacant : m Identity

/-- An operand as an operator gets it. -/
structure Argument (m : Type → Type) where
  operand : Operand Term
  /-- Its evaluation on a subject, with a list of all facts. -/
  value : Subject → List FactId → m Datum

/-- The name of a symbol, where nothing else will do. -/
def Operand.symbolAt (position : Nat) : Operand Term → Except Error String
  | .symbol name => .ok name
  | operand => .error (.type (.symbolExpectedAt position (Term.operandText operand)))

/-- The name of the symbol of an extremum. -/
def Operand.extremumSymbol : Operand Term → Except Error String
  | .symbol name => .ok name
  | operand => .error (.type (.symbolExpected (Term.operandText operand)))

/-- The term in an operand, where nothing else will do. -/
def Operand.nested : Operand Term → Except Error Term
  | .term t => .ok t
  | operand => .error (.type (.termExpected (Term.operandText operand)))

/-- An error of a computation, if it fails, with the text of a term. -/
def withinTerm {α : Type} (t : Term) : Except Error α → Except Error α
  | .ok x => .ok x
  | .error e => .error (e.within t.text)

/-- The kind of the values of a property, as a query reports it. -/
def kindOfHistory : Option (List Value) → String
  | none => "nil"
  | some [] => "nil"
  | some [v] => v.kind
  | some _ => "Array"

/-- The value at an index, if there is one. -/
def valueAt? (values : List Value) (index : Int64) : Option Value :=
  if index < 0 then none else values[index.toInt.toNat]?

/-- The value that a new one leaves as the best, where `wanted` is how a better one compares. -/
def better (wanted : Ordering) (best : Option Value) (v : Value) : Option Value :=
  match best with
  | none => some v
  | some b => if v.compare? b = some wanted then some v else some b

/-- The best of the values in a list, of which those that compare with no best are skipped. -/
def extremum (wanted : Ordering) (values : List Value) : Option Value :=
  values.foldl (better wanted) none

/-- The values of a property in all facts of a list, in their order. -/
def historyOver (contents : Contents) (name : String) (facts : List FactId) : List Value :=
  facts.flatMap fun id => ((contents id).get? name).getD []

/-- Whether some value on the left compares as wanted with some value on the right. -/
def anyPair (wanted : Ordering) (lefts rights : List Value) : Bool :=
  lefts.any fun v => rights.any fun w => v.compare? w == some wanted

namespace Operation

variable {m : Type → Type} [Monad m] [MonadExceptOf Error m]

/-- The outcome of a computation outside of the monad. -/
def outcome {α : Type} : Except Error α → m α
  | .ok x => pure x
  | .error e => throw e

/-- Do something without operands. -/
def nullary (op : Operator) (args : List (Argument m)) (action : m Datum) : m Datum :=
  match args with
  | [] => action
  | _ => throw (.arity op.name 0 args.length)

/-- Do something with one operand. -/
def unary (op : Operator) (args : List (Argument m)) (action : Argument m → m Datum) : m Datum :=
  match args with
  | [a] => action a
  | _ => throw (.arity op.name 1 args.length)

/-- Do something with two operands. -/
def binary (op : Operator) (args : List (Argument m))
    (action : Argument m → Argument m → m Datum) : m Datum :=
  match args with
  | [a, b] => action a b
  | _ => throw (.arity op.name 2 args.length)

variable (scene : Scene) (strategy : Strategy m) (subject : Subject) (all : List FactId)

def truthOf (a : Argument m) : m Bool := do
  outcome (← a.value subject all).truth

/-- Whether all operands are true; none is evaluated after a false one. -/
def conjunction : List (Argument m) → m Bool
  | [] => pure true
  | a :: rest => do
    if ← truthOf subject all a then conjunction rest else pure false

/-- Whether some operand is true; none is evaluated after a true one. -/
def disjunction : List (Argument m) → m Bool
  | [] => pure false
  | a :: rest => do
    if ← truthOf subject all a then pure true else disjunction rest

/-- The values of the property that an operand names. -/
def property (a : Argument m) : m (Option (List Value)) := do
  let name ← outcome (a.operand.symbolAt 0)
  return subject.lookup scene.contents name

/-- One value out of those of the second operand, by the index in the first. -/
def nth (index values : Argument m) : m Datum := do
  let i ← index.value subject all
  match i.toList with
  | [.int i] =>
    let vs ← values.value subject all
    return ((valueAt? vs.toList i).map Datum.single).getD .nil
  | _ => throw (.type (.indexExpected i.text))

/-- The first operand, or the second if the first has no result. -/
def either (first second : Argument m) : m Datum := do
  let d ← first.value subject all
  if d.isNil then second.value subject all else return d

/-- Whether the results of two operands are equal; no result equals nothing. -/
def equality (left right : Argument m) : m Datum := do
  let l ← left.value subject all
  if l.isNil then return .bool false
  let r ← right.value subject all
  return .bool (l.equals r)

/-- Whether the results of two operands compare as wanted. -/
def comparison (wanted : Ordering) (left right : Argument m) : m Datum := do
  let some lefts ← outcome (← left.value subject all).operands? | return .bool false
  let some rights ← outcome (← right.value subject all).operands? | return .bool false
  return .bool (anyPair wanted lefts rights)

/-- Whether the text of the first operand contains a match of the pattern in the second. -/
def fits (text pattern : Argument m) : m Datum := do
  let t ← text.value subject all
  if t.isNil then return .bool false
  let some content := t.oneText? | throw (.type .oneTextExpected)
  let p ← pattern.value subject all
  if p.isNil then throw (.type .noPattern)
  let some source := p.oneText? | throw (.type .onePatternExpected)
  let some compiled := Pattern.ofText? source | throw .pattern
  return .bool (compiled.isFoundIn content)

/-- The extremum of a property over all facts. -/
def best (wanted : Ordering) (a : Argument m) : m Datum := do
  let name ← outcome a.operand.extremumSymbol
  return ((extremum wanted (historyOver scene.contents name all)).map Datum.single).getD .nil

/-- The subject that a selector sees: a fact, in front of the parameters if there are any. -/
def candidate (parameters : Option Backing) (id : FactId) : Subject :=
  match parameters with
  | none => .fact id
  | some backing => .view ⟨.fact id, backing⟩

/-- The facts of a list that a selector accepts. -/
def select (selector : Argument m) (t : Term) (parameters : Option Backing) :
    List FactId → m (List FactId)
  | [] => pure []
  | id :: rest => do
    let d ← selector.value (candidate parameters id) all
    let keep ← outcome (withinTerm t d.truth)
    let kept ← select selector t parameters rest
    return if keep then id :: kept else kept

/-- The body on the first of the facts that the selector accepts, with those facts as all facts. -/
def aggregation (selector body : Argument m) : m Datum := do
  let t ← outcome selector.operand.nested
  let _ ← outcome body.operand.nested
  let kept ← select all selector t subject.parameters all
  let front ← match kept with
    | id :: _ => pure (.fact id)
    | [] => strategy.vacant
  body.value (.view ⟨front, subject.parameters.getD (.params .empty)⟩) kept

/-- The operand, which has to be a term, with a report of its result. -/
def tracing (a : Argument m) : m Datum := do
  let t ← outcome a.operand.nested
  let d ← a.value subject all
  strategy.report (.traced t d)
  return d

/-- An operator outside of the catalogue, on the results of all operands. -/
def defined (t : Term) (name : String) (args : List (Argument m)) : m Datum := do
  let some meaning := scene.registry.get? name | throw (.undefinedOperator name t.text)
  let results ← args.mapM fun a => a.value subject all
  outcome (meaning results)

/-- The result of a term whose operands are given as arguments. -/
def perform (t : Term) (address : Address) (args : List (Argument m)) : m Datum :=
  match t.op with
  | .always => nullary t.op args (pure (.bool true))
  | .never => nullary t.op args (pure (.bool false))
  | .not => unary t.op args fun a => return .bool !(← truthOf subject all a)
  | .and => return .bool (← conjunction subject all args)
  | .or => return .bool (← disjunction subject all args)
  | .when => binary t.op args fun a b => do
      if ← truthOf subject all a then return .bool (← truthOf subject all b)
      else return .bool true
  | .present => unary t.op args fun a => return .bool (← property scene subject a).isSome
  | .absent => unary t.op args fun a => return .bool (← property scene subject a).isNone
  | .size => unary t.op args fun a => do
      let history ← property scene subject a
      return .single (.int (Int64.ofNat (history.map List.length |>.getD 0)))
  | .type => unary t.op args fun a =>
      return .single (.str (kindOfHistory (← property scene subject a)))
  | .nth => binary t.op args (nth subject all)
  | .either => binary t.op args (either subject all)
  | .prev => unary t.op args fun a => do strategy.exchange address (← a.value subject all)
  | .eq => binary t.op args (equality subject all)
  | .lt => binary t.op args (comparison subject all .lt)
  | .gt => binary t.op args (comparison subject all .gt)
  | .fits => binary t.op args (fits subject all)
  | .min => unary t.op args (best scene all .lt)
  | .max => unary t.op args (best scene all .gt)
  | .count => nullary t.op args (pure (.single (.int (Int64.ofNat all.length))))
  | .agg => binary t.op args (aggregation strategy subject all)
  | .traced => unary t.op args (tracing strategy subject all)
  | .custom name => defined scene subject all t name args

end Operation

end Annals
