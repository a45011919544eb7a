import Annals.Proofs.Eval.Simplified
import Annals.Proofs.Eval.Transparency

/-!
# What operands give when everything is computed anew

`Term.given` is what an operand gives on a subject, with a list of all facts and without any memory.
It depends on less than it is told.

* `Term.joining_given`: conjunctions and disjunctions join what their operands give.
* `Term.evaluateWith_single`: a term of which no aggregate is computed looks at its subject alone,
  and gives the same whatever the other facts are. Every operator but the aggregates looks at
  nothing but the results of its operands (`Operation.perform_settled`), so that this is an
  induction on the term.
-/

set_option autoImplicit false

namespace Annals

theorem Operation.outcome_eq {α : Type} (r : Except Error α) :
    (Operation.outcome r : Except Error α) = r := by
  cases r <;> rfl

namespace Term

variable (scene : Scene) (s : Subject) (all : List FactId)

/-- What an operand gives on a subject, with nothing kept and nothing remembered. -/
def given (operand : Operand Term) : Except Error Datum :=
  resolve scene direct operand (.root 0) s all

/-- The place of an operand does not matter. -/
theorem resolve_direct (operand : Operand Term) (a : Address) :
    resolve scene direct operand a s all = given scene s all operand := by
  cases operand with
  | literal v => rfl
  | symbol name => rfl
  | term t => exact evaluateWith_direct_congr scene t a (.root 0) all (.refl _ s)

theorem truthOf_direct (operand : Operand Term) (a : Address) :
    Operation.truthOf s all ⟨operand, resolve scene direct operand a⟩
      = truthIn (given scene s all) operand := by
  simp only [Operation.truthOf, truthIn, resolve_direct, Operation.outcome_eq]

theorem conjunction_direct (a : Address) (position : Nat) (operands : List (Operand Term)) :
    Operation.conjunction s all (arguments scene direct a position operands)
      = joined (given scene s all) false operands := by
  induction operands generalizing position with
  | nil => rfl
  | cons operand rest ih =>
    rw [arguments, Operation.conjunction, truthOf_direct, joined]
    refine congrArg _ (funext fun b => ?_)
    cases b with
    | false => rfl
    | true => exact ih (position + 1)

theorem disjunction_direct (a : Address) (position : Nat) (operands : List (Operand Term)) :
    Operation.disjunction s all (arguments scene direct a position operands)
      = joined (given scene s all) true operands := by
  induction operands generalizing position with
  | nil => rfl
  | cons operand rest ih =>
    rw [arguments, Operation.disjunction, truthOf_direct, joined]
    refine congrArg _ (funext fun b => ?_)
    cases b with
    | false => exact ih (position + 1)
    | true => rfl

theorem named_eq_ok {t : Term} {result : Except Error Datum} {d : Datum} :
    named t result = .ok d ↔ result = .ok d := by
  cases result with
  | ok x => exact Iff.rfl
  | error e => constructor <;> intro failed <;> cases failed

/-- Conjunctions and disjunctions give the truth value that their operands are joined to. -/
theorem joining_given : Joining (given scene s all) := by
  intro op joins operands d
  rcases joins with rfl | rfl
  · rw [given, resolve, evaluateWith]
    refine named_eq_ok.trans ?_
    simp only [Operation.perform, op, conjunction_direct]
    exact bind_pure_eq_ok
  · rw [given, resolve, evaluateWith]
    refine named_eq_ok.trans ?_
    simp only [Operation.perform, op, disjunction_direct]
    exact bind_pure_eq_ok

end Term

/-! ### Terms without aggregates -/

section Settled

variable {m : Type → Type}

/-- An argument with the result that it has on a subject with some facts, whatever it is asked. -/
def Argument.settled (s : Subject) (all : List FactId) (a : Argument m) : Argument m :=
  ⟨a.operand, fun _ _ => a.value s all⟩

namespace Operation

variable [MonadExceptOf Error m]

theorem nullary_map (op : Operator) (f : Argument m → Argument m) (args : List (Argument m))
    (action : m Datum) : nullary op (args.map f) action = nullary op args action := by
  cases args with
  | nil => rfl
  | cons a rest => simp only [nullary, List.map_cons, List.length_cons, List.length_map]

theorem unary_map (op : Operator) (f : Argument m → Argument m) (args : List (Argument m))
    (action : Argument m → m Datum) :
    unary op (args.map f) action = unary op args fun a => action (f a) := by
  match args with
  | [] => rfl
  | [_] => rfl
  | _ :: _ :: _ => simp only [unary, List.map_cons, List.length_cons, List.length_map]

theorem binary_map (op : Operator) (f : Argument m → Argument m) (args : List (Argument m))
    (action : Argument m → Argument m → m Datum) :
    binary op (args.map f) action = binary op args fun a b => action (f a) (f b) := by
  match args with
  | [] => rfl
  | [_] => rfl
  | [_, _] => rfl
  | _ :: _ :: _ :: _ => simp only [binary, List.map_cons, List.length_cons, List.length_map]

variable [Monad m] (scene : Scene) (strategy : Strategy m) (s : Subject) (all : List FactId)

theorem conjunction_settled (args : List (Argument m)) :
    conjunction s [] (args.map (.settled s all)) = conjunction s all args := by
  induction args with
  | nil => rfl
  | cons a rest ih => simp only [List.map_cons, conjunction, ih, truthOf, Argument.settled]

theorem disjunction_settled (args : List (Argument m)) :
    disjunction s [] (args.map (.settled s all)) = disjunction s all args := by
  induction args with
  | nil => rfl
  | cons a rest ih => simp only [List.map_cons, disjunction, ih, truthOf, Argument.settled]

/-- An operator that is no aggregate sees of the facts what its operands give, and nothing else. -/
theorem perform_settled [LawfulMonad m] {t : Term} (single : t.op.isAggregate = false)
    (a : Address) (args : List (Argument m)) :
    perform scene strategy s all t a args
      = perform scene strategy s [] t a (args.map (.settled s all)) := by
  unfold perform
  cases op : t.op with
  | min | max | count | agg =>
    rw [op] at single
    cases single
  | always | never =>
    dsimp only
    rw [nullary_map]
  | and =>
    dsimp only
    rw [conjunction_settled]
  | or =>
    dsimp only
    rw [disjunction_settled]
  | not | present | absent | size | type | prev | traced =>
    dsimp only
    rw [unary_map]
    rfl
  | when | nth | either | eq | lt | gt | fits =>
    dsimp only
    rw [binary_map]
    rfl
  | custom name =>
    simp only [defined, List.mapM_map]
    rfl

end Operation

/-- What is answered for aggregates does not depend on what would be computed. -/
def Strategy.Recalls (strategy : Strategy m) : Prop :=
  ∀ (t : Term) (a : Address) (s : Subject) (x y : m Datum), t.op.isAggregate = true →
    strategy.answer t a s x = strategy.answer t a s y

namespace Term

variable [Monad m] [MonadExceptOf Error m]
variable (scene : Scene) (strategy : Strategy m) (s : Subject) (all all' : List FactId)

mutual

/-- A term of which no aggregate is computed gives the same whatever the other facts are. -/
theorem evaluateWith_single [LawfulMonad m] : ∀ t : Term,
    strategy.Recalls ∨ t.anyOperator Operator.isAggregate = false → ∀ a : Address,
      t.evaluateWith scene strategy a s all = t.evaluateWith scene strategy a s all'
  | node op operands, single, a => by
    rw [evaluateWith, evaluateWith]
    cases aggregate : (node op operands).op.isAggregate with
    | true =>
      rcases single with recalls | single
      · exact recalls _ a s _ _ aggregate
      · rw [anyOperator, Bool.or_eq_false_iff] at single
        cases aggregate.symm.trans single.1
    | false =>
      have inner : strategy.Recalls ∨ anyOperatorIn Operator.isAggregate operands = false := by
        refine single.imp_right fun single => ?_
        rw [anyOperator, Bool.or_eq_false_iff] at single
        exact single.2
      have settled := fun all => Operation.perform_settled scene strategy s all aggregate a
        (arguments scene strategy a 0 operands)
      rw [settled all, settled all', arguments_single operands inner]

theorem arguments_single [LawfulMonad m] : ∀ operands : List (Operand Term),
    strategy.Recalls ∨ anyOperatorIn Operator.isAggregate operands = false →
      ∀ (a : Address) (position : Nat),
        (arguments scene strategy a position operands).map (Argument.settled s all)
          = (arguments scene strategy a position operands).map (Argument.settled s all')
  | [], _, _, _ => rfl
  | operand :: rest, single, a, position => by
    have both : strategy.Recalls ∨ anyOperatorOf Operator.isAggregate operand = false
        ∧ anyOperatorIn Operator.isAggregate rest = false := by
      refine single.imp_right fun single => ?_
      rwa [anyOperatorIn, Bool.or_eq_false_iff] at single
    simp only [arguments, List.map_cons, Argument.settled]
    rw [resolve_single operand (both.imp_right And.left)]
    exact congrArg _ (arguments_single rest (both.imp_right And.right) a (position + 1))

theorem resolve_single [LawfulMonad m] : ∀ operand : Operand Term,
    strategy.Recalls ∨ anyOperatorOf Operator.isAggregate operand = false → ∀ a : Address,
      resolve scene strategy operand a s all = resolve scene strategy operand a s all'
  | .literal _, _, _ => rfl
  | .symbol _, _, _ => rfl
  | .term t, single, a => evaluateWith_single t single a

end

end Term

end Settled

end Annals
