import Annals.Proofs.Eval.Places
import Annals.Session.Evaluations

/-!
# Calls about terms that share nodes

A call asks for the result of a term, or for its truth value. `Call.answers` are the answers to
calls about any terms, one after the other in one state. In a pass where every place has a node of
its own a call is an evaluation, a test or a verdict (`Call.answer_eq_ask`).
-/

set_option autoImplicit false

namespace Annals

/-- What is asked about a term. -/
inductive Question where
  | result
  /-- The truth value, where no result counts as false. -/
  | test
  /-- The truth value, which has to be there. -/
  | verdict

/-- The answer that the result of a term gives. -/
def Question.judge (t : Term) (d : Datum) : Question → Except Error Session.PassAnswer
  | result => .ok (.result d)
  | test => (withinTerm t d.truth).map .flag
  | verdict => (withinTerm t d.decision).map .flag

/-- A question about a term on a subject, with what the facts hold at the time. -/
structure Call extends Session.Evaluation where
  question : Question
  scene : Scene

namespace Call

open Session (PassAnswer)

def answer {m : Type → Type} [Monad m] [MonadExceptOf Error m] (strategy : Strategy m)
    (call : Call) : m PassAnswer := do
  let d ← call.term.evaluateWith call.scene strategy (.root call.root) call.subject call.all
  Operation.outcome (call.question.judge call.term d)

/-- The answer in a pass, where every place has a node of its own. -/
def ask (tracing : Bool) (call : Call) : Memo PassAnswer :=
  match call.question with
  | .result =>
    .result <$> call.term.evaluate call.scene tracing call.root call.subject call.all
  | .test => .flag <$> call.term.test call.scene tracing call.root call.subject call.all
  | .verdict => .flag <$> call.term.verdict call.scene tracing call.root call.subject call.all

theorem answer_eq_ask (tracing : Bool) (call : Call) :
    call.answer ((Memo.strategy tracing).shared .none) = call.ask tracing := by
  have mapped : ∀ {α β : Type} (f : α → β) (r : Except Error α),
      (Operation.outcome (r.map f) : Memo β) = f <$> Operation.outcome r := by
    intro α β f r
    cases r <;> rfl
  unfold ask answer
  cases call.question with
  | result =>
    rw [map_eq_pure_bind]
    rfl
  | test =>
    unfold Term.test
    rw [map_bind]
    apply bind_congr
    intro d
    exact mapped _ _
  | verdict =>
    unfold Term.verdict
    rw [map_bind]
    apply bind_congr
    intro d
    exact mapped _ _

/-- The answers to calls, one after the other, and what state they leave. After a failure the next
call goes on. -/
def answers {σ : Type} (strategy : Strategy (ExceptT Error (StateM σ))) :
    List Call → σ → List (Except Error PassAnswer) × σ
  | [], s => ([], s)
  | call :: rest, s =>
    let first := (call.answer strategy).run s
    let others := answers strategy rest first.2
    (first.1 :: others.1, others.2)

theorem answers_append {σ : Type} (strategy : Strategy (ExceptT Error (StateM σ)))
    (calls later : List Call) (s : σ) :
    (answers strategy (calls ++ later) s).2 =
      (answers strategy later (answers strategy calls s).2).2 := by
  induction calls generalizing s with
  | nil => rfl
  | cons call rest ih => exact ih _

end Call

end Annals
