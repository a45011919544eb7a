import Annals.Eval.Evaluation

/-!
# Passes

A pass evaluates terms on one subject after the other and computes no result twice. The result of
an aggregate belongs to its place alone, because it looks at all facts; every other result belongs
to its place and the identity of the subject. Only results are kept: what failed is tried again.
-/

set_option autoImplicit false

namespace Annals

/-- What a result is kept under. -/
inductive Key where
  /-- The place of a term and the identity of the subject. -/
  | onSubject (address : Address) (identity : Identity)
  | overAll (address : Address)
  deriving DecidableEq

/-- The key for the result of the term at a place on a subject. -/
def Key.of (t : Term) (address : Address) (subject : Subject) : Key :=
  if t.op.isAggregate then overAll address else onSubject address subject.identity

/-- What a pass knows. -/
structure Pass where
  /-- The results so far, the latest first. -/
  results : List (Key × Datum)
  /-- The latest operand of every term that gives the one before, the latest first. -/
  remembered : List (Address × Datum)
  hits : Nat
  /-- How many results were not found. -/
  misses : Nat
  /-- The number for the next view without a fact. -/
  nextVacant : Nat
  /-- What was reported, the latest first. -/
  events : List Event

namespace Pass

/-- A pass that knows nothing; the views with a number below `vacant` are not of its making. -/
def start (vacant : Nat) : Pass := ⟨[], [], 0, 0, vacant, []⟩

instance : Inhabited Pass := ⟨start 0⟩

def reported (pass : Pass) (event : Event) : Pass :=
  { pass with events := event :: pass.events }

def hit (pass : Pass) : Pass := { pass with hits := pass.hits + 1 }

/-- The pass after a result was not found. -/
def missed (pass : Pass) : Pass := { pass with misses := pass.misses + 1 }

def keep (pass : Pass) (key : Key) (result : Datum) : Pass :=
  { pass with results := (key, result) :: pass.results }

/-- The pass that remembers the operand of a term. -/
def remember (pass : Pass) (address : Address) (operand : Datum) : Pass :=
  { pass with remembered := (address, operand) :: pass.remembered }

/-- The pass after a view without a fact was made. -/
def tookVacant (pass : Pass) : Pass := { pass with nextVacant := pass.nextVacant + 1 }

def size (pass : Pass) : Nat := pass.results.length

end Pass

/-- A computation in a pass; the pass goes on after a failure. -/
abbrev Memo := ExceptT Error (StateM Pass)

namespace Memo

def report (event : Event) : Memo Unit := modify (·.reported event)

/-- The evaluation that keeps results; `tracing` tells whether it reports what it computes. -/
def strategy (tracing : Bool) : Strategy Memo where
  answer t address subject action := do
    let key := Key.of t address subject
    match (← get).results.lookup key with
    | some result =>
      modify Pass.hit
      return result
    | none =>
      modify Pass.missed
      let result ← action
      if tracing then report (.termEvaluated t result)
      modify (·.keep key result)
      return result
  exchange address operand := do
    let before := (← get).remembered.lookup address
    modify (·.remember address operand)
    return before.getD .nil
  report := report
  vacant := do
    let number := (← get).nextVacant
    modify Pass.tookVacant
    return .vacant number

section

variable {σ α β : Type} (s : σ)

/-- The second part of a computation with a state goes on with the state that the first part leaves,
unless that failed. -/
theorem run_bind (a : ExceptT Error (StateM σ) α) (f : α → ExceptT Error (StateM σ) β) :
    (a >>= f).run s = match a.run s with
      | (.ok x, s) => (f x).run s
      | (.error e, s) => (.error e, s) := by
  unfold ExceptT.run
  simp only [bind, ExceptT.bind, ExceptT.mk, StateT.bind, ExceptT.bindCont]
  cases a s with
  | mk result s => cases result <;> rfl

/-- Naming the term that failed leaves the state to the computation. -/
theorem run_named (t : Term) (a : ExceptT Error (StateM σ) Datum) :
    (Term.named t a).run s = match a.run s with
      | (.ok d, s) => (.ok d, s)
      | (.error e, s) => (.error (e.within t.text), s) := by
  unfold Term.named ExceptT.run
  simp only [tryCatch, tryCatchThe, MonadExceptOf.tryCatch, ExceptT.tryCatch, bind, ExceptT.mk,
    StateT.bind]
  cases a s with
  | mk result s => cases result <;> rfl

/-- What is computed outside of the state leaves the state alone. -/
theorem run_outcome (r : Except Error α) :
    (Operation.outcome r : ExceptT Error (StateM σ) α).run s = (r, s) := by
  cases r with
  | ok x => rfl
  | error e => rfl

/-- What is computed from a result outside of the state leaves the state to the first part. -/
theorem run_bind_outcome (a : ExceptT Error (StateM σ) α) (f : α → Except Error β) :
    (a >>= fun x => Operation.outcome (f x)).run s = ((a.run s).1 >>= f, (a.run s).2) := by
  rw [run_bind]
  rcases a.run s with ⟨result, next⟩
  cases result with
  | ok x => exact run_outcome next (f x)
  | error e => rfl

end

section

variable (pass : Pass)

/-- A kept result is given again; what is computed is kept under its key unless it fails. -/
theorem run_answer (tracing : Bool) (t : Term) (address : Address) (subject : Subject)
    (action : Memo Datum) :
    ((strategy tracing).answer t address subject action).run pass =
      match pass.results.lookup (Key.of t address subject) with
      | some d => (.ok d, pass.hit)
      | none =>
        match action.run pass.missed with
        | (.ok d, pass) =>
          (.ok d, (if tracing then pass.reported (.termEvaluated t d) else pass).keep
            (Key.of t address subject) d)
        | (.error e, pass) => (.error e, pass) := by
  unfold strategy
  dsimp only
  rw [run_bind]
  show (match pass.results.lookup (Key.of t address subject) with
    | some _ => _
    | none => _ : Memo Datum).run pass = _
  cases pass.results.lookup (Key.of t address subject) with
  | some d => rfl
  | none =>
    dsimp only
    rw [run_bind]
    show ExceptT.run (action >>= _) pass.missed = _
    rw [run_bind]
    cases action.run pass.missed with
    | mk result pass =>
      cases result with
      | error e => rfl
      | ok d => cases tracing <;> rfl

/-- A view without a fact takes the next number. -/
theorem run_vacant (tracing : Bool) :
    (strategy tracing).vacant.run pass = (.ok (.vacant pass.nextVacant), pass.tookVacant) := rfl

end

end Memo

namespace Term

variable (scene : Scene) (tracing : Bool) (t : Term) (root : Nat)
variable (subject : Subject) (all : List FactId)

def evaluate : Memo Datum :=
  evaluateWith scene (Memo.strategy tracing) t (.root root) subject all

/-- The truth value of a root term, where no result counts as false. -/
def test : Memo Bool := do
  let result ← evaluate scene tracing t root subject all
  Operation.outcome (withinTerm t result.truth)

/-- The truth value of a root term, which has to be there. -/
def verdict : Memo Bool := do
  let result ← evaluate scene tracing t root subject all
  Operation.outcome (withinTerm t result.decision)

variable (pass : Pass)

theorem run_test : (test scene tracing t root subject all).run pass =
    (((evaluate scene tracing t root subject all).run pass).1 >>= fun d => withinTerm t d.truth,
      ((evaluate scene tracing t root subject all).run pass).2) :=
  Memo.run_bind_outcome pass _ _

theorem run_verdict : (verdict scene tracing t root subject all).run pass =
    (((evaluate scene tracing t root subject all).run pass).1 >>= fun d => withinTerm t d.decision,
      ((evaluate scene tracing t root subject all).run pass).2) :=
  Memo.run_bind_outcome pass _ _

end Term

end Annals
