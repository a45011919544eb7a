import Annals.Store.Query

/-!
# Layers

Layers stand above a store and change what its operations do. A layer of rules keeps every fact
valid against a rule; a hook writes to every new fact. All of them insert, compile queries and run
transactions, each by way of the layer below.

An action is what can be done inside of a transaction: it changes the store and a state of its
own, and it ends with a result, a failure or an abrupt stop. The first two are reported to the
caller; a stop passes through.
-/

set_option autoImplicit false

namespace Annals

/-- Why an action ends without a result. -/
inductive Exit where
  | failed (e : Error)
  | stopped
  deriving DecidableEq

/-- What is done to a new fact: writes to it one after the other, where every next step may depend
on the outcome of the write before and on what the facts hold. -/
inductive Hook where
  | done
  | exit (e : Exit)
  /-- Look at the new fact and at what all facts hold. -/
  | look (next : FactId → Contents → Hook)
  | write (name : String) (value : Value) (next : Except Error Unit → Hook)

/-- One thing that a hook without decisions does to a new fact. -/
inductive HookStep where
  /-- Write a value, and fail if it is refused. -/
  | write (name : String) (value : Value)
  /-- Write a value, and go on if it is refused. -/
  | attempt (name : String) (value : Value)
  /-- Fail before the property of a name is written. -/
  | giveUp (name : String)
  deriving DecidableEq

/-- The hook that takes steps until one of them fails. -/
def Hook.ofSteps : List HookStep → Hook
  | [] => .done
  | .write name value :: rest => .write name value fun
    | .ok () => ofSteps rest
    | .error e => .exit (.failed e)
  | .attempt name value :: rest => .write name value fun _ => ofSteps rest
  | .giveUp name :: _ => .exit (.failed (.property (.hookGaveUp name)))

/-- A layer above a store. -/
inductive Layer where
  /-- Keep facts valid against a rule; the watch of the layer is at a place in the store. -/
  | rule (rule : Rule) (place : Nat)
  /-- Do something to every new fact. -/
  | hook (hook : Hook)

/-- A store beside a state of its user. -/
structure World (σ : Type) where
  store : Store
  own : σ

/-- Something that is done to a store by a user with a state of type `σ`. -/
abbrev Action (σ α : Type) := ExceptT Exit (StateM (World σ)) α

namespace Action

variable {σ α : Type}

/-- Do something to the store that may fail. -/
def ofStore (f : Store → Except Error α × Store) : Action σ α := fun w =>
  match f w.store with
  | (.ok x, s) => (.ok x, { w with store := s })
  | (.error e, s) => (.error (.failed e), { w with store := s })

def change (f : Store → Store) : Action σ Unit := modify fun w => { w with store := f w.store }

/-- The outcome of an action, as the result of one that does not fail. -/
def observe (action : Action σ α) : Action σ (Except Exit α) := fun w =>
  let (outcome, w) := action w
  (.ok outcome, w)

/-- The result of an outcome, or the failure. -/
def settle : Except Exit α → Action σ α
  | .ok x => pure x
  | .error e => throw e

def succeeded : Except Exit α → Bool
  | .ok _ => true
  | .error _ => false

/-- Run an action in a transaction of the store. -/
def inTransaction (body : Action σ α) : Action σ α := do
  let (outermost, s) := (← get).store.openTransaction
  change fun _ => s
  let outcome ← observe body
  change (·.closeTransaction outermost (succeeded outcome))
  settle outcome

/-- Check the facts that a watch remembers, after an action that succeeded. -/
def checkTouched (rule : Rule) (place : Nat) : Action σ Unit := do
  let touched := ((← get).store.watch place).touched
  change (·.onWatch place Watch.clear)
  ofStore (·.validateAll rule touched)

/-- Run an action under a watch; when the outermost one ends, what it touched is checked. -/
def underWatch (rule : Rule) (place : Nat) (body : Action σ α) : Action σ α := do
  let outermost := ((← get).store.watch place).depth == 0
  change (·.onWatch place Watch.enter)
  let outcome ← observe do
    let result ← body
    if outermost then checkTouched rule place
    return result
  change (·.onWatch place Watch.exit)
  settle outcome

def write (h : Handle) (name : String) (value : Value) : Action σ Unit :=
  ofStore (·.write h name value)

/-- Do to a new fact what a hook does. -/
def runHook (h : Handle) : Hook → Action σ Unit
  | .done => pure ()
  | .exit e => throw e
  | .look next => fun w => runHook h (next h.id w.store.ledger.register.contents) w
  | .write name value next => fun w =>
    let (outcome, s) := w.store.write h name value
    runHook h (next outcome) { w with store := s }

end Action

/-- A store with the layers above it, the outermost one first. -/
abbrev Stack := List Layer

namespace Stack

variable {σ α : Type}

/-- Run an action in a transaction of the outermost layer. -/
def transaction : Stack → Action σ α → Action σ α
  | [], body => body.inTransaction
  | .hook _ :: below, body => transaction below body
  | .rule rule place :: below, body => transaction below (body.underWatch rule place)

/-- Make a new fact. -/
def insert : Stack → Action σ Handle
  | [] => Action.ofStore fun s =>
    let (h, s) := s.insert
    (.ok h, s)
  | .hook hook :: below => transaction below do
    let h ← insert below
    Action.runHook h hook
    return h
  | .rule rule place :: below => do
    let h ← insert below
    Action.change (·.onWatch place (·.touch h.id))
    return h.observedBy (.rule rule place)

/-- The listeners of the facts that a query finds, the innermost layer first. -/
def listeners : Stack → List Listener
  | [] => []
  | .hook _ :: below => listeners below
  | .rule rule place :: below => listeners below ++ [.rule rule place]

def compile (layers : Stack) (text : String) : Action σ Query := do
  let q ← Action.ofStore (·.compile text)
  return { q with decorators := q.decorators ++ listeners layers }

/-- The rule of the outermost layer, if it is a layer of rules. -/
def rule? : Stack → Option Rule
  | .rule rule _ :: _ => some rule
  | _ => none

/-- Put a layer of rules on top. -/
def addRule (layers : Stack) (s : Store) (text : String) (uid : Option String) :
    Except Error Stack × Store :=
  match s.readTerm text with
  | (.error e, s) => (.error e, s)
  | (.ok term, s) =>
    let rule : Rule := ⟨term, uid⟩
    (.ok (.rule rule s.watches.length :: layers),
      { s.report (.rulesInstalled rule.text) with watches := s.watches ++ [.idle] })

def addHook (layers : Stack) (hook : Hook) : Stack := .hook hook :: layers

end Stack

end Annals
