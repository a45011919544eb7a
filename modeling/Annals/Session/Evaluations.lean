import Annals.Eval.Pass
import Annals.Fact.Register

/-!
# Evaluations in one pass

Terms evaluated one after the other on facts and views, all in one pass, with writes to the facts
and questions about them in between.
-/

set_option autoImplicit false

namespace Annals.Session

/-- A term that is evaluated: its number in the pass, what it is evaluated on, and all facts. -/
structure Evaluation where
  root : Nat
  term : Term
  subject : Subject
  all : List FactId

/-- One step of the work with a pass. -/
inductive PassStep where
  | evaluate (e : Evaluation)
  /-- The truth value of a term, where no result counts as false. -/
  | test (e : Evaluation)
  /-- The truth value of a term, which has to be there. -/
  | verdict (e : Evaluation)
  /-- The result of a term in a pass of its own, without operators outside of the catalogue. -/
  | alone (e : Evaluation)
  /-- Write a value to a fact. -/
  | write (fact : FactId) (property : String) (value : Value)
  /-- The values of a property or parameter. -/
  | lookup (subject : Subject) (name : String)
  /-- The first value of a property or parameter of a view. -/
  | first (view : View) (name : String)
  /-- The names that a subject knows. -/
  | names (subject : Subject)
  | text (subject : Subject)
  /-- Whether a view has the identity of the fact in front of it, if there is one. -/
  | identity (view : View)

/-- The answer to a step. -/
inductive PassAnswer where
  | nothing
  /-- The result of a term in the pass. -/
  | result (d : Datum)
  /-- The result of a term in a pass of its own. -/
  | datum (d : Datum)
  | flag (b : Bool)
  | optionalFlag (b : Option Bool)
  | values (vs : Option (List Value))
  /-- A value, if there is one. -/
  | value (v : Option Value)
  | names (names : List String)
  | text (s : String)
  deriving DecidableEq

/-- A pass with the facts that it is about. -/
structure Bench where
  /-- The operators outside of the catalogue. -/
  registry : Registry
  register : Register
  tracing : Bool
  /-- How many views without a fact are in use. -/
  vacant : Nat
  pass : Pass
  /-- What was reported, the latest first. -/
  events : List Event

namespace Bench

def scene (b : Bench) : Scene := ⟨b.registry, b.register.contents⟩

def goOn {α : Type} (b : Bench) (action : Memo α) : Except Error α × Bench :=
  let (result, pass) := action.run b.pass
  (result, { b with pass := { pass with events := [] }, events := pass.events ++ b.events })

/-- Do something in a pass of its own. -/
def apart {α : Type} (b : Bench) (action : Memo α) : Except Error α × Bench :=
  let (result, pass) := action.run (.start b.vacant)
  (result, { b with events := pass.events ++ b.events })

/-- Write a value to a fact. -/
def write (b : Bench) (fact : FactId) (property : String) (value : Value) :
    Except Error Unit × Bench :=
  let cell := b.register.cell fact
  match cell.properties.set cell.reserved property value with
  | .error fault => (.error (.property fault), b)
  | .ok p => (.ok (), { b with register := b.register.replace fact p })

/-- The answer made from a result, if there is one. -/
def answering {α : Type} (f : α → PassAnswer) (r : Except Error α × Bench) :
    Except Error PassAnswer × Bench :=
  (r.1.map f, r.2)

/-- Do one step. -/
def step (b : Bench) : PassStep → Except Error PassAnswer × Bench
  | .evaluate e => answering .result
      (b.goOn (e.term.evaluate b.scene b.tracing e.root e.subject e.all))
  | .test e => answering .flag (b.goOn (e.term.test b.scene b.tracing e.root e.subject e.all))
  | .verdict e => answering .flag
      (b.goOn (e.term.verdict b.scene b.tracing e.root e.subject e.all))
  | .alone e => answering .datum
      (b.apart (e.term.evaluate ⟨.empty, b.register.contents⟩ false 0 e.subject e.all))
  | .write fact property value => answering (fun _ => .nothing) (b.write fact property value)
  | .lookup subject name => (.ok (.values (subject.lookup b.register.contents name)), b)
  | .first view name => (.ok (.value (view.first b.register.contents name)), b)
  | .names subject => (.ok (.names (subject.names b.register.contents)), b)
  | .text subject => (.ok (.text (subject.text b.register.contents)), b)
  | .identity view =>
    (.ok (.optionalFlag (view.front.fact?.map fun id =>
      (Subject.view view).identity == .fact id)), b)

/-- After each of some steps, its answer and the state. -/
def run (b : Bench) : List PassStep → List (Except Error PassAnswer × Bench)
  | [] => []
  | s :: rest =>
    let (answer, b) := b.step s
    (answer, b) :: b.run rest

end Bench

end Annals.Session
