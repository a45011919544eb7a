import Annals.Store.Basic

/-!
# Queries

A compiled query is scanned lazily: `Scan.next` goes on from the place where it stopped, over the
facts that the store holds by then, while aggregates see the facts that it held at the beginning.
The first failure ends a scan, and so does the end of the store.
-/

set_option autoImplicit false

namespace Annals

/-- A compiled query. -/
structure Query where
  text : String
  term : Term
  /-- The listeners to the writes of the facts that the query finds. -/
  decorators : List Listener

namespace Query

def withListener (q : Query) (listener : Listener) : Query :=
  { q with decorators := q.decorators ++ [listener] }

/-- An error of a pass, with the query. -/
def wrap (q : Query) (e : Error) : Error := .query e q.text q.term.text

/-- The handle of a fact that the query finds. -/
def handle (q : Query) (id : FactId) : Handle := ⟨id, .journal :: q.decorators⟩

end Query

namespace Store

/-- Read the text of a query. -/
def readTerm (s : Store) (text : String) : Except Error Term × Store :=
  match Term.ofQuery s.config.maxDepth text with
  | .ok (term, tokens) => (.ok term, s.report (.queryParsed text tokens))
  | .error e => (.error e, s)

/-- Compile a query. -/
def compile (s : Store) (text : String) : Except Error Query × Store :=
  match s.readTerm text with
  | (.ok term, s) => (.ok ⟨text, term, []⟩, s.report (.queryCompiled text term))
  | (.error e, s) => (.error e, s)

end Store

/-- A query on its way through a store. -/
structure Scan where
  query : Query
  pass : Pass
  all : List FactId
  /-- The parameters, if facts are seen in front of them. -/
  params : Option Params
  position : Nat
  /-- How many of them were found. -/
  matched : Nat
  ended : Bool

namespace Scan

def start (query : Query) (params : Option Params) (s : Store) : Scan :=
  ⟨query, .start 0, s.ledger.sequence, params, 0, 0, false⟩

/-- What a fact is examined as. -/
def subject (scan : Scan) (id : FactId) : Subject :=
  match scan.params with
  | some params => .view ⟨.fact id, .params params⟩
  | none => .fact id

/-- Examine the next fact. -/
def examine (scan : Scan) (id : FactId) (s : Store) : Except Error Bool × Scan × Store :=
  let (verdict, pass, s) := s.goOn scan.pass
    (scan.query.term.verdict s.scene s.config.traceEvaluation 0 (scan.subject id) scan.all)
  (verdict, { scan with pass := pass, position := scan.position + 1 }, s)

/-- Go on over facts until one is found, or one fails, or there are no more. -/
def advance : List FactId → Scan → Store → Option (Except Error Handle) × Scan × Store
  | [], scan, s =>
    (none, { scan with ended := true },
      s.report (.passFinished scan.query.text scan.position scan.matched))
  | id :: rest, scan, s =>
    match scan.examine id s with
    | (.ok true, scan, s) =>
      (some (.ok (scan.query.handle id)), { scan with matched := scan.matched + 1 }, s)
    | (.ok false, scan, s) => advance rest scan s
    | (.error e, scan, s) =>
      (some (.error (scan.query.wrap e)), { scan with ended := true }, s)

/-- The next fact that the query finds, or the failure that ends the scan. -/
def next (scan : Scan) (s : Store) : Option (Except Error Handle) × Scan × Store :=
  if scan.ended then (none, scan, s)
  else advance (s.ledger.sequence.drop scan.position) scan s

/-- What comes next, at most so many times; nothing happens in between. -/
def items : Nat → Scan → Store → List (Except Error Handle) × Scan × Store
  | 0, scan, s => ([], scan, s)
  | count + 1, scan, s =>
    match scan.next s with
    | (none, scan, s) => ([], scan, s)
    | (some item, scan, s) =>
      let (rest, scan, s) := items count scan s
      (item :: rest, scan, s)

/-- A number of steps after which every scan of a store is over. -/
def enough (s : Store) : Nat := s.size + 1

end Scan

namespace Query

/-- The facts that a scan finds, unless it fails. -/
def collect (q : Query) (params : Option Params) (s : Store) :
    Except Error (List Handle) × Store :=
  let (found, _, s) := (Scan.start q params s).items (Scan.enough s) s
  (found.mapM id, s)

def toList (q : Query) (s : Store) : Except Error (List Handle) × Store := q.collect none s

/-- The facts that a query finds with parameters; they matter only to a term that mentions one. -/
def each (q : Query) (params : Params) (s : Store) : Except Error (List Handle) × Store :=
  q.collect (if q.term.isAbstract then some params else none) s

/-- The result of a static term, evaluated once over all facts. -/
def one (q : Query) (params : Params) (s : Store) : Except Error Datum × Store :=
  if !q.term.isStatic then (.error (q.wrap (.type (.staticExpected q.term.text))), s)
  else
    let subject := Subject.view ⟨.vacant 0, .params params⟩
    let (result, _, s) := s.goOn (.start 1)
      (q.term.evaluate s.scene s.config.traceEvaluation 0 subject s.ledger.sequence)
    match result with
    | .ok d => (.ok d, s)
    | .error e => (.error (q.wrap e), s)

end Query

end Annals
