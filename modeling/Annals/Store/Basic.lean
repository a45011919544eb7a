import Annals.Config
import Annals.Eval.Pass
import Annals.Store.Ledger
import Annals.Store.Rule

/-!
# Stores

A store is a ledger with a configuration, operators of its own and the watches of the layers of
rules above it. Facts are written through handles. A handle names a fact and carries listeners,
which hear of every addition to a history in their order; when one of them fails, the addition is
undone, and the listeners after it hear nothing.
-/

set_option autoImplicit false

namespace Annals

/-- What a listener that only refuses goes by: the error for an addition to a fact, given what all
facts hold once it is made, or nothing if the addition is welcome. -/
abbrev Objection := Contents → FactId → Change → Option Error

/-- The objection to all additions to some properties. -/
def Objection.toNames (names : List String) : Objection := fun _ _ change =>
  if change.name ∈ names then some (.property (.refused change.name change.priorLength)) else none

/-- Somebody who hears of the additions made through a handle. -/
inductive Listener where
  | journal
  /-- A layer of rules, with the place of its watch. -/
  | rule (rule : Rule) (place : Nat)
  /-- One that refuses some additions, and does nothing else. -/
  | refusal (objection : Objection)

/-- A fact with the listeners to its writes. -/
structure Handle where
  id : FactId
  listeners : List Listener

namespace Handle

def observedBy (h : Handle) (listener : Listener) : Handle :=
  { h with listeners := h.listeners ++ [listener] }

def detached (h : Handle) : Handle := { h with listeners := [] }

end Handle

/-- A store of facts. -/
structure Store where
  config : Config
  /-- The operators outside of the catalogue. -/
  registry : Registry
  ledger : Ledger
  /-- The watches of the layers of rules. -/
  watches : List Watch
  /-- What was reported, the latest first. -/
  events : List Event

namespace Store

def create (config : Config) (registry : Registry) : Store :=
  ⟨config, registry, .empty, [], []⟩

instance : Inhabited Store := ⟨create .standard .empty⟩

def size (s : Store) : Nat := s.ledger.size

def depth (s : Store) : Nat := s.ledger.depth

def maps (s : Store) : List Properties := s.ledger.maps

def scene (s : Store) : Scene := ⟨s.registry, s.ledger.register.contents⟩

/-- The place of a fact in the store. -/
def position? (s : Store) (id : FactId) : Option Nat := s.ledger.sequence.idxOf? id

def properties (s : Store) (id : FactId) : Properties := s.ledger.register.contents id

def report (s : Store) (event : Event) : Store := { s with events := event :: s.events }

def withLedger (s : Store) (ledger : Ledger) : Store := { s with ledger := ledger }

/-- Go on with a pass, and move what it reports to the store. -/
def goOn {α : Type} (s : Store) (pass : Pass) (action : Memo α) : Except Error α × Pass × Store :=
  let (result, pass) := action.run pass
  (result, { pass with events := [] }, { s with events := pass.events ++ s.events })

def insert (s : Store) : Handle × Store :=
  let (id, ledger) := s.ledger.insert s.config.reservedNames
  (⟨id, [.journal]⟩, s.withLedger ledger)

/-! ### Transactions -/

/-- Open a transaction; the answer is whether it is the outermost one. -/
def openTransaction (s : Store) : Bool × Store :=
  let (outermost, ledger) := s.ledger.openTransaction
  let s := s.withLedger ledger
  (outermost, if outermost then s.report (.transactionStarted ledger.size) else s)

/-- Close a transaction; the writes of the outermost one are kept or undone. -/
def closeTransaction (s : Store) (outermost success : Bool) : Store :=
  let l := s.ledger
  match outermost, success with
  | false, _ => s.withLedger l.leave
  | true, true => (s.withLedger l.commit).report (.transactionCommitted l.writes.length)
  | true, false =>
    (s.withLedger l.rollBack).report
      (.transactionRolledBack l.writes.length (l.size - l.baseLength))

/-! ### Rules -/

def watch (s : Store) (place : Nat) : Watch := s.watches.getD place .idle

def onWatch (s : Store) (place : Nat) (change : Watch → Watch) : Store :=
  { s with watches := s.watches.modify place change }

/-- Whether a fact satisfies a rule, found out in a pass of its own over no facts. -/
def satisfies (s : Store) (rule : Rule) (id : FactId) : Except Error Bool × Store :=
  let (result, _, s) := s.goOn (.start 0) (rule.term.test s.scene false 0 (.fact id) [])
  (result, s)

/-- Fail unless a fact satisfies a rule. -/
def validate (s : Store) (rule : Rule) (id : FactId) : Except Error Unit × Store :=
  match s.satisfies rule id with
  | (.ok true, s) => (.ok (), s)
  | (.ok false, s) =>
    let p := s.properties id
    let uid := (rule.uid.bind p.get?).bind List.head?
    (.error (.ruleViolation rule.text p.text (uid.map Value.text)),
      s.report (.ruleViolated rule.text p.text))
  | (.error e, s) => (.error e, s)

/-- Fail at the first of several facts that does not satisfy a rule. -/
def validateAll (s : Store) (rule : Rule) : List FactId → Except Error Unit × Store
  | [] => (.ok (), s)
  | id :: rest =>
    match s.validate rule id with
    | (.ok (), s) => s.validateAll rule rest
    | (.error e, s) => (.error e, s)

/-! ### Writes -/

/-- Let a listener hear of an addition to a fact. -/
def hear (s : Store) (id : FactId) (change : Change) : Listener → Except Error Unit × Store
  | .journal => (.ok (), s.withLedger (s.ledger.record id change))
  | .rule rule place =>
    if (s.watch place).depth = 0 then s.validate rule id
    else (.ok (), s.onWatch place (·.touch id))
  | .refusal objection =>
    match objection s.ledger.register.contents id change with
    | some e => (.error e, s)
    | none => (.ok (), s)

/-- Let listeners hear of an addition to a fact, until one of them fails. -/
def notify (s : Store) (id : FactId) (change : Change) :
    List Listener → Except Error Unit × Store
  | [] => (.ok (), s)
  | listener :: rest =>
    match s.hear id change listener with
    | (.ok (), s) => s.notify id change rest
    | (.error e, s) => (.error e, s)

/-- Write a value to a property of a fact. -/
def write (s : Store) (h : Handle) (name : String) (value : Value) : Except Error Unit × Store :=
  let cell := s.ledger.register.cell h.id
  match Properties.check cell.reserved name value with
  | .error fault => (.error (.property fault), s)
  | .ok () =>
    match cell.properties.append name value with
    | (_, none) => (.ok (), s)
    | (properties, some change) =>
      let written :=
        s.withLedger { s.ledger with register := s.ledger.register.replace h.id properties }
      match written.notify h.id change h.listeners with
      | (.ok (), s) => (.ok (), s)
      | (.error e, s) => (.error e, s.withLedger (s.ledger.revert h.id change))

/-- Write values to a property of a fact, until one of them is refused. -/
def writeEach (s : Store) (h : Handle) (name : String) : List Value → Except Error Unit × Store
  | [] => (.ok (), s)
  | value :: rest =>
    match s.write h name value with
    | (.ok (), s) => s.writeEach h name rest
    | (.error e, s) => (.error e, s)

/-- Write several values, one at least, to a property of a fact. -/
def writeAll (s : Store) (h : Handle) (name : String) (values : List Value) :
    Except Error Unit × Store :=
  if values.isEmpty then (.error (.property (.noValues name)), s)
  else s.writeEach h name values

end Store

end Annals
