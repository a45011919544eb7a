import Annals.Session.Script
import Annals.Store.Description

/-!
# The desk of a session

A session keeps handles, queries and bytes under names, and it collects reports. `perform` does
one operation on a layer.
-/

set_option autoImplicit false

namespace Annals.Session

/-- What a session keeps beside the store. -/
structure Desk where
  /-- Handles by their names, the latest first. -/
  handles : List (String × Handle)
  /-- Queries by their names, the latest first. -/
  queries : List (String × Query)
  /-- Bytes by their names, the latest first. -/
  exports : List (String × Snapshot.Bytes)
  /-- The reports so far, the latest first. -/
  reports : List Report

def Desk.empty : Desk := ⟨[], [], [], []⟩

abbrev Act := Action Desk

def store : Act Store := return (← get).store

def onDesk (f : Desk → Desk) : Act Unit := modify fun w => { w with own := f w.own }

def keepHandle (name : String) (h : Handle) : Act Unit :=
  onDesk fun d => { d with handles := (name, h) :: d.handles }

def failWith {α : Type} (e : Error) : Act α := throw (.failed e)

/-- The handle of a name. -/
def handleOf (name : String) : Act Handle := do
  match (← get).own.handles.lookup name with
  | some h => return h
  | none => failWith (.notFound ("no handle " ++ name))

/-- The query of a source, compiled on a layer. -/
def queryOf (layers : Stack) : QuerySource → Act Query
  | .text query => layers.compile query
  | .kept name => do
    match (← get).own.queries.lookup name with
    | some q => return q
    | none => failWith (.notFound ("no query " ++ name))

/-- The query with a listener that refuses properties, if there is one. -/
def refusing (q : Query) : Option (List String) → Query
  | none => q
  | some names => q.withListener (.refusal (.toNames names))

/-- The bytes of a source. -/
def bytesOf : ByteSource → Act Snapshot.Bytes
  | .given bytes => return bytes
  | .kept name => do
    match (← get).own.exports.lookup name with
    | some bytes => return bytes
    | none => failWith (.notFound ("no blob " ++ name))

/-- Keep a handle under a name, if there is one. -/
def keepUnder : Option String → Handle → Act Unit
  | none, _ => return
  | some name, h => keepHandle name h

/-- Keep handles under a name followed by their numbers, from a number on. -/
def keepNumbered (name : String) : Nat → List Handle → Act Unit
  | _, [] => return
  | n, h :: rest => do
    keepHandle (name ++ toString n) h
    keepNumbered name (n + 1) rest

/-- Keep handles under a name followed by their numbers, if there is a name. -/
def keepAllUnder : Option String → List Handle → Act Unit
  | none, _ => return
  | some name, handles => keepNumbered name 0 handles

/-- The text of the fact of a handle. -/
def textOf (h : Handle) : Act String := return ((← store).properties h.id).text

/-- Another store from bytes; what it reports is reported here. -/
def copyOf (bytes : Snapshot.Bytes) : Act Store :=
  Action.ofStore fun s =>
    match Store.ofBytes bytes with
    | .ok copy => (.ok copy, { s with events := copy.events ++ s.events })
    | .error e => (.error e, s)

/-- Do one operation on a layer, given as the stack whose top it is. -/
def perform (layers : Stack) : Operation → Act Answer
  | .insert name => do
    let h ← layers.insert
    keepUnder name h
    return .inserted ((← store).position? h.id) (← textOf h)
  | .makeFree name pairs => do
    match Properties.ofPairs [] pairs with
    | .error fault => failWith (.property fault)
    | .ok p =>
      let id ← Action.ofStore fun s =>
        let (id, ledger) := s.ledger.makeFree p
        (.ok id, s.withLedger ledger)
      keepHandle name ⟨id, []⟩
      return .nothing
  | .handle index name => do
    match (← store).ledger.sequence[index]? with
    | some id =>
      keepHandle name ⟨id, [.journal]⟩
      return .flag true
    | none => return .flag false
  | .observe fact name refused => do
    let h ← handleOf fact
    keepHandle name (h.observedBy (.refusal (.toNames refused)))
    return .nothing
  | .detach fact name => do
    let h ← handleOf fact
    keepHandle name h.detached
    return .nothing
  | .set fact property value => do
    let h ← handleOf fact
    Action.ofStore (·.write h property value)
    return .text (← textOf h)
  | .setAll fact property values => do
    let h ← handleOf fact
    Action.ofStore (·.writeAll h property values)
    return .text (← textOf h)
  | .get fact property => do
    let h ← handleOf fact
    match (((← store).properties h.id).get? property).bind List.head? with
    | some v => return .value v
    | none => failWith (.notFound property)
  | .history fact property => do
    let h ← handleOf fact
    return .history (((← store).properties h.id).get? property)
  | .inspect fact => do
    let h ← handleOf fact
    return .fact ((← store).position? h.id) ((← store).properties h.id)
  | .same fact other => do
    let h ← handleOf fact
    let k ← handleOf other
    return .flag (h.id == k.id)
  | .compile query name => do
    let q ← layers.compile query
    onDesk fun d => { d with queries := (name, q) :: d.queries }
    return .query q
  | .find source params refused name => do
    let q := refusing (← queryOf layers source) refused
    let found ← Action.ofStore fun s =>
      match params with
      | some params => q.each params s
      | none => q.toList s
    keepAllUnder name found
    let s ← store
    return .found (found.map fun h => s.position? h.id)
  | .one source params => do
    let q ← queryOf layers source
    return .datum (← Action.ofStore (q.one params))
  | .validate fact => do
    let h ← handleOf fact
    match layers.rule? with
    | none => return .nothing
    | some rule =>
      Action.ofStore (·.validate rule h.id)
      return .rule rule.text
  | .dump => return .maps (← store).maps
  | .stats => do
    let l := (← store).ledger
    return .stats l.committed l.rolledBack l.depth
  | .about => do
    let s ← store
    return .about s.describe s.registry.names s.config.maxDepth
  | .exportBytes name => do
    let bytes := (← store).exportBytes
    onDesk fun d => { d with exports := (name, bytes) :: d.exports }
    return .bytes bytes
  | .importBytes source => do
    let bytes ← bytesOf source
    Action.ofStore (·.importBytes bytes)
    return .nothing
  | .copy source => do
    let bytes ← bytesOf source
    let copy ← copyOf bytes
    return .copy copy.size copy.maps (Store.sameFacts copy.maps (← store).maps)
  | .replace maps => do
    Action.ofStore (·.replaceWith maps)
    return .nothing

end Annals.Session
