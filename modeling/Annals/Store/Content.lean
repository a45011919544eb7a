import Annals.Store.Basic
import Annals.Store.Bytes

/-!
# The content of a store as a whole

The content of a store can be replaced by that of given maps, all of which are checked before
anything is replaced. It can be written to bytes and read back from them.
-/

set_option autoImplicit false

namespace Annals

namespace Store

/-- The properties of facts with given contents, where some names are refused. -/
def factsOf (reserved : List String) (maps : List FactMap) :
    Except PropertyFault (List Properties) :=
  maps.mapM (Properties.ofPairs reserved)

/-- Replace the whole content by that of maps; nothing changes if one of them is refused. -/
def replaceWith (s : Store) (maps : List FactMap) : Except Error Unit × Store :=
  match factsOf s.config.reservedNames maps with
  | .error fault => (.error (.property fault), s)
  | .ok facts =>
    let s := s.report (.contentReplaced facts.length)
    (.ok (), s.withLedger (s.ledger.replaceAll s.config.reservedNames facts))

/-- Whether two stores hold the same facts in the same order. -/
def sameFacts : List Properties → List Properties → Bool
  | [], [] => true
  | p :: ps, q :: qs => Properties.sameEntries p.entries q.entries && sameFacts ps qs
  | _, _ => false

def snapshot (s : Store) : Snapshot :=
  ⟨Snapshot.currentVersion, s.maps.map Properties.entries⟩

def exportBytes (s : Store) : Snapshot.Bytes := s.snapshot.toBytes

/-- The content of the facts in a snapshot. -/
def mapsOfBytes (bytes : Snapshot.Bytes) : Except Error (List FactMap) :=
  match Snapshot.ofBytes? bytes with
  | none => .error (.snapshot .malformed)
  | some snapshot =>
    if snapshot.version = Snapshot.currentVersion then .ok snapshot.facts
    else .error (.snapshot (.version snapshot.version Snapshot.currentVersion))

/-- Replace the whole content by that of a snapshot. -/
def importBytes (s : Store) (bytes : Snapshot.Bytes) : Except Error Unit × Store :=
  match mapsOfBytes bytes with
  | .error e => (.error e, s)
  | .ok maps => s.replaceWith maps

/-- A store with the standard configuration that holds the content of a snapshot. -/
def ofBytes (bytes : Snapshot.Bytes) : Except Error Store :=
  match (create .standard .empty).importBytes bytes with
  | (.ok (), s) => .ok s
  | (.error e, _) => .error e

end Store

end Annals
