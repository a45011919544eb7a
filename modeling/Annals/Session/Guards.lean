import Annals.Store.Basic

/-!
# Transactions with guards

Transactions that are opened and closed one by one, in any order. Every opened transaction has a
guard; a transaction is closed through its guard, once.
-/

set_option autoImplicit false

namespace Annals.Session

/-- What stands for a transaction that was opened. -/
structure Guard where
  /-- Whether it was the outermost one when it was opened. -/
  outermost : Bool
  isOpen : Bool
  deriving DecidableEq

/-- A store with the guards of its transactions. -/
structure Guarded where
  store : Store
  /-- The guards, in the order in which transactions were opened. -/
  guards : List Guard

/-- One step of the work with guards. -/
inductive GuardStep where
  | begin
  /-- Close the transaction of a guard and keep its writes. -/
  | commit (guard : Nat)
  /-- Close the transaction of a guard and undo its writes. -/
  | rollBack (guard : Nat)
  /-- Give a guard up, which undoes the writes of its transaction unless it is closed. -/
  | drop (guard : Nat)
  | add
  /-- Write a value to a fact. -/
  | set (fact : Nat) (property : String) (value : Value)

/-- The answer to a step. -/
inductive GuardAnswer where
  | nothing
  /-- Whether the opened transaction is the outermost one. -/
  | opened (outermost : Bool)
  /-- The transaction was closed, and its writes kept or undone. -/
  | closed (success : Bool)
  deriving DecidableEq

namespace Guarded

def empty : Guarded := ⟨.create .standard .empty, []⟩

/-- The handle of the fact of a number. -/
def handle (fact : Nat) : Handle := ⟨⟨fact⟩, [.journal]⟩

/-- Close the transaction of a guard, unless it is closed; the answer is whether it was open. -/
def close (g : Guarded) (guard : Nat) (success : Bool) : Bool × Guarded :=
  match g.guards[guard]? with
  | some ⟨outermost, true⟩ =>
    (true, ⟨g.store.closeTransaction outermost success, g.guards.set guard ⟨outermost, false⟩⟩)
  | _ => (false, g)

/-- Close the transaction of a guard as a step of its own. -/
def closing (g : Guarded) (guard : Nat) (success : Bool) : Except Error GuardAnswer × Guarded :=
  let (wasOpen, g) := g.close guard success
  (.ok (if wasOpen then .closed success else .nothing), g)

/-- Do one step. -/
def step (g : Guarded) : GuardStep → Except Error GuardAnswer × Guarded
  | .begin =>
    let (outermost, s) := g.store.openTransaction
    (.ok (.opened outermost), ⟨s, g.guards ++ [⟨outermost, true⟩]⟩)
  | .commit guard => g.closing guard true
  | .rollBack guard => g.closing guard false
  | .drop guard => (.ok .nothing, (g.close guard false).2)
  | .add => (.ok .nothing, { g with store := g.store.insert.2 })
  | .set fact property value =>
    match g.store.write (handle fact) property value with
    | (.ok (), s) => (.ok .nothing, { g with store := s })
    | (.error e, s) => (.error e, { g with store := s })

/-- Give up so many guards, the last one first. -/
def dropFrom : Nat → Guarded → Guarded
  | 0, g => g
  | count + 1, g => dropFrom count (g.close count false).2

/-- Give up all guards, the last one first. -/
def dropAll (g : Guarded) : Guarded := dropFrom g.guards.length g

def facts (g : Guarded) : List Properties :=
  g.store.ledger.register.cells.toList.map Cell.properties

/-- After each of some steps, its answer and the state; and the state at the end. -/
def run : List GuardStep → Guarded → List (Except Error GuardAnswer × Guarded) × Guarded
  | [], g => ([], g)
  | s :: rest, g =>
    let (answer, g) := g.step s
    let (more, last) := run rest g
    ((answer, g) :: more, last)

end Guarded

end Annals.Session
