import Annals.Fact.Register

/-!
# Ledgers

A ledger is the sequence of the facts of a store, with the transactions over it. While a
transaction is open, every write is entered into a journal; transactions nest, and only the
outermost one decides. When it fails, the journal is read backwards to undo the writes, and the
sequence is cut back to the length that it had when the transaction was opened.
-/

set_option autoImplicit false

namespace Annals

/-- Facts with the transactions over them. -/
structure Ledger where
  /-- Every fact that was ever made. -/
  register : Register
  /-- The facts of the store, in their order. -/
  sequence : List FactId
  depth : Nat
  /-- The length of the sequence when the outermost transaction was opened. -/
  baseLength : Nat
  /-- The writes since then, the latest first. -/
  writes : List (FactId × Change)
  /-- How many outermost transactions were committed. -/
  committed : Nat
  /-- How many outermost transactions were rolled back. -/
  rolledBack : Nat
  deriving DecidableEq, Inhabited

namespace Ledger

def empty : Ledger := ⟨.empty, [], 0, 0, [], 0, 0⟩

def size (l : Ledger) : Nat := l.sequence.length

def maps (l : Ledger) : List Properties :=
  l.sequence.map l.register.contents

/-- Make an empty fact at the end of the sequence. -/
def insert (l : Ledger) (reserved : List String) : FactId × Ledger :=
  (l.register.nextId,
    { l with
      register := l.register.add .empty reserved
      sequence := l.sequence ++ [l.register.nextId] })

def makeFree (l : Ledger) (properties : Properties) : FactId × Ledger :=
  (l.register.nextId, { l with register := l.register.add properties [] })

/-- Make facts that take the place of the whole sequence. -/
def replaceAll (l : Ledger) (reserved : List String) (facts : List Properties) : Ledger :=
  { l with
    register := facts.foldl (fun r p => r.add p reserved) l.register
    sequence := (List.range facts.length).map fun i => ⟨l.register.cells.size + i⟩ }

/-- Enter a write into the journal, if a transaction is open. -/
def record (l : Ledger) (id : FactId) (change : Change) : Ledger :=
  if l.depth = 0 then l else { l with writes := (id, change) :: l.writes }

def revert (l : Ledger) (id : FactId) (change : Change) : Ledger :=
  { l with register := l.register.revert id change }

/-- Open a transaction; the answer is whether it is the outermost one. -/
def openTransaction (l : Ledger) : Bool × Ledger :=
  if l.depth = 0 then (true, { l with depth := 1, baseLength := l.size, writes := [] })
  else (false, { l with depth := l.depth + 1 })

/-- The register after undoing writes, the latest first. -/
def undo (r : Register) (writes : List (FactId × Change)) : Register :=
  writes.foldl (fun r (id, change) => r.revert id change) r

/-- Close an outermost transaction and keep its writes. -/
def commit (l : Ledger) : Ledger :=
  { l with depth := l.depth - 1, writes := [], committed := l.committed + 1 }

/-- Close an outermost transaction and undo its writes. -/
def rollBack (l : Ledger) : Ledger :=
  { l with
    depth := l.depth - 1
    register := undo l.register l.writes
    sequence := l.sequence.take l.baseLength
    writes := []
    rolledBack := l.rolledBack + 1 }

/-- Close a transaction that is not the outermost one. -/
def leave (l : Ledger) : Ledger := { l with depth := l.depth - 1 }

end Ledger

end Annals
