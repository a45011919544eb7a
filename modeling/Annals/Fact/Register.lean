import Annals.Fact.View

/-!
# Registers of facts

A register holds every fact that was ever made, by its identity. Facts are never taken out of it:
a fact that a store gave up lives on as long as somebody knows its identity.
-/

set_option autoImplicit false

namespace Annals

/-- A fact as a register holds it. -/
structure Cell where
  properties : Properties
  /-- The names that it refuses, in addition to those that every fact refuses. -/
  reserved : List String
  deriving DecidableEq, Inhabited

/-- Facts by their identities. -/
structure Register where
  /-- The facts in the order in which they were made. -/
  cells : Array Cell
  deriving DecidableEq, Inhabited

namespace Register

def empty : Register := ⟨#[]⟩

/-- A fact, which is empty and refuses nothing if it was never made. -/
def cell (r : Register) (id : FactId) : Cell :=
  r.cells.getD id.index ⟨.empty, []⟩

def contents (r : Register) : Contents := fun id => (r.cell id).properties

def nextId (r : Register) : FactId := ⟨r.cells.size⟩

def add (r : Register) (properties : Properties) (reserved : List String) : Register :=
  ⟨r.cells.push ⟨properties, reserved⟩⟩

/-- The register with other properties of one fact. -/
def replace (r : Register) (id : FactId) (properties : Properties) : Register :=
  ⟨r.cells.modify id.index fun cell => { cell with properties := properties }⟩

def revert (r : Register) (id : FactId) (change : Change) : Register :=
  r.replace id ((r.contents id).truncate change)

end Register

end Annals
