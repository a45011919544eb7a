import Annals.Query.Parser
import Annals.Fact.View

/-!
# Rules

A rule is a term that every fact of a store has to satisfy. Outside of transactions a fact is
checked at every write; inside of one, the facts that were touched are remembered by a watch and
checked when the outermost transaction is closed.
-/

set_option autoImplicit false

namespace Annals

/-- A condition on every fact. -/
structure Rule where
  /-- The term that has to be true. -/
  term : Term
  /-- The name of the property that identifies a fact in reports. -/
  uid : Option String
  deriving DecidableEq, Inhabited

def Rule.text (rule : Rule) : String := rule.term.text

/-- What is known of the open transactions over one layer of rules. -/
structure Watch where
  depth : Nat
  /-- The facts to check when the outermost one is closed. -/
  touched : List FactId
  deriving DecidableEq, Inhabited

namespace Watch

def idle : Watch := ⟨0, []⟩

def enter (w : Watch) : Watch := { w with depth := w.depth + 1 }

/-- One transaction less is open; after the outermost one nothing is remembered. -/
def exit (w : Watch) : Watch :=
  ⟨w.depth - 1, if w.depth - 1 = 0 then [] else w.touched⟩

/-- Remember a fact, if a transaction is open. -/
def touch (w : Watch) (id : FactId) : Watch :=
  if w.depth = 0 ∨ id ∈ w.touched then w else { w with touched := w.touched ++ [id] }

def clear (w : Watch) : Watch := { w with touched := [] }

end Watch

end Annals
