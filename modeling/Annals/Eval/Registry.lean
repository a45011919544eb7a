import Annals.Eval.Datum
import Annals.Query.Operator

/-!
# Operators outside of the catalogue

A registry holds the operators that the owner of a store defines. Such an operator is a function
of the results of its operands.
-/

set_option autoImplicit false

namespace Annals

/-- The meaning of an operator outside of the catalogue. -/
abbrev CustomOperator := List Datum → Except Error Datum

/-- Operators by their names. -/
structure Registry where
  /-- The names with the operators, the latest first. -/
  entries : List (String × CustomOperator)

namespace Registry

def empty : Registry := ⟨[]⟩

instance : Inhabited Registry := ⟨empty⟩

def get? (registry : Registry) (name : String) : Option CustomOperator :=
  registry.entries.lookup name

/-- Define an operator, in place of one of the same name; names of the catalogue are refused. -/
def define (registry : Registry) (name : String) (meaning : CustomOperator) :
    Except Error Registry :=
  if (Operator.ofName name).isBuiltIn then .error (.type (.builtInOperator name))
  else .ok ⟨(name, meaning) :: registry.entries⟩

/-- Insert a text into a sorted list, unless it is there. -/
def insertName (name : String) : List String → List String
  | [] => [name]
  | other :: rest =>
    if name = other then other :: rest
    else if name < other then name :: other :: rest
    else other :: insertName name rest

def names (registry : Registry) : List String :=
  registry.entries.foldr (fun (name, _) sorted => insertName name sorted) []

/-- The registry of a list of definitions, read from left to right. -/
def ofDefinitions (definitions : List (String × CustomOperator)) : Except Error Registry :=
  definitions.foldlM (fun registry (name, meaning) => registry.define name meaning) empty

end Registry

end Annals
