import Annals.Error
import Annals.Fact.Name

/-!
# Properties of a fact

The properties of a fact in the order of their first writes, each with its history: the distinct
values ever written to it, oldest first.

* `Properties.append` adds a value to the end of a history, unless the history holds it already.
* `Properties.truncate` undoes an addition, given the length of the history before it.
-/

set_option autoImplicit false

namespace Annals

/-- The properties of a fact with their histories. -/
structure Properties where
  /-- The name and the history of each property, in the order of first writes. -/
  entries : List (String × List Value)
  deriving DecidableEq, Inhabited

/-- One addition to a history: the property, and the length of the history before. -/
structure Change where
  name : String
  /-- The length of its history before the addition. -/
  priorLength : Nat
  deriving DecidableEq, Inhabited

namespace Properties

def empty : Properties := ⟨[]⟩

def get? (p : Properties) (name : String) : Option (List Value) :=
  p.entries.lookup name

/-- The names of the properties, in the order of first writes. -/
def names (p : Properties) : List String :=
  p.entries.map Prod.fst

def size (p : Properties) : Nat :=
  p.entries.length

def isEmpty (p : Properties) : Bool :=
  p.entries.isEmpty

/-- Whether a history holds a value that is the same as a given one. -/
def holds (history : List Value) (value : Value) : Bool :=
  history.any (·.same value)

/-- Change the history of a name, if there is one. -/
def mapHistory (name : String) (f : List Value → List Value) :
    List (String × List Value) → List (String × List Value)
  | [] => []
  | (key, history) :: rest =>
    if key = name then (key, f history) :: rest else (key, history) :: mapHistory name f rest

/-- Drop a property. -/
def dropName (name : String) : List (String × List Value) → List (String × List Value)
  | [] => []
  | (key, history) :: rest =>
    if key = name then rest else (key, history) :: dropName name rest

/-- Add a value to the history of a property; there is no change if the history holds it. -/
def append (p : Properties) (name : String) (value : Value) : Properties × Option Change :=
  match p.get? name with
  | none => (⟨p.entries ++ [(name, [value])]⟩, some ⟨name, 0⟩)
  | some history =>
    if holds history value then (p, none)
    else (⟨mapHistory name (· ++ [value]) p.entries⟩, some ⟨name, history.length⟩)

/-- Cut a history back to the length that it had before a change; a history that was empty
before goes with its property. -/
def truncate (p : Properties) (change : Change) : Properties :=
  if change.priorLength = 0 then ⟨dropName change.name p.entries⟩
  else ⟨mapHistory change.name (List.take change.priorLength) p.entries⟩

/-- Whether two histories hold the same values in the same order. -/
def sameHistory : List Value → List Value → Bool
  | [], [] => true
  | v :: vs, w :: ws => v.same w && sameHistory vs ws
  | _, _ => false

/-- Whether two lists of properties are the same, where values are compared as in a history. -/
def sameEntries : List (String × List Value) → List (String × List Value) → Bool
  | [], [] => true
  | (name, vs) :: rest, (other, ws) :: rest' =>
    name == other && sameHistory vs ws && sameEntries rest rest'
  | _, _ => false

/-- The text of a property with its history. -/
def entryText (entry : String × List Value) : String :=
  entry.1 ++ ": " ++ Value.listText entry.2

def text (p : Properties) : String :=
  "[ " ++ Value.joinTexts (p.entries.map entryText) ++ " ]"

/-- Whether a name may be written, where `reserved` are the names that a store refuses. -/
def checkName (reserved : List String) (name : String) : Except PropertyFault Unit :=
  if !isPropertyName name then .error (.wrongName name)
  else if name ∈ reservedNames ∨ name ∈ reserved then .error (.reservedName name)
  else .ok ()

/-- Whether a value may be written to a property. -/
def checkValue (name : String) : Value → Except PropertyFault Unit
  | .str s => if s.isEmpty then .error (.emptyText name) else .ok ()
  | .float x => if x.isNaN then .error (.notANumber name) else .ok ()
  | _ => .ok ()

/-- Whether a value may be written to the property of a name. -/
def check (reserved : List String) (name : String) (value : Value) : Except PropertyFault Unit := do
  checkName reserved name
  checkValue name value

/-- Write one value to a property of a fact that nobody listens to. -/
def set (p : Properties) (reserved : List String) (name : String) (value : Value) :
    Except PropertyFault Properties := do
  check reserved name value
  return (p.append name value).1

/-- Write several values, one at least, to a property of a fact that nobody listens to. -/
def setAll (p : Properties) (reserved : List String) (name : String) (values : List Value) :
    Except PropertyFault Properties :=
  if values.isEmpty then .error (.noValues name)
  else values.foldlM (fun p value => p.set reserved name value) p

/-- The properties after writing every name with its values. -/
def ofPairs (reserved : List String) (pairs : List (String × List Value)) :
    Except PropertyFault Properties :=
  pairs.foldlM (fun p (name, values) => p.setAll reserved name values) empty

end Properties

end Annals
