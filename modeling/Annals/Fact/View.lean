import Annals.Fact.Properties

/-!
# Subjects of an evaluation

A term is evaluated on a fact, or on a view: a fact, or none, in front of a backing that holds the
parameters of the query. A plain name is looked up in the fact in front and nowhere else; a name
with a dollar sign is looked up, without it, at the far end of the backing.

Facts are named by their identities, and `contents` tells what they hold.
-/

set_option autoImplicit false

namespace Annals

/-- The identity of a fact. -/
structure FactId where
  /-- The number of the fact, in the order in which facts were made. -/
  index : Nat
  deriving DecidableEq, Inhabited

abbrev Contents := FactId → Properties

/-- The identity of a subject: that of its fact or, without a fact, a number of its own. -/
inductive Identity where
  | fact (id : FactId)
  /-- The identity of a view without a fact. -/
  | vacant (number : Nat)
  deriving DecidableEq, Inhabited

def Identity.fact? : Identity → Option FactId
  | fact id => some id
  | vacant _ => none

/-- Values bound to the names of parameters, in the order of the names. -/
structure Params where
  /-- The names with their values, sorted and without repetition. -/
  entries : List (String × List Value)
  deriving DecidableEq, Inhabited

namespace Params

def empty : Params := ⟨[]⟩

/-- Bind one more value to a name. -/
def insert (name : String) (value : Value) :
    List (String × List Value) → List (String × List Value)
  | [] => [(name, [value])]
  | (key, values) :: rest =>
    if key = name then (key, values ++ [value]) :: rest
    else if name < key then (name, [value]) :: (key, values) :: rest
    else (key, values) :: insert name value rest

/-- The parameters with one more value bound to a name. -/
def bind (p : Params) (name : String) (value : Value) : Params :=
  ⟨insert name value p.entries⟩

/-- The parameters of names with their values, in order. -/
def ofPairs (pairs : List (String × Value)) : Params :=
  pairs.foldl (fun p (name, value) => p.bind name value) empty

def get? (p : Params) (name : String) : Option (List Value) :=
  p.entries.lookup name

def names (p : Params) : List String :=
  p.entries.map Prod.fst

end Params

/-- Where the parameters of a view come from. -/
inductive Backing where
  /-- The properties of a fact are the parameters. -/
  | fact (id : FactId)
  /-- The parameters are bound one by one. -/
  | params (p : Params)
  /-- The parameters are those of another view. -/
  | view (front : Option FactId) (backing : Backing)
  deriving DecidableEq, Inhabited

/-- A fact, or none, in front of a backing. -/
structure View where
  /-- The identity of the view, which is that of the fact in front. -/
  front : Identity
  backing : Backing
  deriving DecidableEq, Inhabited

/-- Add to `names` those of `more` that are not there yet. -/
def mergeNames (names more : List String) : List String :=
  more.foldl (fun names name => if name ∈ names then names else names ++ [name]) names

/-- The parameter that a symbol with a dollar sign names. -/
def parameterName? (name : String) : Option String :=
  match name.toList with
  | '$' :: rest => some (String.ofList rest)
  | _ => none

namespace Backing

variable (contents : Contents)

/-- The values of a parameter. -/
def lookup (name : String) : Backing → Option (List Value)
  | fact id => (contents id).get? name
  | params p => p.get? name
  | view _ backing => backing.lookup name

/-- Add the names along a backing to those in front of it. -/
def mergeInto (names : List String) : Backing → List String
  | fact id => mergeNames names (contents id).names
  | params p => mergeNames names p.names
  | view front backing =>
    backing.mergeInto (match front with
      | some id => mergeNames names (contents id).names
      | none => names)

end Backing

namespace View

variable (contents : Contents)

/-- A view with a fact in front, or with an identity of its own if there is none. -/
def inFront (front : Option FactId) (number : Nat) (backing : Backing) : View :=
  ⟨match front with
    | some id => .fact id
    | none => .vacant number, backing⟩

/-- A view as the backing of another one. -/
def asBacking (view : View) : Backing := .view view.front.fact? view.backing

/-- The values of a property or, with a dollar sign, of a parameter. -/
def lookup (view : View) (name : String) : Option (List Value) :=
  match parameterName? name with
  | some parameter => view.backing.lookup contents parameter
  | none => view.front.fact?.bind fun id => (contents id).get? name

/-- The first value of a property or parameter. -/
def first (view : View) (name : String) : Option Value :=
  (view.lookup contents name).bind List.head?

/-- The names of the fact in front and of everything behind it, without repetition. -/
def names (view : View) : List String :=
  view.backing.mergeInto contents (match view.front.fact? with
    | some id => (contents id).names
    | none => [])

/-- The text of the fact in front. -/
def text (view : View) : String :=
  match view.front.fact? with
  | some id => (contents id).text
  | none => Properties.empty.text

end View

/-- What a term is evaluated on. -/
inductive Subject where
  | fact (id : FactId)
  | view (v : View)
  deriving DecidableEq, Inhabited

namespace Subject

variable (contents : Contents)

def identity : Subject → Identity
  | fact id => .fact id
  | view v => v.front

/-- The values of a property of a fact, or of a property or parameter of a view. -/
def lookup (subject : Subject) (name : String) : Option (List Value) :=
  match subject with
  | fact id => (contents id).get? name
  | view v => v.lookup contents name

def names : Subject → List String
  | fact id => (contents id).names
  | view v => v.names contents

def text : Subject → String
  | fact id => (contents id).text
  | view v => v.text contents

/-- Where the parameters of a subject come from; a fact by itself has none. -/
def parameters : Subject → Option Backing
  | fact _ => none
  | view v => some v.backing

end Subject

end Annals
