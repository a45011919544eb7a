/-!
# Operators

The operators that a query can apply. A name that is not in the catalogue belongs to an operator
that the owner of the store may define.
-/

set_option autoImplicit false

namespace Annals

/-- An operator of a query. -/
inductive Operator where
  | always
  | never
  | not
  /-- Conjunction; later operands are not read once one is false. -/
  | and
  /-- Disjunction; later operands are not read once one is true. -/
  | or
  | when
  | present
  | absent
  /-- The number of values of a property. -/
  | size
  /-- The kind of the values of a property. -/
  | type
  /-- One value out of several, by its index. -/
  | nth
  /-- The first operand, or the second if there is none. -/
  | either
  /-- The value that the operand had on the subject before. -/
  | prev
  /-- Whether some value on the left equals some value on the right. -/
  | eq
  /-- Whether some value on the left is below some value on the right. -/
  | lt
  /-- Whether some value on the left is above some value on the right. -/
  | gt
  /-- Whether a text contains a match of a pattern. -/
  | fits
  /-- The least value of a property over all facts. -/
  | min
  /-- The greatest value of a property over all facts. -/
  | max
  | count
  /-- A term over the facts that a selector accepts. -/
  | agg
  /-- A term whose result is also logged. -/
  | traced
  /-- An operator that is not in the catalogue. -/
  | custom (name : String)
  deriving DecidableEq, Inhabited

namespace Operator

def catalogue : List Operator :=
  [always, never, not, and, or, when, present, absent, size, type, nth, either, prev, eq, lt, gt,
    fits, min, max, count, agg, traced]

/-- The name of an operator. -/
def name : Operator → String
  | always => "always"
  | never => "never"
  | not => "not"
  | and => "and"
  | or => "or"
  | when => "when"
  | present => "exists"
  | absent => "absent"
  | size => "size"
  | type => "type"
  | nth => "at"
  | either => "either"
  | prev => "prev"
  | eq => "eq"
  | lt => "lt"
  | gt => "gt"
  | fits => "matches"
  | min => "min"
  | max => "max"
  | count => "count"
  | agg => "agg"
  | traced => "traced"
  | custom name => name

def ofName (name : String) : Operator :=
  (catalogue.find? (·.name == name)).getD (custom name)

/-- Whether an operator looks at all facts rather than at one subject. -/
def isAggregate : Operator → Bool
  | min | max | count | agg => true
  | _ => false

def isBuiltIn : Operator → Bool
  | custom _ => false
  | _ => true

end Operator

end Annals
