import Annals.Error

/-!
# Results of evaluation

A term has no result, a truth value or a list of values. A list that comes out of a property is
never empty, because an empty one counts as no result; only an operator that is defined by the
owner of a store can return an empty list.
-/

set_option autoImplicit false

namespace Annals

/-- The result of a term. -/
inductive Datum where
  | nil
  | bool (b : Bool)
  | values (vs : List Value)
  deriving DecidableEq, Inhabited

namespace Datum

/-- The result that consists of a list of values. -/
def ofValues (vs : List Value) : Datum :=
  if vs.isEmpty then nil else values vs

def single (v : Value) : Datum := values [v]

def isNil : Datum → Bool
  | nil => true
  | _ => false

/-- The truth value of a result, if it is one. -/
def asBool? : Datum → Option Bool
  | bool b => some b
  | _ => none

def toList : Datum → List Value
  | values vs => vs
  | _ => []

/-- The text of a result; a single value stands without brackets. -/
def text : Datum → String
  | nil => "nil"
  | bool true => "true"
  | bool false => "false"
  | values [v] => v.text
  | values vs => Value.listText vs

/-- The truth value of a result, where no result counts as false. -/
def truth : Datum → Except Error Bool
  | nil => .ok false
  | bool b => .ok b
  | values vs => .error (.type (.booleanExpected ((vs.head?.map Value.kind).getD "nil")))

/-- The truth value of a result, which has to be there. -/
def decision : Datum → Except Error Bool
  | nil => .error (.type (.booleanExpected "nil"))
  | datum => datum.truth

/-- The values to put in order, if there is a result. -/
def operands? : Datum → Except Error (Option (List Value))
  | nil => .ok none
  | bool _ => .error (.type .booleanCompared)
  | values vs => .ok (some vs)

/-- The text of a result that is exactly one value. -/
def oneText? : Datum → Option String
  | values [v] => some v.plainText
  | _ => none

/-- Whether two results are equal: some value of the one equals some value of the other. -/
def equals : Datum → Datum → Bool
  | bool a, bool b => a == b
  | values vs, values ws => vs.any fun v => ws.any fun w => v.looselyEquals w
  | _, _ => false

end Datum

end Annals
