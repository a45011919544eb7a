import Annals.Number.Shortest
import Annals.Text.Quoted
import Annals.Time.Instant

/-!
# Values

The values that a property of a fact can take: integers, floating-point numbers, texts and
instants.

* `Value.compare?` orders numbers with numbers, texts with texts and instants with instants.
* `Value.looselyEquals` is the equality of a query; it reads instants in whole seconds.
* `Value.same` is the equality of a history; values of two kinds are never the same.
* `Value.text` is the form that a query reads back.
-/

set_option autoImplicit false

namespace Annals

/-- A value of a property. -/
inductive Value where
  | int (n : Int64)
  | float (x : Binary64)
  | str (s : String)
  | time (t : Instant)
  deriving DecidableEq, Inhabited

namespace Value

/-- The name of the kind of a value, as a query reports it. -/
def kind : Value → String
  | int _ => "Integer"
  | float _ => "Float"
  | str _ => "String"
  | time _ => "Time"

/-- The integer in a value of that kind. -/
def asInt? : Value → Option Int64
  | int n => some n
  | _ => none

/-- The number in a value of either numeric kind; an integer is rounded to the nearest one. -/
def asFloat? : Value → Option Binary64
  | float x => some x
  | int n => some (Binary64.ofInt n.toInt)
  | _ => none

/-- The text in a value of that kind. -/
def asText? : Value → Option String
  | str s => some s
  | _ => none

/-- The order of two values, if they are of comparable kinds.

Two integers are compared exactly; an integer and a floating-point number are compared as
floating-point numbers. -/
def compare? (a b : Value) : Option Ordering :=
  match a, b with
  | int m, int n => some (compare m.toInt n.toInt)
  | str s, str t => some (compareOfLessAndEq s t)
  | time s, time t => some (s.order t)
  | a, b =>
    match a.asFloat?, b.asFloat? with
    | some x, some y => x.compare? y
    | _, _ => none

/-- The equality of a query: instants are equal when they lie in the same second. -/
def looselyEquals (a b : Value) : Bool :=
  match a, b with
  | time s, time t => s.seconds == t.seconds
  | a, b => a.compare? b == some .eq

/-- The equality of a history: the kinds are the same and the values are equal. -/
def same (a b : Value) : Bool :=
  match a, b with
  | int m, int n => m == n
  | float x, float y => x.equals y
  | str s, str t => s == t
  | time s, time t => s == t
  | _, _ => false

/-- The text of a value, in the form that a query reads back. -/
def text : Value → String
  | int n => toString n.toInt
  | float x => x.text
  | str s => "'" ++ Text.escape s ++ "'"
  | time t => t.text

/-- The text of a value without quotes around a text. -/
def plainText (v : Value) : String :=
  v.asText?.getD v.text

def joinTexts (texts : List String) : String :=
  String.intercalate ", " texts

/-- The texts of a list of values, between brackets. -/
def listText (values : List Value) : String :=
  "[" ++ joinTexts (values.map text) ++ "]"

end Value

end Annals
