import Annals.Error
import Annals.Query.Parser
import Annals.Text.Json

/-!
# Configuration

The settings of a store, and how they are read from JSON: as an object, in which unknown members
are ignored and missing ones keep their defaults, or as a list of the settings in their order, in
which the last ones may be missing.
-/

set_option autoImplicit false

namespace Annals

/-- The settings of a store. -/
structure Config where
  /-- The deepest nesting of terms that a query may have. -/
  maxDepth : Nat
  /-- Whether the evaluation of every term is logged. -/
  traceEvaluation : Bool
  /-- The time in milliseconds after which a pass counts as slow. -/
  slowQueryMillis : Nat
  /-- Names of properties that are refused, in addition to those that always are. -/
  reservedNames : List String
  deriving DecidableEq

namespace Config

/-- The settings of a store that is not configured. -/
def standard : Config := ⟨Term.defaultDepth, false, 1000, []⟩

instance : Inhabited Config := ⟨standard⟩

/-- The largest number that a setting can have. -/
def largestNumber : Nat := 0xffffffffffffffff

def numberOf? : Json → Option Nat
  | .number (some n) => if n ≤ largestNumber then some n else none
  | _ => none

def boolOf? : Json → Option Bool
  | .bool b => some b
  | _ => none

def textOf? : Json → Option String
  | .text content => content
  | _ => none

/-- A setting that is a list of names. -/
def namesOf? : Json → Option (List String)
  | .list items => items.mapM textOf?
  | _ => none

/-- The names of the settings, in their order. -/
def fieldNames : List String :=
  ["max_depth", "trace_evaluation", "slow_query_ms", "reserved_names"]

/-- The configuration with the setting of one name replaced; other names change nothing. -/
def assign? (config : Config) (name : String) (value : Json) : Option Config :=
  match name with
  | "max_depth" => (numberOf? value).map fun n => { config with maxDepth := n }
  | "trace_evaluation" => (boolOf? value).map fun b => { config with traceEvaluation := b }
  | "slow_query_ms" => (numberOf? value).map fun n => { config with slowQueryMillis := n }
  | "reserved_names" => (namesOf? value).map fun names => { config with reservedNames := names }
  | _ => some config

/-- The configuration after the members of an object; `seen` holds the names that occurred. -/
def assignMembers? (config : Config) (seen : List String) :
    List (Option String × Json) → Option Config
  | [] => some config
  | (none, _) :: _ => none
  | (some name, value) :: rest =>
    if name ∈ fieldNames ∧ name ∈ seen then none
    else (config.assign? name value).bind fun config => assignMembers? config (name :: seen) rest

/-- The configuration after a list of settings, which must not be longer than their names. -/
def assignItems? (config : Config) : List String → List Json → Option Config
  | _, [] => some config
  | [], _ :: _ => none
  | name :: names, value :: rest =>
    (config.assign? name value).bind fun config => assignItems? config names rest

/-- The configuration that a JSON text writes down. -/
def ofJson (text : String) : Except Error Config :=
  let read := (Json.ofString? text).bind fun
    | .object members => standard.assignMembers? [] members
    | .list items => standard.assignItems? fieldNames items
    | _ => none
  match read with
  | some config => .ok config
  | none => .error .config

end Config

end Annals
