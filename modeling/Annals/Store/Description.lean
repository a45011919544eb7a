import Annals.Store.Basic
import Annals.Text.Quoted

/-!
# Description of a store

A store described in one line: its size, its settings and the operators defined for it.
-/

set_option autoImplicit false

namespace Annals

def describeFields (title : String) (fields : List (String × String)) : String :=
  title ++ " \x7b " ++ Value.joinTexts (fields.map fun (name, text) => name ++ ": " ++ text)
    ++ " \x7d"

def describeNames (names : List String) : String :=
  "[" ++ Value.joinTexts (names.map Text.quoted) ++ "]"

/-- The settings in one line. -/
def Config.describe (config : Config) : String :=
  describeFields "StoreConfig" [("max_depth", toString config.maxDepth),
    ("trace_evaluation", if config.traceEvaluation then "true" else "false"),
    ("slow_query_ms", toString config.slowQueryMillis),
    ("reserved_names", describeNames config.reservedNames)]

/-- The store in one line. -/
def Store.describe (s : Store) : String :=
  describeFields "FactStore" [("size", toString s.size), ("config", s.config.describe),
    ("operators", describeFields "OperatorRegistry"
      [("operators", describeNames s.registry.names)])]

end Annals
