import Annals.Eval.Datum
import Annals.Query.Term

/-!
# Events

What a store reports about its work. An event has a level, a message and named fields.
-/

set_option autoImplicit false

namespace Annals

/-- The importance of an event. -/
inductive Level where
  | trace
  | debug
  /-- What a query asks to report. -/
  | info
  /-- What went wrong and was undone. -/
  | warn
  deriving DecidableEq

/-- Something that happened in a store. -/
inductive Event where
  /-- A query was read; it has so many tokens. -/
  | queryParsed (query : String) (tokens : Nat)
  /-- A query was compiled to a term. -/
  | queryCompiled (query : String) (term : Term)
  /-- A pass came to its end. -/
  | passFinished (query : String) (scanned matched : Nat)
  /-- An outermost transaction was opened over so many facts. -/
  | transactionStarted (facts : Nat)
  /-- An outermost transaction was closed and its writes were kept. -/
  | transactionCommitted (writes : Nat)
  /-- An outermost transaction was closed, and its writes and new facts were undone. -/
  | transactionRolledBack (writes dropped : Nat)
  /-- A layer of rules was put on a store. -/
  | rulesInstalled (rule : String)
  /-- A fact was found to violate a rule. -/
  | ruleViolated (rule fact : String)
  /-- The content of a store was replaced by so many facts. -/
  | contentReplaced (facts : Nat)
  | termEvaluated (term : Term) (result : Datum)
  /-- A term that is to be traced was evaluated. -/
  | traced (term : Term) (result : Datum)
  deriving DecidableEq

namespace Level

/-- The name of a level. -/
def name : Level → String
  | trace => "TRACE"
  | debug => "DEBUG"
  | info => "INFO"
  | warn => "WARN"

end Level

namespace Event

/-- The level of an event. -/
def level : Event → Level
  | termEvaluated _ _ => .trace
  | traced _ _ => .info
  | transactionRolledBack _ _ | ruleViolated _ _ => .warn
  | _ => .debug

/-- The message of an event. -/
def message : Event → String
  | queryParsed _ _ => "Query parsed"
  | queryCompiled _ _ => "Query compiled"
  | passFinished _ _ _ => "Query pass finished"
  | transactionStarted _ => "Transaction started"
  | transactionCommitted _ => "Transaction committed"
  | transactionRolledBack _ _ => "Transaction rolled back"
  | rulesInstalled _ => "Rules installed"
  | ruleViolated _ _ => "Rule violated"
  | contentReplaced _ => "Store content replaced"
  | termEvaluated _ _ => "Term evaluated"
  | traced term result => term.text ++ " -> " ++ result.text

/-- The fields of an event with their texts. -/
def fields : Event → List (String × String)
  | queryParsed query tokens => [("query", query), ("tokens", toString tokens)]
  | queryCompiled query term => [("query", query), ("term", term.text)]
  | passFinished query scanned matched =>
    [("query", query), ("scanned", toString scanned), ("matched", toString matched)]
  | transactionStarted facts => [("base_len", toString facts)]
  | transactionCommitted writes => [("writes", toString writes)]
  | transactionRolledBack writes dropped =>
    [("writes", toString writes), ("dropped_facts", toString dropped)]
  | rulesInstalled rule => [("rule", rule)]
  | ruleViolated rule fact => [("rule", rule), ("fact", fact)]
  | contentReplaced facts => [("facts", toString facts)]
  | termEvaluated term result => [("term", term.text), ("result", result.text)]
  | traced _ _ => []

end Event

end Annals
