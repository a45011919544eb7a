import Annals.Config
import Annals.Error
import Annals.Eval.Datum
import Annals.Eval.Evaluation
import Annals.Eval.Operation
import Annals.Eval.Pass
import Annals.Eval.Registry
import Annals.Event
import Annals.Fact.Name
import Annals.Fact.Properties
import Annals.Fact.Register
import Annals.Fact.View
import Annals.Number.Binary64
import Annals.Number.Shortest
import Annals.Pattern.Basic
import Annals.Pattern.Bracket
import Annals.Pattern.Category
import Annals.Pattern.Classes
import Annals.Pattern.Escape
import Annals.Pattern.Folding
import Annals.Pattern.Property
import Annals.Pattern.Reader
import Annals.Pattern.Script
import Annals.Query.Grammar
import Annals.Query.Node
import Annals.Query.Operator
import Annals.Query.Parser
import Annals.Query.Term
import Annals.Query.Token
import Annals.Session.Behaviour
import Annals.Session.Desk
import Annals.Session.Evaluations
import Annals.Session.Guards
import Annals.Session.Run
import Annals.Session.Script
import Annals.Session.Setup
import Annals.Store.Basic
import Annals.Store.Bytes
import Annals.Store.Content
import Annals.Store.Description
import Annals.Store.Layer
import Annals.Store.Ledger
import Annals.Store.Query
import Annals.Store.Rule
import Annals.Text.Blank
import Annals.Text.CodeSet
import Annals.Text.Hex
import Annals.Text.Json
import Annals.Text.Printable
import Annals.Text.Quoted
import Annals.Time.Calendar
import Annals.Time.Instant
import Annals.Time.Reading
import Annals.Value
import Annals.Proofs.Eval.Simulation
import Annals.Proofs.Eval.Transparency
import Annals.Proofs.Fact.Undo
import Annals.Proofs.Store.Frame
import Annals.Proofs.Store.Program
import Annals.Proofs.Store.Reachable
import Annals.Proofs.Store.Recovery
import Annals.Proofs.Store.Atomicity
import Annals.Proofs.Store.Overhaul
import Annals.Proofs.Eval.Locality
import Annals.Proofs.Store.Validity
import Annals.Proofs.Store.Verdict
import Annals.Proofs.Store.Decorated
import Annals.Proofs.Eval.Sorts
import Annals.Proofs.Session.Sorted
import Annals.Proofs.Query.Lexing
import Annals.Proofs.Query.Reading
import Annals.Proofs.Query.Words
import Annals.Proofs.Number.Decimal
import Annals.Proofs.Query.Fractions
import Annals.Proofs.Query.Instants
import Annals.Proofs.Query.RoundTrip
import Annals.Proofs.Query.Acceptance
import Annals.Proofs.Session.Guards
import Annals.Proofs.Time.Reading
import Annals.Proofs.Store.Bytes
import Annals.Proofs.Fact.Orderly
import Annals.Proofs.Store.Exchange
import Annals.Proofs.Eval.Displacement
import Annals.Proofs.Eval.Simplified
import Annals.Proofs.Store.Compiled
import Annals.Proofs.Eval.Independence
import Annals.Proofs.Store.Proper
import Annals.Proofs.Store.Course
import Annals.Proofs.Fact.Merged
import Annals.Proofs.Store.Replacement
import Annals.Proofs.Query.Literals
import Annals.Proofs.Store.Decisions
import Annals.Proofs.Query.Normal
import Annals.Proofs.Query.Nodes
import Annals.Proofs.Query.Sharing
import Annals.Proofs.Store.Delimited
import Annals.Proofs.Store.Traceless
import Annals.Proofs.Store.Hooked
import Annals.Proofs.Eval.Raises
import Annals.Proofs.Eval.Blame
import Annals.Proofs.Store.Failures
import Annals.Proofs.Value.Order
import Annals.Proofs.Eval.Extrema
import Annals.Proofs.Query.Symbols
import Annals.Proofs.Eval.Nesting
import Annals.Proofs.Store.Foremost
import Annals.Proofs.Eval.Preceding
import Annals.Proofs.Eval.Duality
import Annals.Proofs.Query.Lines
import Annals.Proofs.Query.Names
import Annals.Proofs.Store.Logs
import Annals.Proofs.Fact.Chains
import Annals.Proofs.Eval.Shared
import Annals.Proofs.Eval.Chronicle
