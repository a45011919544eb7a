import Annals.Query.Token

/-!
# Errors

What can go wrong, by cause. `Error.message` is the only place that knows the wording.

An error of evaluation names the innermost term that failed: `Error.within` adds the text of a
term unless the error names one already.
-/

set_option autoImplicit false

namespace Annals

/-- What can be wrong with the tokens of a query. -/
inductive ParseFault where
  | noTokens
  /-- Tokens are left after the term. -/
  | tooManyTerms (position count : Nat)
  /-- The query is a literal or a symbol. -/
  | notATerm
  /-- The tokens end within a term. -/
  | endOfTokens (position : Nat)
  /-- A closing parenthesis has no partner. -/
  | closingTooSoon (position : Nat)
  | tooDeep (limit position : Nat)
  | noOperator (position : Nat)
  /-- A term begins with something other than the name of an operator. -/
  | operatorExpected (position : Nat) (found : Token)
  /-- The builder of terms refuses a term. -/
  | rejected (reason : String)
  deriving DecidableEq

namespace ParseFault

/-- The wording of a fault. -/
def message : ParseFault → String
  | noTokens => "No tokens"
  | tooManyTerms position count =>
    "Too many terms (" ++ toString position ++ " != " ++ toString count ++ ")"
  | notATerm => "Not a term"
  | endOfTokens position => "End of token stream at #" ++ toString position
  | closingTooSoon position => "Closing too soon at #" ++ toString position
  | tooDeep limit position =>
    "Terms nested deeper than " ++ toString limit ++ " at #" ++ toString position
  | noOperator position => "No operator found at #" ++ toString position
  | operatorExpected position found =>
    "Operator expected at #" ++ toString position ++ ", but " ++ found.text ++ " provided"
  | rejected reason => reason

end ParseFault

/-- How an operand or a result is of the wrong sort. -/
inductive TypeFault where
  /-- A boolean is needed, and there is a value of another kind, or none. -/
  | booleanExpected (kind : String)
  /-- A boolean stands where values are compared. -/
  | booleanCompared
  /-- An index is not one integer. -/
  | indexExpected (found : String)
  /-- An operand has to be a symbol. -/
  | symbolExpectedAt (position : Nat) (found : String)
  /-- The operand of an extremum has to be a symbol. -/
  | symbolExpected (found : String)
  /-- An operand has to be a term. -/
  | termExpected (found : String)
  /-- A text to match is not exactly one value. -/
  | oneTextExpected
  | noPattern
  /-- A pattern is not exactly one value. -/
  | onePatternExpected
  /-- A term that is evaluated without a fact reads properties of one. -/
  | staticExpected (term : String)
  /-- The name of an operator of the catalogue cannot be defined anew. -/
  | builtInOperator (name : String)
  /-- An operator outside of the catalogue complains. -/
  | stated (text : String)
  deriving DecidableEq

namespace TypeFault

/-- The wording of a fault. -/
def message : TypeFault → String
  | booleanExpected kind => "Boolean expected, while " ++ kind ++ " received"
  | booleanCompared => "Boolean can't be compared, a value expected"
  | indexExpected found => "An integer index expected, but provided: " ++ found
  | symbolExpectedAt position found =>
    "A symbol expected at #" ++ toString position ++ ", but provided: " ++ found
  | symbolExpected found => "A symbol expected, but provided: " ++ found
  | termExpected found => "A term expected, but '" ++ found ++ "' provided"
  | oneTextExpected => "Exactly one string expected"
  | noPattern => "Regexp is nil"
  | onePatternExpected => "Exactly one regexp expected"
  | staticExpected term => "A static term expected, but " ++ term ++ " reads properties of a fact"
  | builtInOperator name => "Operator '" ++ name ++ "' is built in and can't be redefined"
  | stated text => text

end TypeFault

/-- Why a write to a fact is refused. -/
inductive PropertyFault where
  /-- The name of the property is malformed. -/
  | wrongName (name : String)
  /-- The name of the property is reserved. -/
  | reservedName (name : String)
  /-- There is no value to write. -/
  | noValues (name : String)
  /-- The value is a text without a character. -/
  | emptyText (name : String)
  /-- The value is not a number. -/
  | notANumber (name : String)
  /-- A listener refuses changes of the property. -/
  | refused (name : String) (priorLength : Nat)
  /-- The hook of a layer fails before it writes the property. -/
  | hookGaveUp (name : String)
  /-- The body of a transaction gives up. -/
  | abandoned
  deriving DecidableEq

namespace PropertyFault

/-- The wording of a fault. -/
def message : PropertyFault → String
  | wrongName name => "wrong property name '" ++ name ++ "'"
  | reservedName name => "property name '" ++ name ++ "' is reserved"
  | noValues name => "an empty value can't be written to '" ++ name ++ "'"
  | emptyText name => "an empty string can't be written to '" ++ name ++ "'"
  | notANumber name => "NaN can't be written to '" ++ name ++ "'"
  | refused name priorLength => "refused '" ++ name ++ "' at " ++ toString priorLength
  | hookGaveUp name => "hook gave up at " ++ name
  | abandoned => "abort"

end PropertyFault

/-- Why a snapshot cannot be read. -/
inductive SnapshotFault where
  /-- The bytes are not those of a snapshot. -/
  | malformed
  /-- The snapshot is of another version of the format. -/
  | version (found expected : Nat)
  deriving DecidableEq

namespace SnapshotFault

/-- The wording of a fault; the codec's own wording is not part of this library. -/
def message : SnapshotFault → String
  | malformed => "<bincode>"
  | version found expected =>
    "unsupported snapshot version " ++ toString found ++ " (expected " ++ toString expected ++ ")"

end SnapshotFault

/-- An error of the store, of a query or of the configuration. -/
inductive Error where
  /-- The text of a query cannot be cut into tokens. -/
  | token (fault : TokenFault) (query : String)
  /-- The tokens of a query form no term. -/
  | parse (fault : ParseFault) (query : String) (tokens : List Token)
  /-- An operator has too many or too few operands. -/
  | arity (operator : String) (expected actual : Nat)
  /-- Something is of the wrong sort. -/
  | type (fault : TypeFault)
  /-- An operator is neither in the catalogue nor defined. -/
  | undefinedOperator (operator term : String)
  | evaluation (cause : Error) (term : String)
  | query (cause : Error) (text term : String)
  | property (fault : PropertyFault)
  | notFound (what : String)
  /-- A fact violates a rule; `uid` is the text of the value that identifies it. -/
  | ruleViolation (rule fact : String) (uid : Option String)
  /-- A pattern is malformed or not supported. -/
  | pattern
  | snapshot (fault : SnapshotFault)
  | config
  deriving DecidableEq

namespace Error

/-- The wording of an error. -/
def message : Error → String
  | token fault source => fault.message ++ " in \"" ++ source ++ "\""
  | parse fault source tokens =>
    fault.message ++ " in \"" ++ source ++ "\", tokens: " ++ Token.dump tokens
  | arity operator expected actual =>
    "Too " ++ (if expected < actual then "many" else "few") ++ " (" ++ toString actual
      ++ ") operands for '" ++ operator ++ "' (" ++ toString expected ++ " expected)"
  | type fault => fault.message
  | undefinedOperator operator term => "Term '" ++ operator ++ "' is not defined at " ++ term
  | evaluation cause term => cause.message ++ " at " ++ term
  | query cause text term => cause.message ++ " in \"" ++ text ++ "\", AST: " ++ term
  | property fault => "invalid property: " ++ fault.message
  | notFound what => "property '" ++ what ++ "' not found"
  | ruleViolation rule fact uid =>
    "The fact" ++ (match uid with | some v => " #" ++ v | none => "") ++ " doesn't match the '"
      ++ rule ++ "' rule: " ++ fact
  | pattern => "regex error: <regex>"
  | snapshot fault => "serialization error: " ++ fault.message
  | config => "config error: <json>"

/-- The error with the text of the term that failed, unless it names a term already. -/
def within (e : Error) (term : String) : Error :=
  match e with
  | evaluation _ _ | undefinedOperator _ _ => e
  | _ => evaluation e term

/-- An error that names a term is left as it is. -/
theorem within_within (e : Error) (inner outer : String) :
    (e.within inner).within outer = e.within inner := by
  cases e <;> rfl

end Error

end Annals
