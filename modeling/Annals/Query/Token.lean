import Annals.Text.Blank
import Annals.Value

/-!
# Tokens of a query

A query is a line of parentheses, words and quoted texts; `#` starts a comment that ends with its
line. The text is first cut into segments and only then are the words read, so that an error of
the first kind is reported before any of the second.

* `Segment.ofChars` cuts the text. A comment ends no word: `ab#` and `cd` on the next line are
  two words only because a line end stands between them.
* `Token.ofSegment` reads one word as an integer, a floating-point number, an instant or a symbol.
* `Token.ofQuery` does both.
-/

set_option autoImplicit false

namespace Annals

/-- A token of a query. -/
inductive Token where
  | opening
  | closing
  | int (n : Int64)
  | float (x : Binary64)
  | str (s : String)
  | time (t : Instant)
  /-- The name of an operator, a property or, with a dollar sign, a parameter. -/
  | symbol (name : String)
  deriving DecidableEq, Inhabited

/-- What can be wrong with the text of a query. -/
inductive TokenFault where
  /-- A quoted text has no character. -/
  | emptyText
  /-- A quoted text has no end. -/
  | unclosedText
  /-- An integer does not fit into 64 bits. -/
  | intRange (word : String) (negative : Bool)
  /-- A floating-point number is beyond the largest one. -/
  | floatRange (word : String)
  /-- A date or a time of day does not exist. -/
  | timeRange (word : String)
  /-- A word is of no known form. -/
  | wrongSymbol (word : String)
  deriving DecidableEq

namespace TokenFault

/-- The wording of a fault. -/
def message : TokenFault → String
  | emptyText => "String literal can't be empty"
  | unclosedText => "String not closed"
  | intRange word negative =>
    "Invalid integer '" ++ word ++ "': number too " ++ (if negative then "small" else "large")
      ++ " to fit in target type"
  | floatRange word => "Float '" ++ word ++ "' is out of range"
  | timeRange word => "Invalid timestamp '" ++ word ++ "': input is out of range"
  | wrongSymbol word => "Wrong symbol format (" ++ word ++ ")"

end TokenFault

/-- A piece of a query, before its words are read. -/
inductive Segment where
  | opening
  | closing
  | word (chars : List Char)
  /-- The content of a quoted text. -/
  | quoted (chars : List Char)
  deriving DecidableEq

namespace Segment

/-- Where the reader of a query stands; the characters read so far are held backwards. -/
inductive Place where
  /-- Between texts and comments, within a word that may still be empty. -/
  | plain (pending : List Char)
  /-- In a comment, which began while a word was being read. -/
  | comment (pending : List Char)
  /-- In a text that began with a given quote. -/
  | inside (quote : Char) (content : List Char)

/-- Put a word before the segments that follow it, unless it is empty. -/
def flush (pending : List Char) (rest : List Segment) : List Segment :=
  if pending.isEmpty then rest else .word pending.reverse :: rest

/-- The segments of the characters from a place on.

Inside of a text, a quote after a backslash replaces the backslash. -/
def ofCharsAt : Place → List Char → Except TokenFault (List Segment)
  | .plain pending, [] => .ok (flush pending [])
  | .comment pending, [] => .ok (flush pending [])
  | .inside _ _, [] => .error .unclosedText
  | .plain pending, c :: rest =>
    if c = '#' then ofCharsAt (.comment pending) rest
    else if Text.isQuote c then (ofCharsAt (.inside c []) rest).map (flush pending)
    else if c = '(' then (ofCharsAt (.plain []) rest).map fun s => flush pending (.opening :: s)
    else if c = ')' then (ofCharsAt (.plain []) rest).map fun s => flush pending (.closing :: s)
    else if Text.isBlank c then (ofCharsAt (.plain []) rest).map (flush pending)
    else ofCharsAt (.plain (c :: pending)) rest
  | .comment pending, c :: rest =>
    if c = '\n' then (ofCharsAt (.plain []) rest).map (flush pending)
    else ofCharsAt (.comment pending) rest
  | .inside quote content, c :: rest =>
    if Text.isQuote c && content.head? == some Text.backslash then
      ofCharsAt (.inside quote (c :: content.tail)) rest
    else if c = quote then
      if content.isEmpty then .error .emptyText
      else (ofCharsAt (.plain []) rest).map (.quoted content.reverse :: ·)
    else ofCharsAt (.inside quote (c :: content)) rest

def ofChars (chars : List Char) : Except TokenFault (List Segment) :=
  ofCharsAt (.plain []) chars

end Segment

namespace Token

/-- The sign of a number and the characters after it. -/
def splitSign : List Char → Bool × List Char
  | '-' :: rest => (true, rest)
  | '+' :: rest => (false, rest)
  | rest => (false, rest)

/-- Whether a list holds decimal digits only, and one at least. -/
def areDigits (chars : List Char) : Bool :=
  !chars.isEmpty && chars.all Char.isDigit

def digitsValue (chars : List Char) : Nat :=
  (Instant.digitsValue? 0 chars).getD 0

/-- The sign and the digits of a word that has the form of an integer. -/
def intForm? (word : List Char) : Option (Bool × Nat) :=
  let (negative, digits) := splitSign word
  if areDigits digits then some (negative, digitsValue digits) else none

/-- The exponent after a decimal fraction: nothing, or `e`, a sign and digits. -/
def exponentForm? : List Char → Option Int
  | [] => some 0
  | 'e' :: '+' :: digits => if areDigits digits then some (digitsValue digits) else none
  | 'e' :: '-' :: digits => if areDigits digits then some (-(digitsValue digits : Int)) else none
  | _ => none

/-- The sign, the digits and the power of ten of a word that has the form of a fraction. -/
def floatForm? (word : List Char) : Option (Bool × Nat × Int) := do
  let (negative, chars) := splitSign word
  let whole := chars.takeWhile Char.isDigit
  match chars.drop whole.length with
  | '.' :: rest =>
    let fraction := rest.takeWhile Char.isDigit
    let exponent ← exponentForm? (rest.drop fraction.length)
    if areDigits whole && areDigits fraction then
      some (negative, digitsValue (whole ++ fraction), exponent - fraction.length)
    else none
  | _ => none

/-- Whether a character may stand anywhere in a plain symbol. -/
def isSymbolPart (c : Char) : Bool :=
  c.isAlphanum || c == '_'

/-- Whether a word is a plain symbol, or a parameter after a dollar sign. -/
def isSymbolForm : List Char → Bool
  | '$' :: rest => !rest.isEmpty && rest.all Char.isLower
  | c :: rest => (c.isLower || c == '_') && rest.all isSymbolPart
  | [] => false

/-- The integer of a sign and a number, if it fits into 64 bits. -/
def fitInt? (negative : Bool) (n : Nat) : Option Int64 :=
  if negative then
    if n ≤ 0x8000000000000000 then some (Int64.ofInt (-(n : Int))) else none
  else if n < 0x8000000000000000 then some (Int64.ofInt n) else none

/-- The token of a word. -/
def ofWord (word : List Char) : Except TokenFault Token :=
  let text := String.ofList word
  match intForm? word, floatForm? word, Instant.wordFields? word with
  | some (negative, n), _, _ =>
    match fitInt? negative n with
    | some i => .ok (.int i)
    | none => .error (.intRange text negative)
  | none, some (negative, digits, exponent), _ =>
    let x := Binary64.ofDecimal negative digits exponent
    if x.isFinite then .ok (.float x) else .error (.floatRange text)
  | none, none, some (date, hour, minute, second) =>
    match Instant.ofClock? date hour minute second 0 with
    | some t => .ok (.time t)
    | none => .error (.timeRange text)
  | none, none, none =>
    if isSymbolForm word then .ok (.symbol text) else .error (.wrongSymbol text)

/-- The token of a segment. -/
def ofSegment : Segment → Except TokenFault Token
  | .opening => .ok .opening
  | .closing => .ok .closing
  | .word chars => ofWord chars
  | .quoted chars => .ok (.str (String.ofList chars))

def ofQuery (query : String) : Except TokenFault (List Token) := do
  let segments ← Segment.ofChars query.toList
  segments.mapM ofSegment

/-- The value that a token writes down. -/
def literal? : Token → Option Value
  | int n => some (.int n)
  | float x => some (.float x)
  | str s => some (.str s)
  | time t => some (.time t)
  | _ => none

/-- The form of a token in a diagnostic. -/
def text : Token → String
  | opening => "("
  | closing => ")"
  | int n => toString n.toInt
  | float x => x.text
  | str s => Text.quoted s
  | time t => t.text
  | symbol name => ":" ++ name

/-- The form of a list of tokens in a diagnostic. -/
def dump (tokens : List Token) : String :=
  "[" ++ Value.joinTexts (tokens.map text) ++ "]"

end Token

end Annals
