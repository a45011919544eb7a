import Annals.Text.Printable

/-!
# Quoted text

Two ways to write a text between quotes.

* `escape` is the form of a query: a backslash stands before a quote of either kind, and nothing
  else is changed.
* `quoted` is the form of a diagnostic: double quotes around it, an escape for every character
  that would not be seen.
-/

set_option autoImplicit false

namespace Annals.Text

def backslash : Char := '\\'

def singleQuote : Char := '\x27'

def doubleQuote : Char := '\x22'

/-- Whether the character is a quote of either kind. -/
def isQuote (c : Char) : Bool :=
  c == singleQuote || c == doubleQuote

/-- The characters of a text with a backslash before every quote. -/
def escapeChars : List Char → List Char
  | [] => []
  | c :: rest => if isQuote c then backslash :: c :: escapeChars rest else c :: escapeChars rest

/-- The text with a backslash before every quote. -/
def escape (s : String) : String :=
  String.ofList (escapeChars s.toList)

/-- A character by its number, `\u` and the hexadecimal digits in braces. -/
def numbered (c : Char) : List Char :=
  [backslash, 'u', '\x7b'] ++ Hex.digits c.toNat ++ ['\x7d']

/-- One character of a quoted diagnostic. -/
def quotedChar (c : Char) : List Char :=
  if c = doubleQuote ∨ c = backslash then [backslash, c]
  else if c = '\n' then [backslash, 'n']
  else if c = '\t' then [backslash, 't']
  else if c = '\r' then [backslash, 'r']
  else if c.toNat = 0 then [backslash, '0']
  else if isPrintable c then [c]
  else numbered c

/-- The text between double quotes, as a diagnostic shows it. -/
def quoted (s : String) : String :=
  String.ofList (doubleQuote :: s.toList.flatMap quotedChar ++ [doubleQuote])

end Annals.Text
