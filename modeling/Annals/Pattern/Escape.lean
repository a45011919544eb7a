import Annals.Pattern.Classes
import Annals.Text.Blank

/-!
# Flags and escapes of patterns

A flag changes what the characters of a pattern mean from some place on. An escape is what stands
after a backslash: a character, a class or an assertion.

Every reader takes the characters that are left and returns what it read and the rest; `none`
means that the pattern is malformed or not supported.
-/

set_option autoImplicit false

namespace Annals.Pattern

/-- The flags in force at a place of a pattern. -/
structure Flags where
  /-- `i`: letters match in either case. -/
  caseless : Bool
  /-- `m`: `^` and `$` match at the ends of lines. -/
  multiLine : Bool
  /-- `s`: `.` matches the end of a line too. -/
  dotAll : Bool
  /-- `R`: a carriage return ends a line too. -/
  wideLines : Bool
  /-- `u`: classes are those of the whole character set. -/
  unicode : Bool
  /-- `x`: spaces and comments in the pattern count for nothing. -/
  verbose : Bool

/-- The flags at the start of a pattern. -/
def Flags.initial : Flags := ⟨false, false, false, false, true, false⟩

/-- The flags with the one of a letter switched on or off; `U` changes no match. -/
def Flags.assign? (flags : Flags) (letter : Char) (on : Bool) : Option Flags :=
  match letter with
  | 'i' => some { flags with caseless := on }
  | 'm' => some { flags with multiLine := on }
  | 's' => some { flags with dotAll := on }
  | 'R' => some { flags with wideLines := on }
  | 'u' => some { flags with unicode := on }
  | 'x' => some { flags with verbose := on }
  | 'U' => some flags
  | _ => none

/-- The characters after spaces and comments, where these count for nothing. -/
def skipVerbose (verbose inComment : Bool) : List Char → List Char
  | [] => []
  | c :: rest =>
    if !verbose then c :: rest
    else if inComment then skipVerbose verbose (c != '\n') rest
    else if Text.isBlank c then skipVerbose verbose false rest
    else if c == '#' then skipVerbose verbose true rest
    else c :: rest

/-- The characters after spaces and comments, if the flags say so. -/
def Flags.skip (flags : Flags) (cs : List Char) : List Char :=
  skipVerbose flags.verbose false cs

/-- What an escape, or a character by itself, stands for. -/
inductive Atom where
  /-- A character; `isByte` if it is written as a byte, by two hexadecimal digits. -/
  | literal (c : Char) (isByte : Bool)
  | charClass (codes : CodeSet)
  | assertion (condition : Look)

/-- The character of a code, if there is one. -/
def charOfCode? (code : Nat) : Option Char :=
  if h : code.isValidChar then some (Char.ofNatAux code h) else none

/-- A character by its hexadecimal digits, `width` of them or any number in braces. -/
def readHex (flags : Flags) (width : Nat) (cs : List Char) : Option (Char × List Char) :=
  match flags.skip cs with
  | '\x7b' :: rest => do
    let digits := rest.takeWhile (· != '\x7d')
    let code ← Hex.ofDigits? (digits.filter fun c => !(flags.verbose && Text.isBlank c))
    let c ← charOfCode? code
    match rest.drop digits.length with
    | _ :: rest => some (c, rest)
    | [] => none
  | cs => do
    let digits := cs.take width
    if digits.length < width then none
    else return (← charOfCode? (← Hex.ofDigits? digits), cs.drop width)

/-- The class of a name, or of a property with a value, as it stands between braces. -/
def classOfBraces? (content : List Char) : Option CodeSet :=
  let name := content.takeWhile fun c => c != ':' && c != '=' && c != '!'
  match content.drop name.length with
  | '!' :: '=' :: value => (valued? (looseName name) (looseName value)).map CodeSet.complement
  | ':' :: value | '=' :: value => valued? (looseName name) (looseName value)
  | _ => named? (looseName content)

/-- A class after `\p`. -/
def readProperty (flags : Flags) (cs : List Char) : Option (CodeSet × List Char) :=
  match flags.skip cs with
  | '\x7b' :: rest =>
    let content := rest.takeWhile (· != '\x7d')
    match rest.drop content.length with
    | _ :: rest => (classOfBraces? content).map fun codes => (codes, rest)
    | [] => none
  | '\\' :: _ => none
  | c :: rest => (named? (looseName [c])).map fun codes => (codes, rest)
  | [] => none

/-- The set with the other cases of its letters, if the flags say so. -/
def Flags.fold (flags : Flags) (codes : CodeSet) : CodeSet :=
  if !flags.caseless then codes
  else if flags.unicode then foldClosure codes
  else asciiFoldClosure codes

/-- Whether a character has a meaning of its own in patterns. -/
def isMeta (c : Char) : Bool :=
  c ∈ ['\\', '.', '+', '*', '?', '(', ')', '|', '[', ']', '\x7b', '\x7d', '^', '$', '#', '&', '-',
    '~']

/-- Whether a character stands for itself after a backslash. -/
def isEscapable (c : Char) : Bool :=
  isMeta c || c.toNat < 0x80 && !c.isAlphanum && c != '<' && c != '>'

/-- The words in braces after `\b`; no word at all leaves the brace to a repetition. -/
def readEdge (flags : Flags) (word : CodeSet) (cs : List Char) : Option (Look × List Char) :=
  let isPart (c : Char) : Bool := c.isAlpha || c == '-'
  match cs with
  | '\x7b' :: rest =>
    match flags.skip rest with
    | [] => none
    | c :: more =>
      if !isPart c then some (.wordEdge word, cs)
      else
        let content := (c :: more).takeWhile isPart
        match (c :: more).drop content.length with
        | '\x7d' :: rest =>
          match String.ofList content with
          | "start" => some (.wordStart word, rest)
          | "end" => some (.wordEnd word, rest)
          | "start-half" => some (.halfStart word, rest)
          | "end-half" => some (.halfEnd word, rest)
          | _ => none
        | _ => none
  | _ => some (.wordEdge word, cs)

/-- A class of the shorthand kind; outside of the full character set it has no complement. -/
def shorthand (flags : Flags) (codes : CodeSet) (negated : Bool) (rest : List Char) :
    Option (Atom × List Char) :=
  if !negated then some (.charClass codes, rest)
  else if flags.unicode then some (.charClass codes.complement, rest)
  else none

/-- What stands after a backslash. -/
def readEscape (flags : Flags) (cs : List Char) : Option (Atom × List Char) :=
  match cs with
  | [] => none
  | 'x' :: rest => (readHex flags 2 rest).map fun (c, rest) => (.literal c true, rest)
  | 'u' :: rest => (readHex flags 4 rest).map fun (c, rest) => (.literal c false, rest)
  | 'U' :: rest => (readHex flags 8 rest).map fun (c, rest) => (.literal c false, rest)
  | 'p' :: rest =>
    if flags.unicode then
      (readProperty flags rest).map fun (codes, rest) => (.charClass (flags.fold codes), rest)
    else none
  | 'P' :: rest =>
    if flags.unicode then
      (readProperty flags rest).map fun (codes, rest) =>
        (.charClass (flags.fold codes).complement, rest)
    else none
  | 'd' :: rest => shorthand flags (digits flags.unicode) false rest
  | 'D' :: rest => shorthand flags (digits flags.unicode) true rest
  | 's' :: rest => shorthand flags (spaces flags.unicode) false rest
  | 'S' :: rest => shorthand flags (spaces flags.unicode) true rest
  | 'w' :: rest => shorthand flags (wordChars flags.unicode) false rest
  | 'W' :: rest => shorthand flags (wordChars flags.unicode) true rest
  | 'a' :: rest => some (.literal '\x07' false, rest)
  | 'f' :: rest => some (.literal '\x0c' false, rest)
  | 't' :: rest => some (.literal '\t' false, rest)
  | 'n' :: rest => some (.literal '\n' false, rest)
  | 'r' :: rest => some (.literal '\r' false, rest)
  | 'v' :: rest => some (.literal '\x0b' false, rest)
  | 'A' :: rest => some (.assertion .textStart, rest)
  | 'z' :: rest => some (.assertion .textEnd, rest)
  | 'b' :: rest =>
    (readEdge flags (wordChars flags.unicode) rest).map fun (condition, rest) =>
      (.assertion condition, rest)
  | 'B' :: rest => some (.assertion (.noWordEdge (wordChars flags.unicode)), rest)
  | '<' :: rest => some (.assertion (.wordStart (wordChars flags.unicode)), rest)
  | '>' :: rest => some (.assertion (.wordEnd (wordChars flags.unicode)), rest)
  | c :: rest => if isEscapable c then some (.literal c false, rest) else none

end Annals.Pattern
