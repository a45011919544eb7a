import Annals.Pattern.Escape

/-!
# Classes in brackets

A class lists characters, ranges, escapes and other classes between brackets. It may begin with a
caret, which makes it the complement, and hold operations between sets of characters.
-/

set_option autoImplicit false

namespace Annals.Pattern

/-- An operation between the parts of a class. -/
inductive SetOp where
  | inter
  /-- `--`: the characters of the first but not of the second. -/
  | diff
  /-- `~~`: the characters of exactly one. -/
  | symmDiff

/-- The result of the operation that waits for its right side, if there is one. -/
def applyOp : Option (SetOp × CodeSet) → CodeSet → CodeSet
  | none, codes => codes
  | some (.inter, left), codes => left.inter codes
  | some (.diff, left), codes => left.diff codes
  | some (.symmDiff, left), codes => left.symmDiff codes

/-- The complement, among the bytes only outside of the full character set. -/
def Flags.complement (flags : Flags) (codes : CodeSet) : CodeSet :=
  if flags.unicode then codes.complement else codes.complement.inter ⟨[(0, 0xff)]⟩

/-- A class like `[:alpha:]`. -/
def readAsciiClass? (flags : Flags) (cs : List Char) : Option (CodeSet × List Char) :=
  match cs with
  | '[' :: ':' :: rest =>
    let negated := rest.head? == some '^'
    let rest := if negated then rest.tail else rest
    let name := rest.takeWhile (· != ':')
    match rest.drop name.length with
    | ':' :: ']' :: rest =>
      (asciiClass? (String.ofList name)).map fun codes =>
        (if negated then flags.complement codes else codes, rest)
    | _ => none
  | _ => none

/-- One item of a class: a character or an escape. -/
def readClassAtom (flags : Flags) (cs : List Char) : Option (Atom × List Char) :=
  match cs with
  | [] => none
  | '\\' :: rest => readEscape flags rest
  | c :: rest => some (.literal c false, rest)

/-- The set of an item of a class; assertions are no items. -/
def setOfAtom? (flags : Flags) : Atom → Option CodeSet
  | .literal c _ => if flags.unicode || c.toNat < 0x80 then some (.single c) else none
  | .charClass codes => some codes
  | .assertion _ => none

/-- The set of the range between two items, which have to be characters. -/
def rangeOfAtoms? (flags : Flags) : Atom → Atom → Option CodeSet
  | .literal low _, .literal high _ =>
    if low ≤ high ∧ (flags.unicode ∨ high.toNat < 0x80) then some (.between low high) else none
  | _, _ => none

/-- An item of a class, or a range between two items. -/
def readClassRange (flags : Flags) (cs : List Char) : Option (CodeSet × List Char) := do
  let (first, cs) ← readClassAtom flags cs
  match flags.skip cs with
  | [] => none
  | '-' :: rest =>
    match flags.skip rest with
    | ']' :: _ | '-' :: _ => return (← setOfAtom? flags first, '-' :: rest)
    | rest =>
      let (second, rest) ← readClassAtom flags rest
      return (← rangeOfAtoms? flags first second, rest)
  | cs => return (← setOfAtom? flags first, cs)

/-- The characters after leading hyphens, with the set of the hyphen if there is one. -/
def readHyphens (flags : Flags) (cs : List Char) : List CodeSet × List Char :=
  let hyphens := cs.takeWhile fun c => c == '-' || flags.verbose && Text.isBlank c
  (if hyphens.contains '-' then [.single '-'] else [], cs.drop hyphens.length)

mutual

/-- A class after its opening bracket. -/
def readClass : Nat → Flags → List Char → Option (CodeSet × List Char)
  | 0, _, _ => none
  | fuel + 1, flags, cs => do
    let cs := flags.skip cs
    let negated := cs.head? == some '^'
    let (hyphen, cs) := readHyphens flags (if negated then flags.skip cs.tail else cs)
    let (start, cs) := match hyphen, cs with
      | [], ']' :: rest => ([CodeSet.single ']'], rest)
      | _, _ => (hyphen, cs)
    let (codes, cs) ← readClassItems fuel flags none start cs
    let codes := if negated then flags.complement codes else codes
    if flags.unicode || codes.ranges.all (fun (_, high) => high < 0x80) then return (codes, cs)
    else none

/-- The items of a class up to its closing bracket. -/
def readClassItems : Nat → Flags → Option (SetOp × CodeSet) → List CodeSet → List Char →
    Option (CodeSet × List Char)
  | 0, _, _, _, _ => none
  | fuel + 1, flags, left, items, cs =>
    let whole := fun (_ : Unit) => applyOp left (flags.fold (CodeSet.unions items))
    match flags.skip cs with
    | [] => none
    | '[' :: rest =>
      match readAsciiClass? flags ('[' :: rest) with
      | some (codes, rest) => readClassItems fuel flags left (codes :: items) rest
      | none => do
        let (codes, rest) ← readClass fuel flags rest
        readClassItems fuel flags left (codes :: items) rest
    | ']' :: rest => some (whole (), rest)
    | '&' :: '&' :: rest => readClassItems fuel flags (some (.inter, whole ())) [] rest
    | '-' :: '-' :: rest => readClassItems fuel flags (some (.diff, whole ())) [] rest
    | '~' :: '~' :: rest => readClassItems fuel flags (some (.symmDiff, whole ())) [] rest
    | cs => do
      let (codes, rest) ← readClassRange flags cs
      readClassItems fuel flags left (codes :: items) rest

end

end Annals.Pattern
