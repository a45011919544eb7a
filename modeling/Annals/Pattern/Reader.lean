import Annals.Pattern.Bracket

/-!
# Reading patterns

The syntax of patterns: literals, `.`, classes, escapes, groups with flags, alternatives,
repetitions and assertions. There are no back-references and no look-around, so that matching
takes time proportional to the text for each part of a pattern.

* `Pattern.ofText?` reads a pattern; it gives none if the text is malformed, not supported or too
  large with its repetitions written out.
-/

set_option autoImplicit false

namespace Annals.Pattern

def largestCount : Nat := 0xffffffff

/-- A count, with blanks around it. -/
def readCount (flags : Flags) (cs : List Char) : Option (Nat × List Char) :=
  let cs := cs.dropWhile Text.isBlank
  let run := cs.takeWhile fun c => c.isDigit || flags.verbose && Text.isBlank c
  let digits := run.filter Char.isDigit
  let count := digits.foldl (fun n c => n * 10 + (c.toNat - '0'.toNat)) 0
  if digits.isEmpty || largestCount < count then none
  else some (count, (cs.drop run.length).dropWhile Text.isBlank)

/-- The bounds of a repetition after its opening brace. -/
def readBounds (flags : Flags) (cs : List Char) : Option ((Nat × Option Nat) × List Char) := do
  let (least, cs) ← readCount flags (flags.skip cs)
  let (most, cs) ← match cs with
    | ',' :: rest =>
      match flags.skip rest with
      | '\x7d' :: rest => some (none, '\x7d' :: rest)
      | rest => (readCount flags rest).map fun (n, rest) => (some n, rest)
    | _ => some (some least, cs)
  match cs with
  | '\x7d' :: rest =>
    if most.all (least ≤ ·) then
      match flags.skip rest with
      | '?' :: rest => some ((least, most), rest)
      | rest => some ((least, most), rest)
    else none
  | _ => none

/-- The pattern of a character. -/
def literalPattern? (flags : Flags) (c : Char) (isByte : Bool) : Option Pattern :=
  if !flags.unicode && isByte && 0x80 ≤ c.toNat then none
  else if flags.unicode || c.toNat < 0x80 then some (.set (flags.fold (.single c)))
  else some (.set (.single c))

/-- The pattern of an item outside of classes. -/
def patternOfAtom? (flags : Flags) : Atom → Option Pattern
  | .literal c isByte => literalPattern? flags c isByte
  | .charClass codes => some (.set codes)
  | .assertion condition => some (.look condition)

/-- The characters that `.` matches. -/
def dotSet (flags : Flags) : CodeSet :=
  if flags.dotAll then .full
  else if flags.wideLines then CodeSet.complement ⟨[(0xa, 0xa), (0xd, 0xd)]⟩
  else CodeSet.complement ⟨[(0xa, 0xa)]⟩

def startLook (flags : Flags) : Look :=
  if !flags.multiLine then .textStart
  else if flags.wideLines then .wideLineStart else .lineStart

def endLook (flags : Flags) : Look :=
  if !flags.multiLine then .textEnd
  else if flags.wideLines then .wideLineEnd else .lineEnd

/-- The flags of a group, up to the colon or the parenthesis that ends them.

`seen` holds the letters read so far; `negated` says whether a minus sign was among them, and
`dangling` whether it was the last. -/
def readFlags (flags : Flags) (seen : List Char) (negated dangling : Bool) :
    List Char → Option (Flags × Char × List Char)
  | [] => none
  | c :: rest =>
    if c = ':' ∨ c = ')' then
      if dangling || c = ')' && seen.isEmpty && !negated then none else some (flags, c, rest)
    else if c = '-' then
      if negated then none else readFlags flags seen true true rest
    else if c ∈ seen then none
    else
      match flags.assign? c (!negated) with
      | some flags => readFlags flags (c :: seen) negated false rest
      | none => none

/-- Whether a character may stand in the name of a group. -/
def isNamePart (first : Bool) (c : Char) : Bool :=
  c == '_' || ((named? "alphabetic").any (·.contains c))
    || !first && (c == '.' || c == '[' || c == ']' || ((category? "n").any (·.contains c)))

/-- The name of a group up to its closing angle bracket. -/
def readName (cs : List Char) : Option (String × List Char) :=
  let name := cs.takeWhile (· != '>')
  match name, cs.drop name.length with
  | first :: more, _ :: rest =>
    if isNamePart true first && more.all (isNamePart false) then
      some (String.ofList name, rest)
    else none
  | _, _ => none

/-- The beginning of a group. -/
inductive GroupStart where
  /-- A group with flags of its own, and with a name that must be new, if it has one. -/
  | group (flags : Flags) (name : Option String)
  /-- Flags for the rest of the group around. -/
  | directive (flags : Flags)

/-- The beginning of a group after its opening parenthesis. -/
def readGroupStart (flags : Flags) (cs : List Char) : Option (GroupStart × List Char) :=
  match flags.skip cs with
  | '?' :: '=' :: _ | '?' :: '!' :: _ | '?' :: '<' :: '=' :: _ | '?' :: '<' :: '!' :: _ => none
  | '?' :: 'P' :: '<' :: rest | '?' :: '<' :: rest =>
    (readName rest).map fun (name, rest) => (.group flags (some name), rest)
  | '?' :: rest =>
    (readFlags flags [] false false rest).map fun (flags, last, rest) =>
      (if last = ')' then .directive flags else .group flags none, rest)
  | cs => some (.group flags none, cs)

/-- The last item repeated; directives and the start of a branch cannot be. -/
def repeatLast? (least : Nat) (most : Option Nat) :
    List (Option Pattern) → Option (List (Option Pattern))
  | some p :: items => some (some (.many p least most) :: items)
  | _ => none

def skipLazy : List Char → List Char
  | '?' :: rest => rest
  | cs => cs

/-- The pattern of a branch; its items are held backwards. -/
def branchOf (items : List (Option Pattern)) : Pattern :=
  allOf (items.reverse.filterMap id)

def deepestGroup : Nat := 250

/-- Read the branches of a group up to its closing parenthesis or the end of the pattern.

The names of groups read so far are passed on, because a name may be given only once. -/
def readBranches : Nat → Nat → Flags → List String → List Pattern → List (Option Pattern) →
    List Char → Option (Pattern × List String × List Char)
  | 0, _, _, _, _, _, _ => none
  | fuel + 1, depth, flags, names, branches, items, cs =>
    match flags.skip cs with
    | [] => some (anyOf (branchOf items :: branches).reverse, names, [])
    | ')' :: rest => some (anyOf (branchOf items :: branches).reverse, names, ')' :: rest)
    | '|' :: rest => readBranches fuel depth flags names (branchOf items :: branches) [] rest
    | '(' :: rest => do
      let (start, rest) ← readGroupStart flags rest
      match start with
      | .directive flags => readBranches fuel depth flags names branches (none :: items) rest
      | .group inner name =>
        if name.any (· ∈ names) || deepestGroup ≤ depth then none
        else
          let (body, names, rest) ←
            readBranches fuel (depth + 1) inner (name.toList ++ names) [] [] rest
          match rest with
          | ')' :: rest => readBranches fuel depth flags names branches (some body :: items) rest
          | _ => none
    | '[' :: rest => do
      let (codes, rest) ← readClass (2 * rest.length + 2) flags rest
      readBranches fuel depth flags names branches (some (.set codes) :: items) rest
    | '*' :: rest => do
      let items ← repeatLast? 0 none items
      readBranches fuel depth flags names branches items (skipLazy rest)
    | '+' :: rest => do
      let items ← repeatLast? 1 none items
      readBranches fuel depth flags names branches items (skipLazy rest)
    | '?' :: rest => do
      let items ← repeatLast? 0 (some 1) items
      readBranches fuel depth flags names branches items (skipLazy rest)
    | '\x7b' :: rest => do
      let ((least, most), rest) ← readBounds flags rest
      let items ← repeatLast? least most items
      readBranches fuel depth flags names branches items rest
    | '.' :: rest =>
      if flags.unicode then
        readBranches fuel depth flags names branches (some (.set (dotSet flags)) :: items) rest
      else none
    | '^' :: rest =>
      readBranches fuel depth flags names branches (some (.look (startLook flags)) :: items) rest
    | '$' :: rest =>
      readBranches fuel depth flags names branches (some (.look (endLook flags)) :: items) rest
    | '\\' :: rest => do
      let (atom, rest) ← readEscape flags rest
      let p ← patternOfAtom? flags atom
      readBranches fuel depth flags names branches (some p :: items) rest
    | c :: rest => do
      let p ← literalPattern? flags c false
      readBranches fuel depth flags names branches (some p :: items) rest

/-- An estimate of the room that a pattern takes when its repetitions are written out. -/
def weight : Pattern → Nat
  | empty => 32
  | set codes => 32 + 64 * (codes.ranges.filter fun (_, high) => 0x80 ≤ high).length
  | look _ => 32
  | seq first second => first.weight + second.weight
  | alt left right => left.weight + right.weight + 32
  | many body least most =>
    body.weight * (max least 1) + 32
      + (match most with | none => 0 | some most => (most - least) * (body.weight + 32))

/-- The largest weight of a pattern that is accepted. -/
def largestWeight : Nat := 10 * 1024 * 1024

/-- The pattern that a text writes down. -/
def ofText? (text : String) : Option Pattern := do
  let cs := text.toList
  let (pattern, _, rest) ← readBranches (2 * cs.length + 2) 0 .initial [] [] [] cs
  if rest.isEmpty && pattern.weight ≤ largestWeight then some pattern else none

end Annals.Pattern
