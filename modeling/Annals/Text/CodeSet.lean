import Annals.Text.Hex

/-!
# Sets of code points

A set of characters is a list of closed ranges of code points. `CodeSet.normal` sorts the ranges
and joins those that touch; the Boolean operations are built from union and complement.

Tables of character properties are written as lines of hexadecimal ranges, `9-d 20 85`, which
`CodeSet.ofLines` reads.
-/

set_option autoImplicit false

namespace Annals

/-- A set of code points, given by closed ranges. -/
structure CodeSet where
  /-- The ranges, each with its first and its last code point. -/
  ranges : List (Nat × Nat)
  deriving DecidableEq, Inhabited

namespace CodeSet

def lastCode : Nat := 0x10ffff

/-- Whether a code point lies in one of the ranges. -/
def containsCode (set : CodeSet) (code : Nat) : Bool :=
  set.ranges.any fun (low, high) => decide (low ≤ code) && decide (code ≤ high)

/-- Whether a character lies in one of the ranges. -/
def contains (set : CodeSet) (c : Char) : Bool :=
  set.containsCode c.toNat

def empty : CodeSet := ⟨[]⟩

def full : CodeSet := ⟨[(0, lastCode)]⟩

def single (c : Char) : CodeSet := ⟨[(c.toNat, c.toNat)]⟩

/-- The set of the characters from one to another. -/
def between (low high : Char) : CodeSet := ⟨[(low.toNat, high.toNat)]⟩

/-- Join the ranges that touch, in a list that is sorted by first code point. -/
def joinSorted : Nat × Nat → List (Nat × Nat) → List (Nat × Nat)
  | current, [] => [current]
  | (low, high), (low', high') :: rest =>
    if low' ≤ high + 1 then joinSorted (low, max high high') rest
    else (low, high) :: joinSorted (low', high') rest

/-- The same set with sorted ranges that do not touch. -/
def normal (set : CodeSet) : CodeSet :=
  match set.ranges.mergeSort fun a b => a.1 ≤ b.1 with
  | [] => empty
  | first :: rest => ⟨joinSorted first rest⟩

def union (a b : CodeSet) : CodeSet :=
  normal ⟨a.ranges ++ b.ranges⟩

/-- The gaps between sorted ranges, from a given code point on. -/
def gapsFrom (start : Nat) : List (Nat × Nat) → List (Nat × Nat)
  | [] => if start ≤ lastCode then [(start, lastCode)] else []
  | (low, high) :: rest =>
    if start < low then (start, low - 1) :: gapsFrom (high + 1) rest
    else gapsFrom (high + 1) rest

def complement (set : CodeSet) : CodeSet :=
  ⟨gapsFrom 0 set.normal.ranges⟩

def inter (a b : CodeSet) : CodeSet :=
  complement (union (complement a) (complement b))

/-- The code points of the first set that are not in the second. -/
def diff (a b : CodeSet) : CodeSet :=
  inter a (complement b)

/-- The code points of exactly one of the sets. -/
def symmDiff (a b : CodeSet) : CodeSet :=
  union (diff a b) (diff b a)

def unions (sets : List CodeSet) : CodeSet :=
  normal ⟨sets.flatMap CodeSet.ranges⟩

/-- The range written by `9-d`, or by `20` for a single code point. -/
def rangeOfWord? (word : List Char) : Option (Nat × Nat) :=
  let low := word.takeWhile (· ≠ '-')
  match word.drop (low.length + 1) with
  | [] => (Hex.ofDigits? low).map fun n => (n, n)
  | high => do
    let a ← Hex.ofDigits? low
    let b ← Hex.ofDigits? high
    return (a, b)

/-- The words of a line, which are separated by single spaces. -/
def wordsOf (current : List Char) : List Char → List (List Char)
  | [] => [current.reverse]
  | ' ' :: rest => current.reverse :: wordsOf [] rest
  | c :: rest => wordsOf (c :: current) rest

def ofLines (lines : List String) : CodeSet :=
  ⟨lines.flatMap fun line => (wordsOf [] line.toList).filterMap rangeOfWord?⟩

end CodeSet

end Annals
