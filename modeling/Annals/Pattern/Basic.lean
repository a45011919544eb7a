import Annals.Text.CodeSet

/-!
# Patterns

A pattern is a regular expression with assertions about the place where it is read. What matters
of a match is only whether there is one, so repetitions are neither greedy nor lazy.

A pattern is a function on sets of places of a text: from the places where a match may begin to
the places where it can end. A set of places is a natural number, whose bit `i` says whether the
place before the character `i` belongs to the set.

* `Pattern.ends` is that function.
* `Pattern.isFoundIn` asks for a match anywhere in a text.
-/

set_option autoImplicit false

namespace Annals

/-- A place in a text, by its neighbours. -/
structure Place where
  before : Option Char
  after : Option Char

/-- A condition on the neighbours of a place. -/
inductive Look where
  | textStart
  | textEnd
  | lineStart
  | lineEnd
  /-- The start of a line, where a carriage return ends a line too. -/
  | wideLineStart
  /-- The end of a line, where a carriage return ends a line too. -/
  | wideLineEnd
  /-- Exactly one of the neighbours is a character of a word. -/
  | wordEdge (word : CodeSet)
  /-- Both neighbours are characters of a word, or neither is. -/
  | noWordEdge (word : CodeSet)
  | wordStart (word : CodeSet)
  | wordEnd (word : CodeSet)
  /-- No character of a word stands before. -/
  | halfStart (word : CodeSet)
  /-- No character of a word stands after. -/
  | halfEnd (word : CodeSet)

namespace Look

/-- Whether a neighbour is a character of a set. -/
def isIn (set : CodeSet) (neighbour : Option Char) : Bool :=
  neighbour.any set.contains

/-- Whether a condition holds at a place. -/
def holdsAt (place : Place) : Look → Bool
  | textStart => place.before.isNone
  | textEnd => place.after.isNone
  | lineStart => place.before.isNone || place.before == some '\n'
  | lineEnd => place.after.isNone || place.after == some '\n'
  | wideLineStart =>
    place.before.isNone || place.before == some '\n'
      || place.before == some '\r' && place.after != some '\n'
  | wideLineEnd =>
    place.after.isNone || place.after == some '\r'
      || place.after == some '\n' && place.before != some '\r'
  | wordEdge word => isIn word place.before != isIn word place.after
  | noWordEdge word => isIn word place.before == isIn word place.after
  | wordStart word => !isIn word place.before && isIn word place.after
  | wordEnd word => isIn word place.before && !isIn word place.after
  | halfStart word => !isIn word place.before
  | halfEnd word => !isIn word place.after

end Look

/-- A regular expression. -/
inductive Pattern where
  | empty
  | set (codes : CodeSet)
  /-- The empty text at a place of some kind. -/
  | look (condition : Look)
  | seq (first second : Pattern)
  | alt (left right : Pattern)
  /-- A pattern several times; without an upper bound, any number of times. -/
  | many (body : Pattern) (least : Nat) (most : Option Nat)

namespace Pattern

/-- The places of a text, given the character before it. -/
def placesAfter (before : Option Char) : List Char → List Place
  | [] => [⟨before, none⟩]
  | c :: rest => ⟨before, some c⟩ :: placesAfter (some c) rest

/-- The places of a text; there is one more of them than of characters. -/
def places (text : List Char) : List Place :=
  placesAfter none text

/-- The set of the places with some property. -/
def placesWhere (p : Place → Bool) : List Place → Nat
  | [] => 0
  | place :: rest => (if p place then 1 else 0) + 2 * placesWhere p rest

/-- Apply a step a number of times, or until it changes nothing. -/
def iterate (step : Nat → Nat) : Nat → Nat → Nat
  | 0, s => s
  | n + 1, s =>
    let next := step s
    if next = s then s else iterate step n next

/-- The places where a match can end that begins in a given set of places.

Any number of repetitions are at most as many as there are places: each one that is worth its
while reaches a place that was not reached before. -/
def ends (text : List Place) : Pattern → Nat → Nat
  | empty, starts => starts
  | set codes, starts =>
    (starts &&& placesWhere (fun place => Look.isIn codes place.after) text) <<< 1
  | look condition, starts => starts &&& placesWhere (condition.holdsAt ·) text
  | seq first second, starts => second.ends text (first.ends text starts)
  | alt left right, starts => left.ends text starts ||| right.ends text starts
  | many body least most, starts =>
    let reached := iterate (body.ends text) least starts
    let extra := match most with
      | none => text.length
      | some most => most - least
    iterate (fun s => s ||| body.ends text s) extra reached

/-- Whether there is a match anywhere in a text. -/
def isFoundIn (pattern : Pattern) (text : String) : Bool :=
  let text := places text.toList
  pattern.ends text ((1 <<< text.length) - 1) != 0

/-- The pattern of any of a list of patterns. -/
def anyOf : List Pattern → Pattern
  | [] => empty
  | [p] => p
  | p :: rest => alt p (anyOf rest)

/-- The pattern of a list of patterns, one after another. -/
def allOf : List Pattern → Pattern
  | [] => empty
  | [p] => p
  | p :: rest => seq p (allOf rest)

end Pattern

end Annals
