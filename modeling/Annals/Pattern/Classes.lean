import Annals.Pattern.Basic
import Annals.Pattern.Category
import Annals.Pattern.Folding
import Annals.Pattern.Property
import Annals.Pattern.Script

/-!
# Classes of characters

The classes that a pattern can name: the digits, spaces and word characters, the classes of the
ASCII range, and the categories, scripts and properties of characters.
-/

set_option autoImplicit false

namespace Annals.Pattern

/-- The set of the first entry of a table that has a given name. -/
def fromTable (table : List (List String × List String)) (name : String) : Option CodeSet :=
  (table.find? fun (names, _) => name ∈ names).map fun (_, lines) => CodeSet.ofLines lines

/-- The categories that are unions of others: their names, and the names of their parts. -/
def categoryGroups : List (List String × List String) := [
  (["lc", "casedletter"], ["lu", "ll", "lt"]),
  (["l", "letter"], ["lu", "ll", "lt", "lm", "lo"]),
  (["m", "mark", "combiningmark"], ["mn", "mc", "me"]),
  (["n", "number"], ["nd", "nl", "no"]),
  (["p", "punctuation", "punct"], ["pc", "pd", "ps", "pe", "pi", "pf", "po"]),
  (["s", "symbol"], ["sm", "sc", "sk", "so"]),
  (["z", "separator"], ["zs", "zl", "zp"]),
  (["c", "other"], ["cc", "cf", "cs", "co", "cn"])]

/-- The general category with a given name. -/
def category? (name : String) : Option CodeSet :=
  match name with
  | "any" => some .full
  | "assigned" => (fromTable categoryTable "cn").map CodeSet.complement
  | "ascii" => some ⟨[(0, 0x7f)]⟩
  | _ =>
    match categoryGroups.find? fun (names, _) => name ∈ names with
    | some (_, parts) => some (CodeSet.unions (parts.filterMap (fromTable categoryTable)))
    | none => fromTable categoryTable name

/-- A name in lower case and without separators; a leading `is` counts for nothing. -/
def looseName (name : List Char) : String :=
  let lower := name.filterMap fun c =>
    if c = ' ' ∨ c = '_' ∨ c = '-' then none else some c.toLower
  match lower with
  | 'i' :: 's' :: rest =>
    if rest = ['c'] then "isc" else String.ofList rest
  | _ => String.ofList lower

/-- The class with a given name: a property, a category or a script, in this order; but `cf`,
`sc` and `lc` are categories. -/
def named? (name : String) : Option CodeSet :=
  let property := if name ∈ ["cf", "sc", "lc"] then none else fromTable propertyTable name
  property <|> category? name <|> fromTable scriptTable name

/-- The class of the characters for which a property has a given value. -/
def valued? (property value : String) : Option CodeSet :=
  if property ∈ ["gc", "generalcategory"] then category? value
  else if property ∈ ["sc", "script"] then fromTable scriptTable value
  else none

def digits (unicode : Bool) : CodeSet :=
  if unicode then (fromTable categoryTable "nd").getD .empty else .between '0' '9'

def spaces (unicode : Bool) : CodeSet :=
  if unicode then (fromTable propertyTable "whitespace").getD .empty
  else ⟨[(0x9, 0xd), (0x20, 0x20)]⟩

/-- The letters, digits and underscore of the ASCII range. -/
def asciiWord : CodeSet :=
  ⟨[(0x30, 0x39), (0x41, 0x5a), (0x5f, 0x5f), (0x61, 0x7a)]⟩

/-- The characters of which words consist. -/
def wordChars (unicode : Bool) : CodeSet :=
  if unicode then
    CodeSet.unions ((["alphabetic", "joincontrol"].filterMap (fromTable propertyTable))
      ++ (["m", "nd", "pc"].filterMap category?))
  else asciiWord

/-- The class of the ASCII range with a given name. -/
def asciiClass? : String → Option CodeSet
  | "alnum" => some ⟨[(0x30, 0x39), (0x41, 0x5a), (0x61, 0x7a)]⟩
  | "alpha" => some ⟨[(0x41, 0x5a), (0x61, 0x7a)]⟩
  | "ascii" => some ⟨[(0, 0x7f)]⟩
  | "blank" => some ⟨[(0x9, 0x9), (0x20, 0x20)]⟩
  | "cntrl" => some ⟨[(0, 0x1f), (0x7f, 0x7f)]⟩
  | "digit" => some ⟨[(0x30, 0x39)]⟩
  | "graph" => some ⟨[(0x21, 0x7e)]⟩
  | "lower" => some ⟨[(0x61, 0x7a)]⟩
  | "print" => some ⟨[(0x20, 0x7e)]⟩
  | "punct" => some ⟨[(0x21, 0x2f), (0x3a, 0x40), (0x5b, 0x60), (0x7b, 0x7e)]⟩
  | "space" => some ⟨[(0x9, 0xd), (0x20, 0x20)]⟩
  | "upper" => some ⟨[(0x41, 0x5a)]⟩
  | "word" => some asciiWord
  | "xdigit" => some ⟨[(0x30, 0x39), (0x41, 0x46), (0x61, 0x66)]⟩
  | _ => none

/-- The set with the other case of every letter of the ASCII range in it. -/
def asciiFoldClosure (set : CodeSet) : CodeSet :=
  let letters := (List.range 26).flatMap fun i =>
    if set.containsCode (0x41 + i) || set.containsCode (0x61 + i) then
      [(0x41 + i, 0x41 + i), (0x61 + i, 0x61 + i)]
    else []
  set.union ⟨letters⟩

end Annals.Pattern
