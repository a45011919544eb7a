import Annals.Fact.Properties
import Annals.Time.Reading

/-!
# Snapshots as bytes

The form in which the content of a store is kept outside of it. Numbers have a fixed width and
begin with their least byte; a text or a list begins with its length in eight bytes; a value
begins with the number of its kind in four.

Every reader takes the bytes that are left and returns what it read and the rest, or `none` if
they are not as expected; bytes after a snapshot count for nothing.
-/

set_option autoImplicit false

namespace Annals

/-- The content of a fact, as it is exchanged: names with values. -/
abbrev FactMap := List (String × List Value)

/-- The content of a store at a moment. -/
structure Snapshot where
  version : Nat
  facts : List FactMap
  deriving DecidableEq, Inhabited

namespace Snapshot

abbrev Bytes := List UInt8

/-- The version that this library writes and reads. -/
def currentVersion : Nat := 1

/-! ### Writing -/

def ofNumber : Nat → Nat → Bytes
  | 0, _ => []
  | width + 1, n => UInt8.ofNat n :: ofNumber width (n / 256)

def ofLength (n : Nat) : Bytes := ofNumber 8 n

def ofText (text : String) : Bytes :=
  let bytes := text.toUTF8.data.toList
  ofLength bytes.length ++ bytes

def ofList {α : Type} (write : α → Bytes) (items : List α) : Bytes :=
  ofLength items.length ++ items.flatMap write

/-- A value. -/
def ofValue : Value → Bytes
  | .int n => ofNumber 4 0 ++ ofNumber 8 n.toUInt64.toNat
  | .float x => ofNumber 4 1 ++ ofNumber 8 x.bits.toNat
  | .str s => ofNumber 4 2 ++ ofText s
  | .time t => ofNumber 4 3 ++ ofText t.fullText

def ofEntry (entry : String × List Value) : Bytes :=
  ofText entry.1 ++ ofList ofValue entry.2

def toBytes (snapshot : Snapshot) : Bytes :=
  ofNumber 4 snapshot.version ++ ofList (ofList ofEntry) snapshot.facts

/-! ### Reading -/

/-- Read a number in so many bytes. -/
def takeNumber : Nat → Bytes → Option (Nat × Bytes)
  | 0, bytes => some (0, bytes)
  | _ + 1, [] => none
  | width + 1, b :: rest =>
    (takeNumber width rest).map fun (n, rest) => (b.toNat + 256 * n, rest)

/-- Read so many bytes. -/
def takeBytes : Nat → Bytes → Option (Bytes × Bytes)
  | 0, bytes => some ([], bytes)
  | _ + 1, [] => none
  | count + 1, b :: rest => (takeBytes count rest).map fun (taken, rest) => (b :: taken, rest)

/-- Read so many items, where `read` reads one. -/
def takeMany {α : Type} (read : Bytes → Option (α × Bytes)) :
    Nat → Bytes → Option (List α × Bytes)
  | 0, bytes => some ([], bytes)
  | count + 1, bytes => do
    let (item, bytes) ← read bytes
    let (items, bytes) ← takeMany read count bytes
    return (item :: items, bytes)

def takeLength (bytes : Bytes) : Option (Nat × Bytes) := takeNumber 8 bytes

/-- Read a text. -/
def takeText (bytes : Bytes) : Option (String × Bytes) := do
  let (count, bytes) ← takeLength bytes
  let (taken, bytes) ← takeBytes count bytes
  let text ← String.fromUTF8? ⟨taken.toArray⟩
  return (text, bytes)

/-- Read a list, where `read` reads an item. -/
def takeList {α : Type} (read : Bytes → Option (α × Bytes)) (bytes : Bytes) :
    Option (List α × Bytes) := do
  let (count, bytes) ← takeLength bytes
  takeMany read count bytes

/-- Read a value. -/
def takeValue (bytes : Bytes) : Option (Value × Bytes) := do
  let (kind, bytes) ← takeNumber 4 bytes
  match kind with
  | 0 => (takeNumber 8 bytes).map fun (n, rest) => (.int (UInt64.ofNat n).toInt64, rest)
  | 1 => (takeNumber 8 bytes).map fun (n, rest) => (.float ⟨UInt64.ofNat n⟩, rest)
  | 2 => (takeText bytes).map fun (s, rest) => (.str s, rest)
  | 3 => do
    let (s, rest) ← takeText bytes
    let t ← Instant.ofFullText? s
    return (.time t, rest)
  | _ => none

/-- Read a name with values. -/
def takeEntry (bytes : Bytes) : Option ((String × List Value) × Bytes) := do
  let (name, bytes) ← takeText bytes
  let (values, bytes) ← takeList takeValue bytes
  return ((name, values), bytes)

/-- The snapshot at the beginning of some bytes. -/
def ofBytes? (bytes : Bytes) : Option Snapshot := do
  let (version, bytes) ← takeNumber 4 bytes
  let (facts, _) ← takeList (takeList takeEntry) bytes
  return ⟨version, facts⟩

end Snapshot

end Annals
