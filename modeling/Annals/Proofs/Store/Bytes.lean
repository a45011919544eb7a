import Annals.Proofs.Time.Reading
import Annals.Store.Bytes

/-!
# Snapshots are read back

What is written of a snapshot is read back as that snapshot, bit by bit, except that an instant is
read back as the regular one that has its text. A length takes eight bytes, so this holds of
everything that has a length of less than `2 ^ 64`, as anything in memory has; it is asked of the
bytes as a whole, and every part of them is shorter.

* `Snapshot.Restores` is the law of a writer with its reader: an item is read back as what is said
  of it, and what comes after it is left over.
* `Snapshot.restores_list` gives the law for lists, from the law for their items.
* `Snapshot.settled` is a snapshot with regular instants only.
* `Snapshot.ofBytes?_toBytes` is the result.
-/

set_option autoImplicit false

namespace Annals

/-- The value that is read back: an instant is settled. -/
def Value.settled : Value → Value
  | time t => time t.settled
  | v => v

/-- The content of a fact that is read back. -/
def FactMap.settled (map : FactMap) : FactMap :=
  map.map fun entry => (entry.1, entry.2.map Value.settled)

namespace Snapshot

/-- The snapshot that is read back. -/
def settled (snapshot : Snapshot) : Snapshot :=
  { snapshot with facts := snapshot.facts.map FactMap.settled }

/-- Of an item whose bytes fit into memory, a given item is read back, whatever comes after them. -/
def Restores {α : Type} (write : α → Bytes) (read : Bytes → Option (α × Bytes))
    (item again : α) : Prop :=
  (write item).length < 2 ^ 64 → ∀ rest, read (write item ++ rest) = some (again, rest)

/-! ### Numbers and texts -/

@[simp] theorem length_ofNumber (width n : Nat) : (ofNumber width n).length = width := by
  induction width generalizing n with
  | zero => rfl
  | succ width ih => simp only [ofNumber, List.length_cons, ih]

@[simp] theorem length_ofLength (n : Nat) : (ofLength n).length = 8 := length_ofNumber 8 n

theorem takeNumber_ofNumber {width n : Nat} (fits : n < 256 ^ width) (rest : Bytes) :
    takeNumber width (ofNumber width n ++ rest) = some (n, rest) := by
  induction width generalizing n with
  | zero =>
    have zero : n = 0 := by
      rw [Nat.pow_zero] at fits
      omega
    rw [zero]
    rfl
  | succ width ih =>
    have higher : n / 256 < 256 ^ width := by
      rw [Nat.pow_succ] at fits
      exact Nat.div_lt_of_lt_mul (Nat.mul_comm (256 ^ width) 256 ▸ fits)
    have lowest : (UInt8.ofNat n).toNat = n % 256 := UInt8.toNat_ofNat'
    simp only [ofNumber, List.cons_append, takeNumber, ih higher, Option.map_some, lowest,
      Nat.mod_add_div]

theorem takeLength_ofLength {n : Nat} (fits : n < 2 ^ 64) (rest : Bytes) :
    takeLength (ofLength n ++ rest) = some (n, rest) :=
  takeNumber_ofNumber fits rest

theorem takeBytes_append (bytes rest : Bytes) :
    takeBytes bytes.length (bytes ++ rest) = some (bytes, rest) := by
  induction bytes with
  | nil => rfl
  | cons b bytes ih =>
    simp only [List.length_cons, List.cons_append, takeBytes, ih, Option.map_some]

theorem fromUTF8?_toUTF8 (text : String) :
    String.fromUTF8? ⟨text.toUTF8.data.toList.toArray⟩ = some text := by
  rw [Array.toArray_toList]
  exact dif_pos text.isValidUTF8

theorem restores_text (text : String) : Restores ofText takeText text text := by
  intro short rest
  have fits : text.toUTF8.data.toList.length < 2 ^ 64 := by
    rw [ofText, List.length_append] at short
    omega
  simp only [ofText, takeText, List.append_assoc, takeLength_ofLength fits, takeBytes_append,
    fromUTF8?_toUTF8, Option.bind_eq_bind, Option.bind_some]
  rfl

/-! ### Lists -/

section Lists

variable {α : Type} {write : α → Bytes} {read : Bytes → Option (α × Bytes)} {items : List α}
  {again : α → α}

theorem length_le_flatMap (some : ∀ item ∈ items, 0 < (write item).length) :
    items.length ≤ (items.flatMap write).length := by
  induction items with
  | nil => exact Nat.le_refl 0
  | cons item rest ih =>
    have first := some item List.mem_cons_self
    have others := ih (fun other mem => some other (List.mem_cons_of_mem item mem))
    rw [List.flatMap_cons, List.length_append, List.length_cons]
    omega

theorem length_le_of_mem (write : α → Bytes) {item : α} (mem : item ∈ items) :
    (write item).length ≤ (items.flatMap write).length := by
  obtain ⟨before, after, rfl⟩ := List.append_of_mem mem
  simp only [List.flatMap_append, List.flatMap_cons, List.length_append]
  omega

theorem takeMany_flatMap
    (each : ∀ item ∈ items, ∀ rest, read (write item ++ rest) = some (again item, rest))
    (rest : Bytes) :
    takeMany read items.length (items.flatMap write ++ rest) = some (items.map again, rest) := by
  induction items with
  | nil => rfl
  | cons item others ih =>
    have first := each item List.mem_cons_self (others.flatMap write ++ rest)
    have later := ih (fun other mem => each other (List.mem_cons_of_mem item mem))
    simp only [List.length_cons, List.flatMap_cons, List.append_assoc, takeMany, first, later,
      Option.bind_eq_bind, Option.bind_some]
    rfl

/-- A list is read back if each of its items is, and takes some bytes. -/
theorem restores_list (each : ∀ item ∈ items, Restores write read item (again item))
    (some : ∀ item ∈ items, 0 < (write item).length) :
    Restores (ofList write) (takeList read) items (items.map again) := by
  intro short rest
  rw [ofList, List.length_append] at short
  have count := length_le_flatMap some
  have fits : items.length < 2 ^ 64 := by omega
  have items : ∀ item ∈ items, ∀ rest, read (write item ++ rest) = .some (again item, rest) := by
    intro item mem
    have part := length_le_of_mem write mem
    exact each item mem (by omega)
  simp only [ofList, takeList, List.append_assoc, takeLength_ofLength fits, Option.bind_eq_bind,
    Option.bind_some]
  exact takeMany_flatMap items rest

theorem length_ofList_pos : 0 < (ofList write items).length := by
  rw [ofList, List.length_append, length_ofLength]
  omega

end Lists

/-! ### Snapshots -/

theorem restores_value (value : Value) : Restores ofValue takeValue value value.settled := by
  intro short rest
  cases value with
  | int n =>
    have kind := takeNumber_ofNumber (show 0 < 256 ^ 4 by decide)
      (ofNumber 8 n.toUInt64.toNat ++ rest)
    have number := takeNumber_ofNumber (show _ < 256 ^ 8 from n.toUInt64.toNat_lt) rest
    simp only [ofValue, takeValue, List.append_assoc, kind, number, Option.bind_eq_bind,
      Option.bind_some, Option.map_some, UInt64.ofNat_toNat, Int64.toInt64_toUInt64, Value.settled]
  | float x =>
    have kind := takeNumber_ofNumber (show 1 < 256 ^ 4 by decide)
      (ofNumber 8 x.bits.toNat ++ rest)
    have number := takeNumber_ofNumber (show _ < 256 ^ 8 from x.bits.toNat_lt) rest
    simp only [ofValue, takeValue, List.append_assoc, kind, number, Option.bind_eq_bind,
      Option.bind_some, Option.map_some, UInt64.ofNat_toNat, Value.settled]
  | str s =>
    have kind := takeNumber_ofNumber (show 2 < 256 ^ 4 by decide) (ofText s ++ rest)
    have text : (ofText s).length < 2 ^ 64 := by
      rw [ofValue, List.length_append] at short
      omega
    simp only [ofValue, takeValue, List.append_assoc, kind, restores_text s text rest,
      Option.bind_eq_bind, Option.bind_some, Option.map_some, Value.settled]
  | time t =>
    have kind := takeNumber_ofNumber (show 3 < 256 ^ 4 by decide) (ofText t.fullText ++ rest)
    have text : (ofText t.fullText).length < 2 ^ 64 := by
      rw [ofValue, List.length_append] at short
      omega
    simp only [ofValue, takeValue, List.append_assoc, kind, restores_text t.fullText text rest,
      Instant.ofFullText?_fullText, Option.bind_eq_bind, Option.bind_some]
    rfl

theorem length_ofValue_pos (value : Value) : 0 < (ofValue value).length := by
  cases value <;> simp only [ofValue, List.length_append, length_ofNumber] <;> omega

theorem restores_entry (entry : String × List Value) :
    Restores ofEntry takeEntry entry (entry.1, entry.2.map Value.settled) := by
  intro short rest
  obtain ⟨name, values⟩ := entry
  simp only [ofEntry, List.length_append] at short
  have text := restores_text name (by omega) (ofList ofValue values ++ rest)
  have list : Restores (ofList ofValue) (takeList takeValue) values (values.map Value.settled) :=
    restores_list (fun value _ => restores_value value) (fun value _ => length_ofValue_pos value)
  simp only [ofEntry, takeEntry, List.append_assoc, text, list (by omega) rest, Option.bind_eq_bind,
    Option.bind_some]
  rfl

theorem length_ofEntry_pos (entry : String × List Value) : 0 < (ofEntry entry).length := by
  simp only [ofEntry, ofText, List.length_append, length_ofLength]
  omega

/-- Read a snapshot, and say what is left over. -/
def takeSnapshot (bytes : Bytes) : Option (Snapshot × Bytes) := do
  let (version, bytes) ← takeNumber 4 bytes
  let (facts, bytes) ← takeList (takeList takeEntry) bytes
  return (⟨version, facts⟩, bytes)

/-- A snapshot is what is read of it, without what is left over. -/
theorem ofBytes?_eq (bytes : Bytes) : ofBytes? bytes = (takeSnapshot bytes).map Prod.fst := by
  unfold ofBytes? takeSnapshot
  cases takeNumber 4 bytes with
  | none => rfl
  | some taken =>
    obtain ⟨version, bytes⟩ := taken
    simp only [Option.bind_eq_bind, Option.bind_some]
    cases takeList (takeList takeEntry) bytes <;> rfl

theorem restores_snapshot {snapshot : Snapshot} (version : snapshot.version < 256 ^ 4) :
    Restores toBytes takeSnapshot snapshot snapshot.settled := by
  intro fits rest
  have facts : Restores (ofList (ofList ofEntry)) (takeList (takeList takeEntry)) snapshot.facts
      (snapshot.facts.map FactMap.settled) :=
    restores_list
      (fun fact _ => restores_list (fun entry _ => restores_entry entry)
        (fun entry _ => length_ofEntry_pos entry))
      (fun _ _ => length_ofList_pos)
  rw [toBytes, List.length_append] at fits
  have number := takeNumber_ofNumber version (ofList (ofList ofEntry) snapshot.facts ++ rest)
  simp only [toBytes, takeSnapshot, List.append_assoc, number, facts (by omega) rest,
    Option.bind_eq_bind, Option.bind_some]
  rfl

/-- A snapshot whose bytes fit into memory is read back from them, whatever comes after. -/
theorem ofBytes?_toBytes {snapshot : Snapshot} (version : snapshot.version < 256 ^ 4)
    (fits : snapshot.toBytes.length < 2 ^ 64) (rest : Bytes) :
    ofBytes? (snapshot.toBytes ++ rest) = some snapshot.settled := by
  rw [ofBytes?_eq, restores_snapshot version fits rest]
  rfl

end Snapshot

end Annals
