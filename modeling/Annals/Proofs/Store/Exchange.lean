import Annals.Proofs.Fact.Merged
import Annals.Proofs.Store.Bytes

/-!
# Exchange of content between stores

What one store exports, every other store imports, whatever it held before, as long as none of the
names is reserved there; and then both hold the same, value by value, as long as every instant is
read back from its text, which the regular ones are.

* `Ledger.maps_replaceAll`: content that was replaced is the new content.
* `Store.Regular` says that every instant of a store is regular.
* `Store.factsOf_maps`: every fact of a store passes the checks of a store that reserves none of
  its names, and is read as it is.
* `Store.factsOf_eq_ok_iff`: which maps are accepted, and what they are read as;
  `Store.factsOf_settled`: the content of a store is accepted with settled instants as well.
* `Store.import_export` is the result.
-/

set_option autoImplicit false

namespace Annals

/-- The content that replaces another is what the store holds then. -/
theorem Ledger.maps_replaceAll (l : Ledger) (reserved : List String) (facts : List Properties) :
    (l.replaceAll reserved facts).maps = facts := by
  refine List.ext_getElem ?_ ?_
  · simp only [maps, replaceAll, List.length_map, List.length_range]
  · intro i _ bound
    simp [maps, replaceAll, Register.addAll_eq, Register.contents, Register.cell,
      Array.getD_eq_getD_getElem?, bound]

namespace Store

variable {s t : Store}

/-- The facts of a store are orderly. -/
theorem Reachable.orderly (reachable : s.Reachable) : ∀ p ∈ s.maps, p.Orderly := by
  intro p mem
  obtain ⟨id, -, rfl⟩ := List.mem_map.mp mem
  exact reachable.stable Properties.stable_orderly id

/-- The content of a store is read as it is where none of its names is reserved. -/
theorem factsOf_maps (reachable : s.Reachable) {reserved : List String}
    (allowed : ∀ p ∈ s.maps, ∀ name ∈ p.names, name ∉ reserved) :
    factsOf reserved (s.maps.map Properties.entries) = .ok s.maps := by
  apply mapM_map_eq
  intro p mem
  exact Properties.ofPairs_entries (reachable.orderly p mem) (allowed p mem)

/-- A value that may be held may be held with its instants settled. -/
theorem checkValue_settled {name : String} {v : Value}
    (storable : Properties.checkValue name v = .ok ()) :
    Properties.checkValue name v.settled = .ok () := by
  cases v with
  | time t => rfl
  | int n => exact storable
  | float x => exact storable
  | str text => exact storable

/-- Maps are accepted if every name may be written with its values, and they are read as what they
merge into. -/
theorem factsOf_eq_ok_iff {reserved : List String} {maps : List FactMap} {facts : List Properties} :
    factsOf reserved maps = .ok facts ↔
      (∀ map ∈ maps, ∀ pair ∈ map, Properties.Admissible reserved pair.1 pair.2) ∧
        facts = maps.map Properties.merged :=
  mapM_eq_ok_iff fun _ _ => Properties.ofPairs_eq_ok_iff

/-- The content of a store is accepted with settled instants. -/
theorem factsOf_settled (reachable : s.Reachable) {reserved : List String}
    (allowed : ∀ p ∈ s.maps, ∀ name ∈ p.names, name ∉ reserved) :
    factsOf reserved (s.maps.map fun p => FactMap.settled p.entries)
      = .ok ((s.maps.map fun p => FactMap.settled p.entries).map Properties.merged) := by
  refine factsOf_eq_ok_iff.mpr ⟨?_, rfl⟩
  intro map isMap pair isPair
  obtain ⟨p, mem, rfl⟩ := List.mem_map.mp isMap
  obtain ⟨entry, isEntry, rfl⟩ := List.mem_map.mp isPair
  have written := (reachable.orderly p mem).written entry isEntry
  have name := allowed p mem entry.1 (List.mem_map_of_mem isEntry)
  refine Properties.admissible_iff.mpr ⟨?_, ?_⟩
  · exact fun none => written.nonempty (List.map_eq_nil_iff.mp none)
  · intro value isValue
    obtain ⟨before, isBefore, rfl⟩ := List.mem_map.mp isValue
    exact Properties.check_ok_iff.mpr
      ⟨⟨written.wellFormed, written.free, name⟩, checkValue_settled (written.checked _ isBefore)⟩

/-- Whether every instant that the facts of a store hold is regular, which is to say that it is read
back from its text (`Instant.readsBack_iff`). -/
def Regular (s : Store) : Prop :=
  ∀ p ∈ s.maps, ∀ entry ∈ p.entries, ∀ t, Value.time t ∈ entry.2 → t.Regular

theorem Regular.settled_entries (regular : s.Regular) :
    (s.maps.map fun p => FactMap.settled p.entries) = s.maps.map Properties.entries := by
  refine List.map_congr_left fun p mem => ?_
  have entries : ∀ entry ∈ p.entries, (entry.1, entry.2.map Value.settled) = id entry := by
    intro entry isEntry
    have values : ∀ v ∈ entry.2, v.settled = id v := by
      intro v isValue
      cases v with
      | time t =>
        exact congrArg Value.time (Instant.settled_eq (regular p mem entry isEntry t isValue))
      | int n => rfl
      | float x => rfl
      | str text => rfl
    rw [List.map_congr_left values, List.map_id]
    rfl
  rw [FactMap.settled, List.map_congr_left entries, List.map_id]

theorem mapsOfBytes_exportBytes (fits : s.exportBytes.length < 2 ^ 64) :
    mapsOfBytes s.exportBytes = .ok (s.maps.map fun p => FactMap.settled p.entries) := by
  have version : s.snapshot.version < 256 ^ 4 := by
    show Snapshot.currentVersion < 256 ^ 4
    decide
  have read : Snapshot.ofBytes? s.exportBytes = some s.snapshot.settled := by
    have read := Snapshot.ofBytes?_toBytes version fits []
    rw [List.append_nil] at read
    exact read
  have content : s.snapshot.settled.facts = s.maps.map fun p => FactMap.settled p.entries :=
    List.map_map
  rw [mapsOfBytes, read, ← content]
  exact if_pos rfl

/-- An import of what a store exports succeeds and replaces the content. -/
theorem importBytes_exportBytes (reachable : s.Reachable)
    (allowed : ∀ p ∈ s.maps, ∀ name ∈ p.names, name ∉ t.config.reservedNames)
    (fits : s.exportBytes.length < 2 ^ 64) :
    (t.importBytes s.exportBytes).1 = .ok ()
      ∧ (s.Regular → (t.importBytes s.exportBytes).2.maps = s.maps) := by
  constructor
  · simp only [importBytes, mapsOfBytes_exportBytes fits, replaceWith,
      factsOf_settled reachable allowed]
  · intro regular
    simp only [importBytes, mapsOfBytes_exportBytes fits, replaceWith, regular.settled_entries,
      factsOf_maps reachable allowed]
    exact Ledger.maps_replaceAll _ _ _

/-- What a store exports is imported by every store that reserves none of its names, whatever that
store held before, and then, if every instant is regular and so is read back from its text, both
hold the same: the same facts with the same properties and the same values in the same order. In
particular there is always a new store with that content. -/
theorem import_export (reachable : s.Reachable)
    (allowed : ∀ p ∈ s.maps, ∀ name ∈ p.names, name ∉ t.config.reservedNames)
    (fits : s.exportBytes.length < 2 ^ 64) :
    (t.importBytes s.exportBytes).1 = .ok ()
      ∧ (s.Regular → (t.importBytes s.exportBytes).2.maps = s.maps)
      ∧ ∃ u, ofBytes s.exportBytes = .ok u ∧ (s.Regular → u.maps = s.maps) := by
  obtain ⟨ok, same⟩ := importBytes_exportBytes reachable allowed fits
  refine ⟨ok, same, ?_⟩
  have free : ∀ p ∈ s.maps, ∀ name ∈ p.names,
      name ∉ (create .standard .empty).config.reservedNames := by
    intro p _ name _
    exact List.not_mem_nil
  obtain ⟨ok, same⟩ := importBytes_exportBytes reachable free fits
  refine ⟨_, ?_, same⟩
  unfold ofBytes
  split
  · next imported => rw [imported]
  · next refused =>
    rw [refused] at ok
    cases ok

/-- The half of the leap second at the end of 2016. -/
def leapSecond : Instant := ⟨1483228799, 1500000000, by decide⟩

/-- A store with a fact of every kind of value, after a second fact and a refused write. -/
def travelled : Store :=
  let first := (create .standard .empty).insert
  let named := first.2.write first.1 "name" (.str "Zoë")
  let timed := named.2.write first.1 "seen" (.time leapSecond)
  let second := timed.2.insert
  let counted := second.2.write second.1 "count" (.int (-3))
  let again := counted.2.write second.1 "count" (.float ⟨0x8000000000000000⟩)
  (again.2.write second.1 "count" (.int (-3))).2

theorem travelled_reachable : travelled.Reachable :=
  .step (.step (.step (.step (.step (.step (.step (.create .standard .empty) (.insert _))
    (.write _ _ _ _)) (.write _ _ _ _)) (.insert _)) (.write _ _ _ _)) (.write _ _ _ _))
    (.write _ _ _ _)

def travelledMaps : List Properties :=
  [⟨[("name", [.str "Zoë"]), ("seen", [.time leapSecond])]⟩,
    ⟨[("count", [.int (-3), .float ⟨0x8000000000000000⟩])]⟩]

/-- A store that holds another fact and reserves a name, in the middle of a transaction. -/
def host : Store :=
  let first := (create { Config.standard with reservedNames := ["host"] } .empty).insert
  (first.2.write first.1 "name" (.str "Ida")).2.openTransaction.2

theorem travelled_maps : travelled.maps = travelledMaps := by decide +kernel

theorem travelled_regular : travelled.Regular := by
  intro p mem entry isEntry t isTime
  have regular : ∀ p ∈ travelledMaps, ∀ entry ∈ p.entries, ∀ v ∈ entry.2, v.settled = v := by
    decide +kernel
  have settled := regular p (travelled_maps ▸ mem) entry isEntry _ isTime
  exact Instant.settled_eq_self_iff.mp (Value.time.inj settled)

/-- The instants of a store are regular, half of a leap second among them, and the store in the
middle of a transaction holds the same after the import. -/
theorem import_export_travelled :
    travelled.Regular ∧ (host.importBytes travelled.exportBytes).1 = .ok ()
      ∧ (host.importBytes travelled.exportBytes).2.maps = travelledMaps := by
  have allowed : ∀ p ∈ travelled.maps, ∀ name ∈ p.names, name ∉ host.config.reservedNames := by
    decide +kernel
  have imported := import_export (t := host) travelled_reachable allowed (by decide +kernel)
  exact ⟨travelled_regular, imported.1, (imported.2.1 travelled_regular).trans travelled_maps⟩

end Store

end Annals
