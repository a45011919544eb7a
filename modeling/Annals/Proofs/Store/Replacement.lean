import Annals.Proofs.Fact.Merged
import Annals.Proofs.Store.Exchange
import Annals.Proofs.Store.Proper

/-!
# Replacing the content of a store

The content of a store is replaced by that of given maps as a whole or not at all. What the store
holds then is said by the maps alone, and nobody who knows a fact from before can change it: the
facts of the store are new ones, and the old ones never come back.

* `Store.maps_write_apart`: writes to a fact that the store does not hold leave its content alone.
* `Store.LeadsTo.young`: whatever happens after a replacement, the store holds new facts only.
* `Store.replaceWith_exact` is the result.
-/

set_option autoImplicit false

namespace Annals.Store

variable {s s' : Store}

/-- A write changes the fact of its handle and no other. -/
theorem properties_write_apart (s : Store) {h : Handle} {id : FactId} (apart : id ≠ h.id)
    (name : String) (value : Value) : (s.write h name value).2.properties id = s.properties id := by
  rcases s.write_cases h name value with same | ⟨p, change, added, ended⟩
  · rw [same]
  · obtain ⟨times, heard⟩ := (s.written h.id p).notify_heard h.id change h.listeners
    have written : (s.written h.id p).ledger.register.cell id = s.ledger.register.cell id := by
      show (s.ledger.register.replace h.id p).cell id = _
      rw [Register.cell_replace, if_neg fun here => apart here.1]
    have told : ((s.written h.id p).notify h.id change h.listeners).2.ledger.register.cell id
        = s.ledger.register.cell id := by
      rw [heard.ledger]
      exact written
    rcases ended with ⟨-, same⟩ | ⟨e, -, -, same⟩
    · rw [same]
      exact congrArg Cell.properties told
    · rw [same]
      show ((Register.revert _ h.id change).cell id).properties = _
      rw [Register.cell_revert, if_neg apart]
      exact congrArg Cell.properties told

/-- Writes to a fact that the store does not hold leave its content alone. -/
theorem maps_write_apart (s : Store) {h : Handle} (apart : h.id ∉ s.ledger.sequence)
    (name : String) (value : Value) : (s.write h name value).2.maps = s.maps := by
  show (s.write h name value).2.ledger.sequence.map (s.write h name value).2.properties
    = s.ledger.sequence.map s.properties
  rw [(s.write_made h name value).1]
  refine List.map_congr_left fun id mem => s.properties_write_apart ?_ name value
  rintro rfl
  exact apart mem

theorem maps_writeAll_apart (s : Store) {h : Handle} (apart : h.id ∉ s.ledger.sequence)
    (name : String) (values : List Value) : (s.writeAll h name values).2.maps = s.maps := by
  refine (writeAll_keeps (fun s' => h.id ∉ s'.ledger.sequence ∧ s'.maps = s.maps)
    (fun s' name value kept => ⟨?_, ?_⟩) name values s ⟨apart, rfl⟩).2
  · rw [(s'.write_made h name value).1]
    exact kept.1
  · rw [s'.maps_write_apart kept.1, kept.2]

/-- A store whose facts were all made after the first so many facts never gets one of those. -/
theorem LeadsTo.young {bound : Nat} (led : s.LeadsTo s')
    (made : bound ≤ s.ledger.register.cells.size)
    (young : ∀ id ∈ s.ledger.sequence, bound ≤ id.index) :
    ∀ id ∈ s'.ledger.sequence, bound ≤ id.index := by
  induction led with
  | refl => exact young
  | @tail u u' before move ih =>
    obtain ⟨kept, new, sequence, older, -, fresh⟩ := move.grows.sequence
    intro id mem
    rw [sequence] at mem
    rcases List.mem_append.mp mem with old | added
    · exact ih id (older.subset old)
    · have larger : s.ledger.register.cells.size ≤ u.ledger.register.cells.size :=
        (LeadsTo.register before).size
      exact Nat.le_trans (Nat.le_trans made larger) (fresh id added).1

theorem replaceWith_error {maps : List FactMap} {e : Error}
    (refused : (s.replaceWith maps).1 = .error e) : (s.replaceWith maps).2 = s := by
  unfold replaceWith at refused ⊢
  cases made : factsOf s.config.reservedNames maps with
  | error fault => rfl
  | ok facts =>
    rw [made] at refused
    cases refused

theorem replaceWith_ok_iff {maps : List FactMap} : (s.replaceWith maps).1 = .ok () ↔
    factsOf s.config.reservedNames maps = .ok (maps.map Properties.merged) := by
  unfold replaceWith
  cases made : factsOf s.config.reservedNames maps with
  | error fault =>
    constructor
    · intro ok
      cases ok
    · intro ok
      cases ok
  | ok facts => exact ⟨fun _ => congrArg Except.ok (factsOf_eq_ok_iff.mp made).2, fun _ => rfl⟩

/-- What is accepted takes the place of the content, and consists of facts that are new. -/
theorem replaceWith_ok {maps : List FactMap} (accepted : (s.replaceWith maps).1 = .ok ()) :
    (s.replaceWith maps).2.maps = maps.map Properties.merged ∧
      s.ledger.register.cells.size ≤ (s.replaceWith maps).2.ledger.register.cells.size ∧
      ∀ id ∈ (s.replaceWith maps).2.ledger.sequence,
        s.ledger.register.cells.size ≤ id.index := by
  refine ⟨?_, (s.grows_replaceWith maps).register.size, ?_⟩
  · simp only [replaceWith, replaceWith_ok_iff.mp accepted]
    exact Ledger.maps_replaceAll _ _ _
  · simp only [replaceWith, replaceWith_ok_iff.mp accepted]
    intro id mem
    obtain ⟨i, -, rfl⟩ := List.mem_map.mp mem
    exact Nat.le_add_right _ _

/-- The content of a store is replaced by maps exactly if every name in them is well formed, is
reserved neither always nor by the store, and comes with values, none of which is an empty text or
NaN. Then the store holds what the maps merge into, map by map: a name that is repeated is merged
with its first place, and of values that are the same the first one is kept. From then on, whatever
happens to the store, no write through a handle of a fact that was there before changes what the
store holds. If the maps are refused, nothing has changed. -/
theorem replaceWith_exact (s : Store) (maps : List FactMap) :
    ((s.replaceWith maps).1 = .ok () ↔
      ∀ map ∈ maps, ∀ pair ∈ map,
        Properties.Admissible s.config.reservedNames pair.1 pair.2) ∧
    ((s.replaceWith maps).1 = .ok () →
      (s.replaceWith maps).2.maps = maps.map Properties.merged ∧
      ∀ (s' : Store) (h : Handle), (s.replaceWith maps).2.LeadsTo s' →
        h.id.index < s.ledger.register.cells.size →
        (∀ name value, (s'.write h name value).2.maps = s'.maps) ∧
        ∀ name values, (s'.writeAll h name values).2.maps = s'.maps) ∧
    ∀ e, (s.replaceWith maps).1 = .error e → (s.replaceWith maps).2 = s := by
  refine ⟨?_, fun accepted => ?_, fun e refused => replaceWith_error refused⟩
  · rw [replaceWith_ok_iff, factsOf_eq_ok_iff]
    exact and_iff_left rfl
  · obtain ⟨content, larger, young⟩ := replaceWith_ok accepted
    refine ⟨content, fun s' h led old => ?_⟩
    have apart : h.id ∉ s'.ledger.sequence := by
      intro mem
      exact Nat.not_le.mpr old (led.young larger young h.id mem)
    exact ⟨s'.maps_write_apart apart, s'.maps_writeAll_apart apart⟩

/-- Maps with a name that is repeated, a number that is repeated, and both zeros. -/
def repetitive : List FactMap :=
  [[("a", [.int 1, .int 2, .int 1]), ("b", [.float ⟨0⟩, .float ⟨0x8000000000000000⟩]),
    ("a", [.int 3, .int 2])], []]

/-- Repetitions are merged in the middle of a transaction. After it was rolled back, the store still
holds the first of the new facts, and a write through the handle of the old one does not show. -/
theorem replaceWith_exact_repetitive :
    let rolled := (host.replaceWith repetitive).2.closeTransaction true false
    (host.replaceWith repetitive).1 = .ok () ∧
      (host.replaceWith repetitive).2.maps
        = [⟨[("a", [.int 1, .int 2, .int 3]), ("b", [.float ⟨0⟩])]⟩, ⟨[]⟩] ∧
      rolled.maps = [⟨[("a", [.int 1, .int 2, .int 3]), ("b", [.float ⟨0⟩])]⟩] ∧
      (rolled.write ⟨⟨0⟩, [.journal]⟩ "name" (.str "Zoë")).2.maps = rolled.maps ∧
      host.replaceWith [[("a", [.int 1])], [("b", [.int 1]), ("b", [])]]
        = (.error (.property (.noValues "b")), host) := by
  intro rolled
  obtain ⟨iff, accepted, -⟩ := replaceWith_exact host repetitive
  have ok : (host.replaceWith repetitive).1 = .ok () := by decide +kernel
  obtain ⟨content, later⟩ := accepted ok
  have led : (host.replaceWith repetitive).2.LeadsTo rolled :=
    LeadsTo.step (.refl _) (.closeTransaction _ true false)
  refine ⟨ok, content.trans (by decide +kernel), by decide +kernel,
    (later rolled ⟨⟨0⟩, [.journal]⟩ led (by decide +kernel)).1 _ _, ?_⟩
  have refused : (host.replaceWith [[("a", [.int 1])], [("b", [.int 1]), ("b", [])]]).1
      = .error (.property (.noValues "b")) := by decide +kernel
  exact Prod.ext refused ((replaceWith_exact host _).2.2 _ refused)

end Annals.Store
