import Annals.Proofs.Fact.Merged
import Annals.Proofs.Store.Frame

/-!
# Histories as logs

A fact is a log of the writes that it accepted. A property comes in at the first write to it, and
its history holds the values that were written to it, without those that are the same as one before.
A write that was accepted once is accepted again, and changes nothing.

* `Store.writeSeries` makes many writes through a handle, and goes on where one is refused.
* `Store.write_unheard`: if nobody listens, a write is refused by its check or made.
* `Store.writeSeries_unheard` carries `Properties.append_ofWrites` through a whole series, and
  `Store.writeSeries_again` says that what was written before leaves the store alone.
* `Store.histories_logged` is the result.
-/

set_option autoImplicit false

namespace Annals

namespace Properties

variable {writes : List (String × Value)} {name : String} {value : Value}

/-- A value that is the same as itself is in the history of the property that it was written to. -/
theorem append_ofWrites_again (mem : (name, value) ∈ writes) (self : value.same value = true) :
    (ofWrites writes).append name value = (ofWrites writes, none) := by
  have known : name ∈ writes.map Prod.fst := List.mem_map_of_mem mem
  have found := get?_ofWrites writes name
  rw [if_pos known] at found
  have held : holds (valuesFor name writes) value = true := by
    refine List.any_eq_true.mpr ⟨value, ?_, self⟩
    exact List.mem_map.mpr ⟨(name, value), List.mem_filter.mpr ⟨mem, by simp⟩, rfl⟩
  have kept := holds_firstOccurrences [] (valuesFor name writes) value
  exact append_held found (kept.trans held)

/-- The first value that is written to a property stays the first. -/
theorem head?_get?_ofWrites (writes : List (String × Value)) (name : String) :
    ((ofWrites writes).get? name).bind List.head? = (valuesFor name writes).head? := by
  rw [get?_ofWrites]
  split
  · cases valuesFor name writes with
    | nil => rfl
    | cons v rest => rfl
  · next new =>
    rw [valuesFor_eq_nil new]
    rfl

end Properties

namespace Store

/-- Write values to properties of a fact, one after the other, and go on after a write that fails;
the answer is the writes that did not fail. -/
def writeSeries (s : Store) (h : Handle) : List (String × Value) → List (String × Value) × Store
  | [] => ([], s)
  | write :: rest =>
    match s.write h write.1 write.2 with
    | (.ok (), s) =>
      let (accepted, s) := s.writeSeries h rest
      (write :: accepted, s)
    | (.error _, s) => s.writeSeries h rest

section Written

variable (s : Store) (id : FactId) (p q : Properties)

theorem written_written : (s.written id p).written id q = s.written id q := by
  simp only [written, withLedger, Register.replace_replace]

theorem written_properties : s.written id (s.properties id) = s := by
  have same : s.ledger.register.replace id (s.properties id) = s.ledger.register :=
    Register.replace_contents _ id
  simp only [written, withLedger, same]

theorem reserved_written : ((s.written id p).ledger.register.cell id).reserved
    = (s.ledger.register.cell id).reserved := by
  show ((s.ledger.register.replace id p).cell id).reserved = _
  rw [Register.cell_replace]
  split <;> rfl

variable {s id}

theorem properties_written (made : id.index < s.ledger.register.cells.size) :
    (s.written id p).properties id = p := by
  show ((s.ledger.register.replace id p).cell id).properties = p
  rw [Register.cell_replace, if_pos ⟨rfl, made⟩]

end Written

section Unheard

variable {s : Store} {id : FactId} {name : String} {value : Value}

/-- A write whose check does not fail is made, if nobody listens. -/
theorem write_unheard
    (checked : Properties.check (s.ledger.register.cell id).reserved name value = .ok ()) :
    s.write ⟨id, []⟩ name value
      = (.ok (), s.written id ((s.properties id).append name value).1) := by
  cases added : (s.properties id).append name value with
  | mk p change =>
    have cell : (s.ledger.register.cell id).properties.append name value = (p, change) := added
    cases change with
    | none =>
      rw [Properties.append_none added, written_properties]
      simp only [write, checked, cell]
    | some change =>
      simp only [write, checked, cell]
      rfl

/-- Whether a fact that refuses some names accepts a write. -/
def admits (reserved : List String) (write : String × Value) : Bool :=
  (Properties.check reserved write.1 write.2).isOk

theorem admits_iff {reserved : List String} {write : String × Value} :
    admits reserved write = true ↔ Properties.check reserved write.1 write.2 = .ok () := by
  unfold admits
  cases Properties.check reserved write.1 write.2 with
  | error fault => simp [Except.isOk, Except.toBool]
  | ok _ => simp [Except.isOk, Except.toBool]

/-- After a series of writes that nobody listens to, a fact holds what it accepted before, and then
what it accepted of the series. -/
theorem writeSeries_unheard (made : id.index < s.ledger.register.cells.size)
    {before : List (String × Value)} (holds : s.properties id = .ofWrites before)
    (writes : List (String × Value)) :
    let accepted := writes.filter (admits (s.ledger.register.cell id).reserved)
    s.writeSeries ⟨id, []⟩ writes = (accepted, s.written id (.ofWrites (before ++ accepted))) := by
  intro accepted
  induction writes generalizing s before with
  | nil =>
    simp only [accepted, List.filter_nil, List.append_nil, ← holds, written_properties]
    rfl
  | cons write rest ih =>
    cases checked : Properties.check (s.ledger.register.cell id).reserved write.1 write.2 with
    | error fault =>
      have rejected : ¬admits (s.ledger.register.cell id).reserved write = true := by
        simp [admits_iff, checked]
      rw [writeSeries, write_refused checked]
      simp only [accepted, List.filter_cons_of_neg rejected]
      exact ih made holds
    | ok _ =>
      have admitted : admits (s.ledger.register.cell id).reserved write = true :=
        admits_iff.mpr checked
      have next : (s.written id (.ofWrites (before ++ [write]))).properties id
          = .ofWrites (before ++ [write]) := properties_written _ made
      have size : id.index
          < (s.written id (.ofWrites (before ++ [write]))).ledger.register.cells.size := by
        simpa [written, withLedger] using made
      have later := ih size next
      rw [writeSeries, write_unheard checked, holds, Properties.append_ofWrites]
      simp only [reserved_written, written_written, List.append_assoc, List.singleton_append]
        at later
      simp only [accepted, List.filter_cons_of_pos admitted, later]

/-- Writes that a fact accepted before are accepted, and leave the store as it is. -/
theorem writeSeries_again {before : List (String × Value)}
    (holds : s.properties id = .ofWrites before) {writes : List (String × Value)}
    (again : ∀ write ∈ writes,
      write ∈ before ∧ admits (s.ledger.register.cell id).reserved write = true) :
    s.writeSeries ⟨id, []⟩ writes = (writes, s) := by
  induction writes with
  | nil => rfl
  | cons write rest ih =>
    obtain ⟨mem, admitted⟩ := again write List.mem_cons_self
    have checked := admits_iff.mp admitted
    have self := Properties.same_self (Properties.check_ok_iff.mp checked).2
    have unchanged : ((s.properties id).append write.1 write.2).1 = s.properties id := by
      rw [holds, Properties.append_ofWrites_again mem self]
    rw [writeSeries, write_unheard checked, unchanged, written_properties]
    simp only [ih fun other mem => again other (List.mem_cons_of_mem write mem)]

end Unheard

/-- Of a series of writes that nobody listens to, an empty fact accepts those whose name is well
formed and not reserved and whose value is no empty text and not NaN. Then its properties come in
the order in which they were first written, and the history of each holds the values that were
accepted for it, in their order and without those that are the same as one before. The first value
is the first one that was accepted. To write accepted writes again, as often as one likes and in any
order, succeeds and changes nothing. -/
theorem histories_logged (s : Store) {id : FactId}
    (made : id.index < s.ledger.register.cells.size) (fresh : s.properties id = .empty)
    (writes : List (String × Value)) :
    let accepted := (s.writeSeries ⟨id, []⟩ writes).1
    let after := (s.writeSeries ⟨id, []⟩ writes).2
    (∀ write ∈ writes, write ∈ accepted ↔
        Properties.Admissible (s.ledger.register.cell id).reserved write.1 [write.2]) ∧
      (after.properties id).names = (accepted.map Prod.fst).eraseDups ∧
      (∀ name, (after.properties id).get? name = if name ∈ accepted.map Prod.fst
        then some (Properties.firstOccurrences [] (Properties.valuesFor name accepted)) else none) ∧
      (∀ name, ((after.properties id).get? name).bind List.head?
        = (Properties.valuesFor name accepted).head?) ∧
      ∀ replayed, (∀ write ∈ replayed, write ∈ accepted) →
        after.writeSeries ⟨id, []⟩ replayed = (replayed, after) := by
  have holds : s.properties id = .ofWrites [] := fresh
  have ended := writeSeries_unheard made holds writes
  dsimp only at ended ⊢
  rw [ended, List.nil_append, properties_written _ made]
  dsimp only
  refine ⟨?_, ?_, ?_, ?_, ?_⟩
  · intro write mem
    rw [List.mem_filter, admits_iff, Properties.admissible_iff]
    simp [mem]
  · simp [Properties.names, Properties.ofWrites, Function.comp_def]
  · exact Properties.get?_ofWrites _
  · exact Properties.head?_get?_ofWrites _
  · intro replayed again
    refine writeSeries_again (properties_written _ made) fun write mem => ⟨again write mem, ?_⟩
    rw [reserved_written]
    exact (List.mem_filter.mp (again write mem)).2

/-- Of these writes, one is to a reserved name, one to a name that the store reserves, one of NaN
and one of an empty text. Both zeros are the same, and an integer is another value. -/
theorem histories_logged_zeros :
    let s := (create { Config.standard with reservedNames := ["total"] } .empty).insert.2
    let writes : List (String × Value) :=
      [("b", .float ⟨0⟩), ("class", .int 1), ("a", .int 1), ("b", .float ⟨0x8000000000000000⟩),
        ("total", .int 1), ("b", .int 0), ("a", .float ⟨0x7ff8000000000000⟩), ("c", .str "")]
    let series := s.writeSeries ⟨⟨0⟩, []⟩ writes
    let again : List (String × Value) :=
      [("b", .int 0), ("b", .float ⟨0x8000000000000000⟩), ("b", .int 0)]
    (⟨0⟩ : FactId).index < s.ledger.register.cells.size ∧ s.properties ⟨0⟩ = .empty ∧
      (series.2.properties ⟨0⟩).names = ["b", "a"] ∧
      (series.2.properties ⟨0⟩).get? "b" = some [.float ⟨0⟩, .int 0] ∧
      ((series.2.properties ⟨0⟩).get? "b").bind List.head? = some (.float ⟨0⟩) ∧
      series.2.writeSeries ⟨⟨0⟩, []⟩ again = (again, series.2) := by
  intro s writes series again
  have made : (⟨0⟩ : FactId).index < s.ledger.register.cells.size := by decide +kernel
  have fresh : s.properties ⟨0⟩ = .empty := by decide +kernel
  have accepted : series.1 = [("b", .float ⟨0⟩), ("a", .int 1),
      ("b", .float ⟨0x8000000000000000⟩), ("b", .int 0)] := by decide +kernel
  obtain ⟨-, names, histories, firsts, replays⟩ := s.histories_logged made fresh writes
  refine ⟨made, fresh, names.trans ?_, (histories "b").trans ?_, (firsts "b").trans ?_, ?_⟩
  · rw [show (s.writeSeries ⟨⟨0⟩, []⟩ writes).1 = _ from accepted]
    decide +kernel
  · rw [show (s.writeSeries ⟨⟨0⟩, []⟩ writes).1 = _ from accepted]
    decide +kernel
  · rw [show (s.writeSeries ⟨⟨0⟩, []⟩ writes).1 = _ from accepted]
    decide +kernel
  · apply replays
    rw [show (s.writeSeries ⟨⟨0⟩, []⟩ writes).1 = _ from accepted]
    decide +kernel

end Store

end Annals
