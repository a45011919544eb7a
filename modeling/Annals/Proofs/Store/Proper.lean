import Annals.Proofs.Eval.Likeness
import Annals.Proofs.Fact.Orderly
import Annals.Proofs.Store.Program
import Annals.Proofs.Store.Watches
import Mathlib.Logic.Relation

/-!
# What the properties of a fact look like at any time

`Properties.Proper` is what can be relied on whenever the properties of a fact are read: their names
are distinct, well formed and not reserved, and their histories are not empty and hold no value
twice, no empty text and no NaN.

It does not depend on order. A history may be cut back to a length that was noted long ago, by a
transaction that had the write undone already or that never heard of the writes made since: what is
left is a part of a proper history, and a history of which nothing would be left goes with its
property. So `Store.LeadsTo` lets every addition to every fact be undone at any time, in addition
to all that happens to a store, and `Store.properties_proper` shows that the properties stay proper.
That takes in listeners that do more than those of `Listener`: one that writes to facts itself and
refuses afterwards is a write that nobody hears of, then its own writes, and then the undoing.

As names are well formed, no property is ever taken for a parameter (`Store.LeadsTo.wellNamed`).
-/

set_option autoImplicit false

namespace Annals

theorem Binary64.equals_comm (x y : Binary64) : x.equals y = y.equals x := by
  unfold equals compare?
  rw [Bool.or_comm]
  split
  · rfl
  · rw [Bool.eq_iff_iff, beq_iff_eq, beq_iff_eq, Option.some_inj, Option.some_inj,
      Std.compare_eq_iff_eq, Std.compare_eq_iff_eq]
    exact eq_comm

/-- The equality of a history does not depend on which value came first. -/
theorem Value.same_comm (v w : Value) : v.same w = w.same v := by
  cases v <;> cases w <;> simp only [same, Binary64.equals_comm, Bool.beq_comm]

/-- What the properties of a fact look like, where the fact refuses some names. -/
structure Properties.Proper (reserved : List String) (p : Properties) : Prop where
  distinctNames : p.names.Nodup
  wellFormed : ∀ name ∈ p.names, isPropertyName name = true
  free : ∀ name ∈ p.names, name ∉ reservedNames ∧ name ∉ reserved
  nonempty : ∀ entry ∈ p.entries, entry.2 ≠ []
  distinct : ∀ entry ∈ p.entries,
    entry.2.Pairwise fun v w => v.same w = false ∧ w.same v = false
  noEmptyText : ∀ entry ∈ p.entries, .str "" ∉ entry.2
  noNaN : ∀ entry ∈ p.entries, ∀ x, .float x ∈ entry.2 → x.isNaN = false

namespace Properties

variable {p : Properties} {name : String} {value : Value}

/-- A write adds no name but its own. -/
theorem mem_names_append {other : String} (mem : other ∈ (p.append name value).1.names) :
    other ∈ p.names ∨ other = name := by
  cases found : p.get? name with
  | none =>
    rw [append_begin found] at mem
    simpa [names] using mem
  | some history =>
    left
    cases held : holds history value with
    | true =>
      rw [append_held found held] at mem
      exact mem
    | false =>
      rw [append_extend found held] at mem
      simpa only [names, names_mapHistory] using mem

theorem mem_names_truncate {change : Change} (mem : name ∈ (p.truncate change).names) :
    name ∈ p.names := by
  unfold truncate at mem
  split at mem
  · exact ((dropName_sublist change.name p.entries).map Prod.fst).subset mem
  · simpa only [names, names_mapHistory] using mem

theorem Orderly.proper (orderly : p.Orderly) {reserved : List String}
    (allowed : ∀ name ∈ p.names, name ∉ reserved) : p.Proper reserved where
  distinctNames := orderly.names
  wellFormed := by
    intro name mem
    obtain ⟨entry, isEntry, rfl⟩ := List.mem_map.mp mem
    exact (orderly.written entry isEntry).wellFormed
  free := by
    intro name mem
    refine ⟨?_, allowed name mem⟩
    obtain ⟨entry, isEntry, rfl⟩ := List.mem_map.mp mem
    exact (orderly.written entry isEntry).free
  nonempty entry mem := (orderly.written entry mem).nonempty
  distinct entry mem := (orderly.written entry mem).distinct.imp fun apart =>
    ⟨apart, (Value.same_comm _ _).trans apart⟩
  noEmptyText entry mem held :=
    (checkValue_ok_iff.mp ((orderly.written entry mem).checked _ held)).1 rfl
  noNaN entry mem x held :=
    (checkValue_ok_iff.mp ((orderly.written entry mem).checked _ held)).2 x rfl

end Properties

/-- Checked writes and undoing keep a fact orderly, and free of the names that it refuses. -/
theorem Cell.stable_orderly : Cell.Stable fun cell =>
    cell.properties.Orderly ∧ ∀ name ∈ cell.properties.names, name ∉ cell.reserved where
  new reserved := ⟨Properties.stable_orderly.empty, fun _ mem => absurd mem List.not_mem_nil⟩
  append := by
    rintro cell name value ⟨orderly, allowed⟩ checked
    refine ⟨orderly.append checked, fun other mem => ?_⟩
    rcases Properties.mem_names_append mem with older | new
    · exact allowed other older
    · rw [new]
      exact (Properties.check_ok_iff.mp checked).1.2.2
  truncate := by
    rintro cell change ⟨orderly, allowed⟩
    exact ⟨orderly.truncate change, fun name mem =>
      allowed name (Properties.mem_names_truncate mem)⟩

namespace Store

variable {s s' base : Store}

/-- A step, or that an addition is undone, whether or not it was made and still is there. -/
inductive Move : Store → Store → Prop where
  | step {s s' : Store} (step : Step s s') : Move s s'
  | undo (s : Store) (id : FactId) (change : Change) :
    Move s (s.withLedger (s.ledger.revert id change))

/-- That steps lead from one state to another, with additions undone in between. -/
def LeadsTo (s s' : Store) : Prop := Relation.ReflTransGen Move s s'

theorem LeadsTo.refl (s : Store) : s.LeadsTo s := Relation.ReflTransGen.refl

theorem LeadsTo.step (led : base.LeadsTo s) (step : Step s s') : base.LeadsTo s' :=
  Relation.ReflTransGen.tail led (.step step)

theorem Move.grows (move : Move s s') : s.Grows s' := by
  cases move with
  | step step => exact step.grows
  | undo id change =>
    exact .of_kept rfl (Register.extends_revert _ _ _) (List.Sublist.refl _)

theorem Move.stable {P : Cell → Prop} (stable : Cell.Stable P) (move : Move s s')
    (before : ∀ id, P (s.ledger.register.cell id)) : ∀ id, P (s'.ledger.register.cell id) := by
  cases move with
  | step step => exact stable_step stable before step
  | undo id change => exact stable.revert before id change

theorem LeadsTo.stable {P : Cell → Prop} (stable : Cell.Stable P) (led : s.LeadsTo s')
    (before : ∀ id, P (s.ledger.register.cell id)) : ∀ id, P (s'.ledger.register.cell id) := by
  induction led with
  | refl => exact before
  | tail _ move ih => exact move.stable stable ih

theorem LeadsTo.register (led : s.LeadsTo s') :
    s.ledger.register.Extends s'.ledger.register := by
  induction led with
  | refl => exact .refl _
  | tail _ move ih => exact ih.trans move.grows.register

theorem LeadsTo.config (led : s.LeadsTo s') : s'.config = s.config := by
  induction led with
  | refl => rfl
  | tail _ move ih => exact move.grows.config.trans ih

theorem LeadsTo.listed (led : s.LeadsTo s') (listed : s.Listed) : s'.Listed := by
  induction led with
  | refl => exact listed
  | tail _ move ih => exact ih.grow move.grows

/-! ### Programs -/

/-- Watches and reports change nothing else. -/
theorem LeadsTo.of_ledger (led : base.LeadsTo s) (config : s'.config = s.config)
    (registry : s'.registry = s.registry) (ledger : s'.ledger = s.ledger) : base.LeadsTo s' := by
  have same : s' = { { s with watches := s'.watches } with events := s'.events } := by
    cases s'
    cases s
    simp_all
  rw [same]
  exact (led.step (.watches s s'.watches)).step (.report _ s'.events)

theorem LeadsTo.writeAll (led : base.LeadsTo s) (h : Handle) (name : String)
    (values : List Value) : base.LeadsTo (s.writeAll h name values).2 :=
  writeAll_keeps base.LeadsTo (fun s name value led => led.step (.write s h name value)) name
    values s led

theorem LeadsTo.importBytes (led : base.LeadsTo s) (bytes : Snapshot.Bytes) :
    base.LeadsTo (s.importBytes bytes).2 := by
  unfold Store.importBytes
  cases mapsOfBytes bytes with
  | error e => exact led
  | ok maps => exact led.step (.replaceWith s maps)

end Store

/-- Whatever a program is made of leads on. -/
theorem Stack.preserved_leadsTo : Stack.Preserved Store.LeadsTo where
  watches same led := led.of_ledger same.config same.registry same.ledger
  inserts led := led.step (.insert _)
  writes name value _ led := led.step (.write _ _ name value)
  transactions := by
    intro σ α body keeps base w led
    rw [Action.inTransaction_apply]
    have opened := led.step (.openTransaction w.store)
    have ended := keeps base { w with store := w.store.openTransaction.2 } opened
    exact ended.step (.closeTransaction _ _ _)

namespace Store

/-- The properties of a fact are proper for the names that this fact refuses. -/
theorem LeadsTo.proper {config : Config} {registry : Registry} {s : Store}
    (led : (create config registry).LeadsTo s) (id : FactId) :
    (s.properties id).Proper (s.ledger.register.cell id).reserved := by
  obtain ⟨orderly, allowed⟩ := led.stable Cell.stable_orderly
    (stable_create Cell.stable_orderly config registry) id
  exact orderly.proper allowed

/-- No property of a fact can be taken for a parameter. -/
theorem LeadsTo.wellNamed {config : Config} {registry : Registry} {s : Store}
    (led : (create config registry).LeadsTo s) (id : FactId) :
    (s.scene.contents id).WellNamed :=
  (led.proper id).wellFormed

/-- Whatever is done to a store, in any order and with any additions undone on the way: the
properties of every fact are proper, of free facts and of facts that the store gave up as well; and
those of a fact that the store holds at some time have none of the names that the store reserves,
now and whatever happens later. Writing several values, reading content from bytes and running
programs with transactions and layers of rules and hooks is nothing but such steps, whether or not
it fails. -/
theorem properties_proper (config : Config) (registry : Registry) {s : Store}
    (led : (create config registry).LeadsTo s) :
    (∀ id, (s.properties id).Proper (s.ledger.register.cell id).reserved) ∧
    (∀ id ∈ s.ledger.sequence, ∀ s', s.LeadsTo s' →
      (s'.properties id).Proper config.reservedNames) ∧
    (∀ h name values, s.LeadsTo (s.writeAll h name values).2) ∧
    (∀ bytes, s.LeadsTo (s.importBytes bytes).2) ∧
    ∀ {σ α : Type} (layers : Stack) (p : Program α) (own : σ),
      s.LeadsTo (p.run layers ⟨s, own⟩).2.store := by
  refine ⟨led.proper, ?_, ?_, ?_, ?_⟩
  · intro id mem s' later
    have listed := led.listed (listed_create config registry)
    have reserved : (s'.ledger.register.cell id).reserved = config.reservedNames := by
      rw [later.register.reserved id (listed.made id mem), listed.reserved id mem, led.config]
      rfl
    rw [← reserved]
    exact LeadsTo.proper (led.trans later) id
  · exact (LeadsTo.refl s).writeAll
  · exact (LeadsTo.refl s).importBytes
  · exact fun layers p own => Stack.preserved_leadsTo.run layers p s ⟨s, own⟩ (.refl s)

/-- A store that reserves a name, in a transaction in which a fact was written through a handle of
the store and then through one that no journal hears of. -/
def tangled : Store :=
  let first := (create { Config.standard with reservedNames := ["host"] } .empty).insert
  let opened := (first.2.write first.1 "name" (.str "Ida")).2.openTransaction.2
  let journaled := (opened.write first.1 "name" (.str "Zoë")).2
  (journaled.write first.1.detached "name" (.str "Eve")).2

/-- The transaction is rolled back, and what it had undone is undone once more after a write. -/
def untangled : Store :=
  let rolled := tangled.closeTransaction true false
  let later := (rolled.write ⟨⟨0⟩, []⟩ "name" (.int 7)).2
  later.withLedger (later.ledger.revert ⟨0⟩ ⟨"name", 1⟩)

theorem properties_proper_untangled :
    let config : Config := { Config.standard with reservedNames := ["host"] }
    (create config .empty).LeadsTo untangled ∧
      (tangled.properties ⟨0⟩).entries = [("name", [.str "Ida", .str "Zoë", .str "Eve"])] ∧
      (untangled.properties ⟨0⟩).entries = [("name", [.str "Ida"])] ∧
      (untangled.properties ⟨0⟩).Proper ["host"] := by
  intro config
  have begun : (create config .empty).LeadsTo tangled := by
    refine LeadsTo.step (LeadsTo.step (LeadsTo.step (LeadsTo.step (LeadsTo.step (.refl _)
      (.insert _)) (.write _ _ _ _)) (.openTransaction _)) (.write _ _ _ _)) (.write _ _ _ _)
  have ended : tangled.LeadsTo untangled :=
    Relation.ReflTransGen.tail (LeadsTo.step (LeadsTo.step (.refl _)
      (.closeTransaction _ true false)) (.write _ ⟨⟨0⟩, []⟩ "name" (.int 7))) (.undo _ _ _)
  refine ⟨begun.trans ended, by decide +kernel, by decide +kernel, ?_⟩
  exact (properties_proper config .empty begun).2.1 ⟨0⟩ (by decide +kernel) untangled ended

end Store

end Annals
