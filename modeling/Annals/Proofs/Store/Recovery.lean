import Annals.Proofs.Store.Program
import Annals.Proofs.Store.Reachable

/-!
# What a transaction can give back

`Store.past` is what the facts would be if every write that the journal holds were undone. A write
that the journal hears of first does not change it (`Store.write_journaled`): the journal may hold
entries of additions that are gone already, and entries of facts that will be cut off, but neither
disturbs the undoing.

`Store.Recoverable` describes a store inside of a transaction, as seen from the store at the
beginning of the outermost one: every fact that was there has a past as it was. Whatever becomes of
the sequence, this is kept as long as facts are only made and written, and only the depth of a
transaction inside is counted.
-/

set_option autoImplicit false

namespace Annals

namespace Ledger

variable {r : Register} {id : FactId} {change : Change}

theorem undo_cons (r : Register) (id : FactId) (change : Change)
    (writes : List (FactId × Change)) :
    undo r ((id, change) :: writes) = undo (r.revert id change) writes := rfl

/-- Entries of an addition that is gone already undo nothing. -/
theorem undo_replicate (gone : r.revert id change = r) (times : Nat)
    (writes : List (FactId × Change)) :
    undo r (List.replicate times (id, change) ++ writes) = undo r writes := by
  induction times with
  | zero => rfl
  | succ times ih =>
    rw [List.replicate_succ, List.cons_append, undo_cons, gone, ih]

/-- Undoing an addition that stands, with all of its entries, is undoing what was written before. -/
theorem undo_replace {p : Properties} {name : String} {value : Value}
    (solid : (r.contents id).Solid)
    (added : (r.contents id).append name value = (p, some change)) (times : Nat)
    (writes : List (FactId × Change)) :
    undo (r.replace id p) (List.replicate (times + 1) (id, change) ++ writes) = undo r writes := by
  have after : (r.replace id p).revert id change = r := Register.revert_replace solid added
  have before : r.revert id change = r := Register.revert_before solid added
  rw [List.replicate_succ, List.cons_append, undo_cons, after, undo_replicate before]

/-- What facts hold after undoing writes depends only on what they held before. -/
theorem contents_undo_congr (writes : List (FactId × Change)) {r r' : Register}
    (same : r.contents = r'.contents) : (undo r writes).contents = (undo r' writes).contents := by
  induction writes generalizing r r' with
  | nil => exact same
  | cons entry rest ih =>
    obtain ⟨id, change⟩ := entry
    apply ih
    funext other
    have here : r.contents other = r'.contents other := congrFun same other
    rw [Register.contents, Register.contents, Register.cell_revert, Register.cell_revert, same]
    split
    · rfl
    · exact here

/-- Undoing writes leaves a fact as it is that none of them went to. -/
theorem undo_of_unwritten (writes : List (FactId × Change)) (r : Register) {id : FactId}
    (unwritten : ∀ entry ∈ writes, entry.1 ≠ id) : (undo r writes).cell id = r.cell id := by
  induction writes generalizing r with
  | nil => rfl
  | cons entry rest ih =>
    obtain ⟨other, change⟩ := entry
    have apart : id ≠ other := fun same => unwritten _ List.mem_cons_self same.symm
    have later : ∀ entry ∈ rest, entry.1 ≠ id :=
      fun entry mem => unwritten entry (List.mem_cons_of_mem _ mem)
    rw [undo_cons, ih _ later, Register.cell_revert, if_neg apart]

end Ledger

namespace Store

variable {s s' : Store}

/-- What the facts would be if every write that the journal holds were undone. -/
def past (s : Store) : Register := Ledger.undo s.ledger.register s.ledger.writes

/-- A new fact is none of those that were there. -/
theorem past_insert (s : Store) {id : FactId} (old : id.index < s.ledger.register.cells.size) :
    s.insert.2.past.cell id = s.past.cell id := by
  have other : id ≠ s.ledger.register.nextId := by
    intro same
    have here : id.index = s.ledger.register.cells.size := congrArg FactId.index same
    omega
  apply Ledger.undo_congr
  show (s.ledger.register.add _ _).cell id = _
  rw [Register.cell_add, if_neg other]

/-- If the journal is the first to hear of an addition in a transaction, then it is entered once at
least. -/
theorem journal_heard (inside : s.ledger.depth ≠ 0) (id : FactId) (change : Change)
    (listeners : List Listener) :
    ∃ times, Heard id change (times + 1) s (s.notify id change (.journal :: listeners)).2 := by
  have entered : Heard id change 1 s (s.withLedger (s.ledger.record id change)) := by
    unfold Ledger.record
    rw [if_neg inside]
    exact ⟨rfl, rfl, rfl, rfl, fun _ => rfl, fun _ _ => rfl, fun _ _ mem => mem,
      fun _ _ mem => .inl mem⟩
  obtain ⟨times, later⟩ :=
    (s.withLedger (s.ledger.record id change)).notify_heard id change listeners
  exact ⟨times, entered.trans later⟩

/-- A store with another register and another journal, which are worth the same: the facts have the
same past. New entries are of one fact. -/
structure Rewritten (id : FactId) (s s' : Store) : Prop where
  config : s'.config = s.config
  registry : s'.registry = s.registry
  ledger : s'.ledger =
    { s.ledger with register := s'.ledger.register, writes := s'.ledger.writes }
  size : s'.ledger.register.cells.size = s.ledger.register.cells.size
  past : s'.past = s.past
  entries : ∀ entry ∈ s'.ledger.writes, entry ∈ s.ledger.writes ∨ entry.1 = id

section

variable {id : FactId} {p : Properties} {change : Change} {times : Nat} {name : String}
  {value : Value}

theorem mem_replicate_append {writes : List (FactId × Change)} (entry : FactId × Change)
    (mem : entry ∈ List.replicate times (id, change) ++ writes) :
    entry ∈ writes ∨ entry.1 = id := by
  rcases List.mem_append.mp mem with new | old
  · exact .inr (congrArg Prod.fst (List.eq_of_mem_replicate new))
  · exact .inl old

/-- An addition that stands can be undone: the first of its entries does so, and the others find it
gone. -/
theorem Rewritten.stands (solid : (s.properties id).Solid)
    (added : (s.properties id).append name value = (p, some change))
    (heard : Heard id change (times + 1) (s.written id p) s') : Rewritten id s s' := by
  have ledger := heard.ledger
  refine ⟨heard.config, heard.registry, ?_, ?_, ?_, ?_⟩
  · rw [ledger]
    rfl
  · rw [ledger]
    exact Register.size_replace _ _ _
  · have undone := Ledger.undo_replace solid added times s.ledger.writes
    unfold Store.past
    rw [ledger]
    exact undone
  · rw [ledger]
    exact mem_replicate_append

/-- After an addition is undone, all of its entries find it gone. -/
theorem Rewritten.undone (solid : (s.properties id).Solid)
    (added : (s.properties id).append name value = (p, some change))
    (heard : Heard id change (times + 1) (s.written id p) s') :
    Rewritten id s (s'.withLedger (s'.ledger.revert id change)) := by
  have ledger : s'.ledger.revert id change =
      { s.ledger with writes := List.replicate (times + 1) (id, change) ++ s.ledger.writes } := by
    rw [heard.ledger]
    simp only [Ledger.revert, Store.written, withLedger, Register.revert_replace solid added]
  have before : s.ledger.register.revert id change = s.ledger.register :=
    Register.revert_before solid added
  rw [ledger]
  exact ⟨heard.config, heard.registry, rfl, rfl,
    Ledger.undo_replicate before (times + 1) s.ledger.writes, mem_replicate_append⟩

end

/-- A write that the journal hears of in a transaction can be undone, whatever the listeners after
it do. -/
theorem write_journaled (sound : s.Sound) (inside : s.ledger.depth ≠ 0) {handle : Handle}
    {listeners : List Listener} (journaled : handle.listeners = .journal :: listeners)
    (name : String) (value : Value) : Rewritten handle.id s (s.write handle name value).2 := by
  rcases s.write_cases handle name value with same | ⟨p, change, added, ended⟩
  · rw [same]
    exact ⟨rfl, rfl, rfl, rfl, rfl, fun _ mem => .inl mem⟩
  · have solid := sound.solid handle.id
    have inside : (s.written handle.id p).ledger.depth ≠ 0 := inside
    obtain ⟨times, heard⟩ := journal_heard inside handle.id change listeners
    rw [← journaled] at heard
    rcases ended with ⟨-, same⟩ | ⟨e, -, -, same⟩
    · rw [same]
      exact Rewritten.stands solid added heard
    · rw [same]
      exact Rewritten.undone solid added heard

/-- A store inside of so many transactions, the outermost of which was opened on `base`, so that
closing all of them without success would give back what its facts held. -/
structure Recoverable (base : Store) (depth : Nat) (s : Store) : Prop where
  config : s.config = base.config
  registry : s.registry = base.registry
  opened : s.ledger.depth = depth
  positive : 0 < depth
  baseLength : s.ledger.baseLength = base.ledger.sequence.length
  grown : base.ledger.register.cells.size ≤ s.ledger.register.cells.size
  /-- The journal undoes whatever happened to the facts that were there. -/
  restored : ∀ id, id.index < base.ledger.register.cells.size →
    s.past.cell id = base.ledger.register.cell id
  committed : s.ledger.committed = base.ledger.committed
  rolledBack : s.ledger.rolledBack = base.ledger.rolledBack
  sound : s.Sound

namespace Recoverable

variable {base : Store} {depth : Nat}

theorem start (sound : s.Sound) (closed : s.ledger.depth = 0) :
    s.Recoverable 1 s.openTransaction.2 := by
  rw [openTransaction_outermost closed]
  exact ⟨rfl, rfl, rfl, Nat.one_pos, rfl, Nat.le_refl _, fun _ _ => rfl, rfl, rfl, sound.solid,
    sound.made⟩

theorem inside (h : base.Recoverable depth s) : s.ledger.depth ≠ 0 := by
  rw [h.opened]
  exact Nat.pos_iff_ne_zero.mp h.positive

/-- What changes no transaction, takes no fact away and leaves the past of every fact as it is can
be undone. -/
theorem transfer (h : base.Recoverable depth s) (config : s'.config = s.config)
    (registry : s'.registry = s.registry)
    (ledger : s'.ledger = { s.ledger with
      register := s'.ledger.register
      sequence := s'.ledger.sequence
      writes := s'.ledger.writes })
    (grown : s.ledger.register.cells.size ≤ s'.ledger.register.cells.size)
    (past : ∀ id, id.index < s.ledger.register.cells.size → s'.past.cell id = s.past.cell id)
    (sound : s'.Sound) : base.Recoverable depth s' := by
  refine ⟨config.trans h.config, registry.trans h.registry, ?_, h.positive, ?_,
    Nat.le_trans h.grown grown, fun id old => ?_, ?_, ?_, sound⟩
  · rw [ledger]; exact h.opened
  · rw [ledger]; exact h.baseLength
  · rw [past id (Nat.lt_of_lt_of_le old h.grown)]
    exact h.restored id old
  · rw [ledger]; exact h.committed
  · rw [ledger]; exact h.rolledBack

/-- Watches and reports do not matter. -/
theorem of_ledger (h : base.Recoverable depth s) (config : s'.config = s.config)
    (registry : s'.registry = s.registry) (ledger : s'.ledger = s.ledger) :
    base.Recoverable depth s' := by
  have sound : s'.Sound := by
    constructor
    · unfold Store.properties
      rw [ledger]
      exact h.sound.solid
    · rw [ledger]
      exact h.sound.made
  have past : s'.past = s.past := by
    unfold Store.past
    rw [ledger]
  refine h.transfer config registry ?_ ?_ (fun id _ => by rw [past]) sound
  · rw [ledger]
  · exact Nat.le_of_eq (by rw [ledger])

theorem insert (h : base.Recoverable depth s) : base.Recoverable depth s.insert.2 := by
  refine h.transfer rfl rfl rfl ?_ (fun id old => past_insert s old) (h.sound.step (.insert s))
  show _ ≤ (s.ledger.register.add _ _).cells.size
  rw [Register.size_add]
  exact Nat.le_succ _

/-- A write that the journal hears of can be undone, whatever the listeners after it do. -/
theorem write (h : base.Recoverable depth s) {handle : Handle} {listeners : List Listener}
    (journaled : handle.listeners = .journal :: listeners) (name : String) (value : Value) :
    base.Recoverable depth (s.write handle name value).2 := by
  have written := write_journaled h.sound h.inside journaled name value
  refine h.transfer written.config written.registry ?_ (Nat.le_of_eq written.size.symm)
    (fun id _ => ?_) (h.sound.write handle name value)
  · rw [written.ledger]
  · rw [written.past]

/-- A transaction inside of another one is one deeper. -/
theorem deeper (h : base.Recoverable depth s) : s.openTransaction.1 = false ∧
    base.Recoverable (depth + 1) s.openTransaction.2 := by
  rw [openTransaction_nested h.inside]
  exact ⟨rfl, h.config, h.registry, congrArg (· + 1) h.opened, Nat.succ_pos _, h.baseLength,
    h.grown, h.restored, h.committed, h.rolledBack, h.sound.solid, h.sound.made⟩

theorem leave (h : base.Recoverable (depth + 1) s) (positive : 0 < depth) (success : Bool) :
    base.Recoverable depth (s.closeTransaction false success) :=
  ⟨h.config, h.registry, congrArg (· - 1) h.opened, positive, h.baseLength, h.grown,
    h.restored, h.committed, h.rolledBack, h.sound.solid, h.sound.made⟩

/-- Undoing the outermost transaction gives every fact that was there back, and cuts the sequence
to the length that it had. -/
theorem rollBack (h : base.Recoverable 1 s) :
    (s.closeTransaction true false).depth = 0 ∧
      (s.closeTransaction true false).ledger.register = s.past ∧
      (s.closeTransaction true false).ledger.sequence =
        s.ledger.sequence.take base.ledger.sequence.length ∧
      (s.closeTransaction true false).ledger.committed = base.ledger.committed ∧
      (s.closeTransaction true false).ledger.rolledBack = base.ledger.rolledBack + 1 := by
  refine ⟨congrArg (· - 1) h.opened, rfl, ?_, h.committed, congrArg (· + 1) h.rolledBack⟩
  show s.ledger.sequence.take s.ledger.baseLength = _
  rw [h.baseLength]

end Recoverable

end Store

end Annals
