import Annals.Proofs.Store.Recovery
import Annals.Proofs.Store.Watches

/-!
# Transactions are all or nothing

`Store.Within` describes a store inside of a transaction, as seen from the store at the beginning
of the outermost one: the transaction is `Store.Recoverable`, and the sequence has only grown. Every
request keeps `Store.Within`, and so does a transaction inside, whatever its outcome is, because
only its depth is counted.

A program inside of a transaction does what it would do without transactions (`Program.alike`), so
what a transaction keeps in the end is what the bare program leaves. `Stack.transaction_atomic` puts
both together.
-/

set_option autoImplicit false

namespace Annals

namespace Store

/-- A store inside of so many transactions, the outermost of which was opened on `base`, whose
sequence has only grown since then. -/
structure Within (base : Store) (depth : Nat) (s : Store) : Prop extends
    base.Recoverable depth s where
  sequence : base.ledger.sequence <+: s.ledger.sequence

namespace Within

variable {base s s' : Store} {depth : Nat}

theorem start (sound : s.Sound) (closed : s.ledger.depth = 0) : s.Within 1 s.openTransaction.2 := by
  refine ⟨.start sound closed, ?_⟩
  rw [openTransaction_outermost closed]
  exact List.prefix_rfl

/-- Watches and reports do not matter. -/
theorem of_ledger (h : base.Within depth s) (config : s'.config = s.config)
    (registry : s'.registry = s.registry) (ledger : s'.ledger = s.ledger) :
    base.Within depth s' := by
  refine ⟨h.toRecoverable.of_ledger config registry ledger, ?_⟩
  rw [ledger]
  exact h.sequence

theorem reports (h : base.Within depth s) (reports : s.OnlyReports s') : base.Within depth s' := by
  obtain ⟨events, rfl⟩ := reports
  exact h.of_ledger rfl rfl rfl

theorem insert (h : base.Within depth s) : base.Within depth s.insert.2 :=
  ⟨h.toRecoverable.insert, h.sequence.trans (List.prefix_append _ _)⟩

/-- A write that the journal hears of can be undone, whatever the listeners after it do. -/
theorem write (h : base.Within depth s) {handle : Handle} {listeners : List Listener}
    (journaled : handle.listeners = .journal :: listeners) (name : String) (value : Value) :
    base.Within depth (s.write handle name value).2 := by
  refine ⟨h.toRecoverable.write journaled name value, ?_⟩
  rw [(s.write_made handle name value).1]
  exact h.sequence

/-- A transaction inside of another one is one deeper. -/
theorem deeper (h : base.Within depth s) : s.openTransaction.1 = false ∧
    base.Within (depth + 1) s.openTransaction.2 := by
  obtain ⟨nested, inside⟩ := h.toRecoverable.deeper
  refine ⟨nested, inside, ?_⟩
  rw [openTransaction_nested h.inside]
  exact h.sequence

theorem leave (h : base.Within (depth + 1) s) (positive : 0 < depth) (success : Bool) :
    base.Within depth (s.closeTransaction false success) :=
  ⟨h.toRecoverable.leave positive success, h.sequence⟩

/-- Undoing the outermost transaction gives every fact that was there back, and the sequence. -/
theorem rollBack (h : base.Within 1 s) :
    (s.closeTransaction true false).depth = 0 ∧
      (s.closeTransaction true false).ledger.sequence = base.ledger.sequence ∧
      (∀ id, id.index < base.ledger.register.cells.size →
        (s.closeTransaction true false).ledger.register.cell id =
          base.ledger.register.cell id) ∧
      (s.closeTransaction true false).ledger.committed = base.ledger.committed ∧
      (s.closeTransaction true false).ledger.rolledBack = base.ledger.rolledBack + 1 := by
  obtain ⟨depth, register, sequence, counts⟩ := h.toRecoverable.rollBack
  refine ⟨depth, ?_, fun id old => ?_, counts⟩
  · rw [sequence]
    exact (List.prefix_iff_eq_take.mp h.sequence).symm
  · rw [register]
    exact h.restored id old

end Within

/-! ### What a program does without transactions -/

variable {s s' : Store}

/-- Listeners that are no rules say the same to stores that hold the same. -/
theorem notify_congr (h : s.Agrees s') (id : FactId) (change : Change) (listeners : List Listener)
    (ruleless : ∀ rule place, .rule rule place ∉ listeners) :
    (s.notify id change listeners).1 = (s'.notify id change listeners).1 := by
  induction listeners generalizing s s' with
  | nil => rfl
  | cons listener rest ih =>
    have later : ∀ rule place, .rule rule place ∉ rest :=
      fun rule place mem => ruleless rule place (List.mem_cons_of_mem _ mem)
    cases listener with
    | journal =>
      apply ih _ later
      refine ⟨h.config, h.registry, ?_, ?_⟩
      · unfold Ledger.record withLedger
        split <;> split <;> exact h.register
      · unfold Ledger.record withLedger
        split <;> split <;> exact h.sequence
    | rule rule place => exact absurd List.mem_cons_self (ruleless rule place)
    | refusal objection =>
      simp only [notify, hear, h.register]
      cases objection s'.ledger.register.contents id change with
      | none => exact ih h later
      | some e => rfl

/-- A write through a handle without rules ends alike in stores that hold the same, and they hold
the same after it. -/
theorem write_congr (h : s.Agrees s') {handle : Handle}
    (ruleless : ∀ rule place, .rule rule place ∉ handle.listeners) (name : String) (value : Value) :
    (s.write handle name value).1 = (s'.write handle name value).1 ∧
      (s.write handle name value).2.Agrees (s'.write handle name value).2 := by
  unfold Store.write
  rw [h.register]
  dsimp only
  cases Properties.check (s'.ledger.register.cell handle.id).reserved name value with
  | error fault => exact ⟨rfl, h⟩
  | ok _ =>
    dsimp only
    cases (s'.ledger.register.cell handle.id).properties.append name value with
    | mk p change =>
      cases change with
      | none => exact ⟨rfl, h⟩
      | some change =>
        have written : (s.written handle.id p).Agrees (s'.written handle.id p) :=
          ⟨h.config, h.registry, congrArg (·.replace handle.id p) h.register, h.sequence⟩
        have same := notify_congr written handle.id change handle.listeners ruleless
        obtain ⟨m, heard⟩ :=
          (s.written handle.id p).notify_heard handle.id change handle.listeners
        obtain ⟨n, heard'⟩ :=
          (s'.written handle.id p).notify_heard handle.id change handle.listeners
        have after : ((s.written handle.id p).notify handle.id change handle.listeners).2.Agrees
            ((s'.written handle.id p).notify handle.id change handle.listeners).2 := by
          refine ⟨?_, ?_, ?_, ?_⟩
          · rw [heard.config, heard'.config]; exact written.config
          · rw [heard.registry, heard'.registry]; exact written.registry
          · rw [heard.ledger, heard'.ledger]; exact written.register
          · rw [heard.ledger, heard'.ledger]; exact written.sequence
        unfold Store.written at same after
        rw [h.register] at same after
        dsimp only
        revert same after
        generalize (s.withLedger { s.ledger with
          register := s'.ledger.register.replace handle.id p }).notify handle.id change
            handle.listeners = told
        generalize (s'.withLedger { s'.ledger with
          register := s'.ledger.register.replace handle.id p }).notify handle.id change
            handle.listeners = told'
        intro same after
        obtain ⟨outcome, t⟩ := told
        obtain ⟨outcome', t'⟩ := told'
        obtain rfl : outcome = outcome' := same
        cases outcome with
        | ok _ => exact ⟨rfl, after⟩
        | error e =>
          exact ⟨rfl, after.config, after.registry,
            congrArg (·.revert handle.id change) after.register, after.sequence⟩

/-- Several writes through a handle without rules end alike in stores that hold the same. -/
theorem writeAll_congr (h : s.Agrees s') {handle : Handle}
    (ruleless : ∀ rule place, .rule rule place ∉ handle.listeners) (name : String)
    (values : List Value) :
    (s.writeAll handle name values).1 = (s'.writeAll handle name values).1 ∧
      (s.writeAll handle name values).2.Agrees (s'.writeAll handle name values).2 := by
  have each : ∀ values s s', Agrees s s' →
      (s.writeEach handle name values).1 = (s'.writeEach handle name values).1 ∧
        (s.writeEach handle name values).2.Agrees (s'.writeEach handle name values).2 := by
    intro values
    induction values with
    | nil => exact fun s s' h => ⟨rfl, h⟩
    | cons value rest ih =>
      intro s s' h
      obtain ⟨same, after⟩ := write_congr h ruleless name value
      simp only [writeEach]
      cases first : s.write handle name value with
      | mk outcome t =>
        cases first' : s'.write handle name value with
        | mk outcome' t' =>
          rw [first, first'] at same after
          obtain rfl : outcome = outcome' := same
          cases outcome with
          | ok _ => exact ih t t' after
          | error e => exact ⟨rfl, after⟩
  unfold writeAll
  split
  · exact ⟨rfl, h⟩
  · exact each values s s' h

/-- Stores with the same sequence hold the same if every fact that was there holds the same. -/
theorem maps_of_held (sound : s.Sound)
    (sequence : s'.ledger.sequence = s.ledger.sequence)
    (held : ∀ id, id.index < s.ledger.register.cells.size → s'.properties id = s.properties id) :
    s'.maps = s.maps := by
  show s'.ledger.sequence.map s'.properties = s.ledger.sequence.map s.properties
  rw [sequence]
  exact List.map_congr_left fun id mem => held id (sound.made id mem)

end Store

/-! ### Programs inside of a transaction -/

namespace Stack

open Annals.Action (Keeps)

variable {σ α : Type} {base : Store}

/-- A transaction inside of another one keeps the store inside of the transactions around it, if
its body does. -/
theorem inTransaction_within {body : Action σ α} (keeps : Keeps base.Within body) :
    Keeps base.Within body.inTransaction := by
  intro depth w h
  obtain ⟨nested, inside⟩ := h.deeper
  rw [Action.inTransaction_apply]
  simp only [nested]
  exact (keeps (depth + 1) { w with store := w.store.openTransaction.2 } inside).leave h.positive _

/-- An outermost transaction that fails gives the sequence back, and what every fact held. -/
theorem inTransaction_undone {body : Action σ α} {w : World σ} (sound : w.store.Sound)
    (closed : w.store.depth = 0) (keeps : Keeps w.store.Within body) {e : Exit}
    (failed : (body.inTransaction w).1 = .error e) :
    (body.inTransaction w).2.store.depth = 0 ∧
      (body.inTransaction w).2.store.ledger.sequence = w.store.ledger.sequence ∧
      ∀ id, id.index < w.store.ledger.register.cells.size →
        (body.inTransaction w).2.store.properties id = w.store.properties id := by
  have outermost : w.store.openTransaction.1 = true := by
    rw [Store.openTransaction_outermost closed]
  have start := keeps 1 { w with store := w.store.openTransaction.2 }
    (Store.Within.start sound closed)
  rw [Action.inTransaction_apply] at failed ⊢
  simp only [outermost] at failed ⊢
  rw [failed]
  obtain ⟨depth, sequence, cells, -⟩ := start.rollBack
  exact ⟨depth, sequence, fun id old => congrArg Cell.properties (cells id old)⟩

theorem preserved_within (base : Store) : Preserved base.Within where
  watches same h := h.of_ledger same.config same.registry same.ledger
  inserts h := h.insert
  writes name value journaled h := h.write journaled name value
  transactions keeps := inTransaction_within keeps

theorem transaction_within (layers : Stack) {body : Action σ α} (keeps : Keeps base.Within body) :
    Keeps base.Within (layers.transaction body) := (preserved_within base).transaction layers keeps

theorem insert_within (layers : Stack) : Keeps base.Within (layers.insert : Action σ Handle) :=
  (preserved_within base).insert layers

/-- An outermost transaction of a stack that fails gives back as much, whatever the watches do. -/
theorem transaction_undone (layers : Stack) {body : Action σ α} {w : World σ}
    (sound : w.store.Sound) (closed : w.store.depth = 0) (keeps : Keeps w.store.Within body)
    {e : Exit} (failed : (layers.transaction body w).1 = .error e) :
    (layers.transaction body w).2.store.depth = 0 ∧
      (layers.transaction body w).2.store.ledger.sequence = w.store.ledger.sequence ∧
      ∀ id, id.index < w.store.ledger.register.cells.size →
        (layers.transaction body w).2.store.properties id = w.store.properties id := by
  induction layers generalizing body with
  | nil => exact inTransaction_undone sound closed keeps failed
  | cons layer below ih =>
    cases layer with
    | hook hook => exact ih keeps failed
    | rule rule place => exact ih ((preserved_within w.store).underWatch keeps rule place) failed

/-- Entering watches is within the same transactions. -/
theorem within_enterAll {layers : Stack} {s : Store} {depth : Nat} (h : base.Within depth s) :
    base.Within depth (layers.enterAll s) := by
  obtain ⟨entered, frame, -⟩ := enterAll_frame layers s
  refine h.of_ledger ?_ ?_ ?_
  · rw [frame]
  · rw [frame]
  · rw [frame]

end Stack

namespace Program

variable {σ : Type} {base : Store}

theorem handle_listeners (id : FactId) (objections : List Objection) :
    ((Stack.handle [] id).refusing objections).listeners =
      .journal :: objections.map .refusal := rfl

theorem handle_ruleless (id : FactId) (objections : List Objection) (rule : Rule) (place : Nat) :
    .rule rule place ∉ ((Stack.handle [] id).refusing objections).listeners := by
  rw [handle_listeners]
  simp

/-- A request keeps the store inside of its transactions. -/
theorem request_within {β : Type} (layers : Stack) (r : Request β) (depth : Nat) (w : World σ)
    (h : base.Within depth w.store) : base.Within depth (r.run layers w).2.store :=
  (Stack.preserved_within base).request layers r depth w h

theorem run_within {α : Type} (layers : Stack) (p : Program α) (depth : Nat) (w : World σ)
    (h : base.Within depth w.store) : base.Within depth (p.run layers w).2.store :=
  (Stack.preserved_within base).run layers p depth w h

/-- A request ends alike on stores that hold the same, and they hold the same after it. -/
theorem request_congr {β : Type} (r : Request β) {w w' : World σ}
    (h : w.store.Agrees w'.store) :
    (r.run [] w).1 = (r.run [] w').1 ∧ (r.run [] w).2.store.Agrees (r.run [] w').2.store := by
  cases r with
  | insert =>
    refine ⟨?_, h.config, h.registry, ?_, ?_⟩
    · show Except.ok (⟨w.store.ledger.register.nextId, _⟩ : Handle) = _
      rw [h.register]
      rfl
    · show w.store.ledger.register.add _ w.store.config.reservedNames = _
      rw [h.register, h.config]
      rfl
    · show w.store.ledger.sequence ++ [w.store.ledger.register.nextId] = _
      rw [h.register, h.sequence]
      rfl
  | write id objections name value =>
    obtain ⟨same, after⟩ := Store.write_congr h (handle_ruleless id objections) name value
    simp only [Request.run, Action.write, Action.ofStore_apply, same]
    exact ⟨trivial, after⟩
  | writeAll id objections name values =>
    obtain ⟨same, after⟩ := Store.writeAll_congr h (handle_ruleless id objections) name values
    simp only [Request.run, Action.ofStore_apply, same]
    exact ⟨trivial, after⟩
  | compile text =>
    have same := Store.compile_congr h.config text
    have after := h.reports (w.store.compile_onlyReports text) (w'.store.compile_onlyReports text)
    simp only [Request.run, Stack.compile, Action.bind_apply, Action.ofStore_apply, same]
    cases (w'.store.compile text).1 with
    | ok q => exact ⟨rfl, after⟩
    | error e => exact ⟨rfl, after⟩
  | find q params =>
    simp only [Request.run, Action.ofStore_apply, q.collect_congr h params]
    exact ⟨trivial, h.reports (q.collect_onlyReports params _) (q.collect_onlyReports params _)⟩
  | one q params =>
    simp only [Request.run, Action.ofStore_apply, q.one_congr h params]
    exact ⟨trivial, h.reports (q.one_onlyReports params _) (q.one_onlyReports params _)⟩
  | next scan =>
    obtain ⟨item, next⟩ := scan.next_congr h
    simp only [Request.run, item, next]
    exact ⟨trivial, h.reports (scan.next_onlyReports _) (scan.next_onlyReports _)⟩
  | look =>
    refine ⟨?_, h⟩
    simp only [Request.run, h.register, h.sequence]

/-- Inside of a transaction a program does what it would do without transactions. -/
theorem alike {α : Type} (p : Program α) {depth : Nat} {w w' : World σ}
    (within : base.Within depth w.store) (h : w.store.Agrees w'.store) :
    (p.run [] w).1 = (p.runFlat [] w').1 ∧
      (p.run [] w).2.store.Agrees (p.runFlat [] w').2.store := by
  induction p generalizing depth w w' with
  | done outcome =>
    simp only [run, runFlat, runWith, Action.settle_apply]
    exact ⟨trivial, h⟩
  | ask request next ih =>
    obtain ⟨same, after⟩ := request_congr request h
    have inside := request_within [] request depth w within
    rw [run_ask, runFlat_ask, ← same]
    exact ih _ inside after
  | transaction body next ihBody ih =>
    obtain ⟨nested, inside⟩ := within.deeper
    have opened : w.store.openTransaction.2.Agrees w'.store := by
      have deep : w.store.ledger.depth ≠ 0 := by
        rw [within.opened]
        exact Nat.pos_iff_ne_zero.mp within.positive
      rw [Store.openTransaction_nested deep]
      exact ⟨h.config, h.registry, h.register, h.sequence⟩
    obtain ⟨same, after⟩ :=
      ihBody (w := { w with store := w.store.openTransaction.2 }) inside opened
    have left := Stack.transaction_within [] (body.run_within []) depth w within
    have ended : (Stack.transaction [] (body.run []) w).1 = (body.runFlat [] w').1 ∧
        (Stack.transaction [] (body.run []) w).2.store.Agrees (body.runFlat [] w').2.store := by
      unfold Stack.transaction
      rw [Action.inTransaction_apply]
      simp only [nested]
      exact ⟨same, after.config, after.registry, after.register, after.sequence⟩
    rw [run_transaction, runFlat_transaction, ← ended.1]
    exact ih _ left ended.2

end Program

/-- A transaction over a store without layers is all or nothing, however the transactions inside of
it nest and whatever becomes of their failures and stops. It ends as its body would end without any
transactions. If that is with a result, the facts are those that the body would leave without any
transactions; if not, the sequence and every fact that was ever made are as before. No transaction
is left open, and exactly one more is counted, as committed or as rolled back. -/
theorem Stack.transaction_atomic {σ α : Type} (w : World σ) (reachable : w.store.Reachable)
    (closed : w.store.depth = 0) (body : Program α) :
    let ended := Stack.transaction [] (body.run []) w
    let flat := body.runFlat [] w
    ended.1 = flat.1 ∧ ended.2.store.depth = 0 ∧
      match ended.1 with
      | .ok _ =>
        ended.2.store.maps = flat.2.store.maps ∧
        ended.2.store.ledger.sequence = flat.2.store.ledger.sequence ∧
        ended.2.store.ledger.committed = w.store.ledger.committed + 1 ∧
        ended.2.store.ledger.rolledBack = w.store.ledger.rolledBack
      | .error _ =>
        ended.2.store.maps = w.store.maps ∧
        ended.2.store.ledger.sequence = w.store.ledger.sequence ∧
        (∀ id, id.index < w.store.ledger.register.cells.size →
          ended.2.store.properties id = w.store.properties id) ∧
        ended.2.store.ledger.committed = w.store.ledger.committed ∧
        ended.2.store.ledger.rolledBack = w.store.ledger.rolledBack + 1 := by
  have start : w.store.Within 1 w.store.openTransaction.2 :=
    Store.Within.start reachable.sound closed
  have opened : w.store.openTransaction.1 = true ∧ w.store.openTransaction.2.Agrees w.store := by
    rw [Store.openTransaction_outermost closed]
    exact ⟨rfl, rfl, rfl, rfl, rfl⟩
  have within := body.run_within [] 1 { w with store := w.store.openTransaction.2 } start
  obtain ⟨same, after⟩ : (body.run [] { w with store := w.store.openTransaction.2 }).1 =
      (body.runFlat [] w).1 ∧ _ := body.alike start opened.2
  unfold Stack.transaction
  rw [Action.inTransaction_apply]
  simp only [opened.1]
  cases ended : body.run [] { w with store := w.store.openTransaction.2 } with
  | mk outcome v =>
    rw [ended] at within same after
    cases outcome with
    | ok x =>
      refine ⟨same, congrArg (· - 1) within.opened, ?_, after.sequence,
        congrArg (· + 1) within.committed, within.rolledBack⟩
      show v.store.ledger.sequence.map v.store.ledger.register.contents = _
      rw [after.sequence, after.register]
      rfl
    | error e =>
      obtain ⟨depth, sequence, cells, committed, rolledBack⟩ := within.rollBack
      have held : ∀ id, id.index < w.store.ledger.register.cells.size →
          (v.store.closeTransaction true false).properties id = w.store.properties id :=
        fun id old => congrArg Cell.properties (cells id old)
      exact ⟨same, depth, Store.maps_of_held reachable.sound sequence held, sequence, held,
        committed, rolledBack⟩

/-- What a body does that makes a fact, swallows the stop of a transaction around a write to it, and
then ends with an outcome. -/
def Program.halfway (outcome : Except Exit Unit) : Program Unit :=
  .ask .insert fun
    | .ok h => .transaction
      (.ask (.write h.id [] "x" (.int 1)) fun _ => (.done (.error .stopped) : Program Unit))
      fun _ => .done outcome
    | .error e => .done (.error e)

/-- The write inside of the swallowed transaction stands if the outermost one has a result, and it
goes with the new fact if not. -/
theorem Stack.transaction_atomic_halfway :
    let w : World Unit := ⟨.create .standard .empty, ()⟩
    let kept := Stack.transaction [] ((Program.halfway (.ok ())).run []) w
    let undone := Stack.transaction [] ((Program.halfway (.error .stopped)).run []) w
    w.store.Reachable ∧ w.store.depth = 0 ∧
      kept.2.store.maps = [⟨[("x", [.int 1])]⟩] ∧ kept.2.store.ledger.committed = 1 ∧
      undone.2.store.maps = [] ∧ undone.2.store.ledger.rolledBack = 1 := by
  intro w kept undone
  have reachable : w.store.Reachable := .create .standard .empty
  obtain ⟨result, -, whenKept⟩ := transaction_atomic w reachable rfl (Program.halfway (.ok ()))
  have success : (Program.halfway (.ok ())).runFlat [] w = (.ok (), _) := rfl
  obtain ⟨stop, -, whenUndone⟩ :=
    transaction_atomic w reachable rfl (Program.halfway (.error .stopped))
  have failure : (Program.halfway (.error .stopped)).runFlat [] w = (.error .stopped, _) := rfl
  rw [success] at result
  rw [failure] at stop
  rw [result, success] at whenKept
  rw [stop] at whenUndone
  exact ⟨reachable, rfl, whenKept.1, whenKept.2.2.1, whenUndone.1, whenUndone.2.2.2.2⟩

end Annals
