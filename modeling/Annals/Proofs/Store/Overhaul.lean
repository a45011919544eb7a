import Annals.Proofs.Store.Exchange
import Annals.Proofs.Store.Recovery

/-!
# Replacing the content in a transaction

The content of a store may be replaced in the middle of a transaction. The replacement is not
entered into the journal: what a transaction undoes is every write, to the old facts and to the new
ones, and what it gives up is whatever is in the sequence behind the length that the store had when
it was opened. So a replacement outlasts the failure of the transaction that it was made in.

An `Overhaul` is a program over a store without layers that may replace the content as well.
`Arrivals` is what a failure leaves to be told of a run: the facts of the last replacement, and how
many facts were made since. `Store.Amid` ties it to the store at every moment of the run, and
`Stack.overhaul_undone` reads off what the store holds after the failure.
-/

set_option autoImplicit false

namespace Annals

/-- New content for a whole store, as maps or as a snapshot. -/
inductive Replacement where
  | given (maps : List FactMap)
  | snapshot (bytes : Snapshot.Bytes)

namespace Replacement

def run {σ : Type} : Replacement → Action σ Unit
  | .given maps => Action.ofStore (·.replaceWith maps)
  | .snapshot bytes => Action.ofStore (·.importBytes bytes)

def read : Replacement → Except Error (List FactMap)
  | .given maps => .ok maps
  | .snapshot bytes => Store.mapsOfBytes bytes

/-- The facts that a replacement brings, where some names are refused. -/
def facts (reserved : List String) (content : Replacement) : Except Error (List Properties) :=
  match content.read with
  | .error e => .error e
  | .ok maps => (Store.factsOf reserved maps).mapError .property

variable {σ : Type} {w : World σ} {content : Replacement}

/-- A replacement that is read is a replacement by maps. -/
theorem run_of_read {maps : List FactMap} (read : content.read = .ok maps) :
    (content.run w : Except Exit Unit × World σ) = Action.ofStore (·.replaceWith maps) w := by
  cases content with
  | given maps' =>
    have same : maps' = maps := Except.ok.inj read
    rw [same]
    rfl
  | snapshot bytes =>
    have read : Store.mapsOfBytes bytes = .ok maps := read
    simp only [run, Action.ofStore_apply, Store.importBytes, read]

/-- A replacement that is refused changes nothing. -/
theorem run_refused {e : Error} (refused : content.facts w.store.config.reservedNames = .error e) :
    content.run w = (.error (.failed e), w) := by
  unfold facts at refused
  cases read : content.read with
  | error fault =>
    simp only [read, Except.error.injEq] at refused
    cases content with
    | given maps => cases read
    | snapshot bytes =>
      have read : Store.mapsOfBytes bytes = .error fault := read
      simp only [run, Action.ofStore_apply, Store.importBytes, read, refused]
      rfl
  | ok maps =>
    simp only [read] at refused
    rw [run_of_read read, Action.ofStore_apply]
    cases made : Store.factsOf w.store.config.reservedNames maps with
    | error fault =>
      have same : Error.property fault = e := by
        rw [made] at refused
        exact Except.error.inj refused
      simp only [Store.replaceWith, made, same]
      rfl
    | ok facts =>
      rw [made] at refused
      cases refused

/-- A replacement that is accepted takes the place of the whole sequence, and nothing else happens
but a report. -/
theorem run_accepted {facts : List Properties}
    (accepted : content.facts w.store.config.reservedNames = .ok facts) :
    (content.run w).1 = .ok () ∧ w.store.Step (content.run w).2.store ∧
      (content.run w).2.store = (w.store.report (.contentReplaced facts.length)).withLedger
        (w.store.ledger.replaceAll w.store.config.reservedNames facts) := by
  unfold Replacement.facts at accepted
  cases read : content.read with
  | error e =>
    simp only [read] at accepted
    cases accepted
  | ok maps =>
    simp only [read] at accepted
    rw [run_of_read read, Action.ofStore_apply]
    have step : w.store.Step (w.store.replaceWith maps).2 := .replaceWith w.store maps
    cases made : Store.factsOf w.store.config.reservedNames maps with
    | error fault =>
      rw [made] at accepted
      cases accepted
    | ok facts' =>
      have same : facts' = facts := by
        rw [made] at accepted
        exact Except.ok.inj accepted
      have ended : w.store.replaceWith maps =
          (.ok (), (w.store.report (.contentReplaced facts.length)).withLedger
            (w.store.ledger.replaceAll w.store.config.reservedNames facts)) := by
        simp only [Store.replaceWith, made, same]
        rfl
      rw [ended] at step ⊢
      exact ⟨rfl, step, rfl⟩

end Replacement

/-! ### Programs that replace the content -/

/-- What the user of a store without layers does, by the type of the result, where the content may
be replaced. -/
inductive Overhaul : Type → Type 1 where
  | done {α : Type} (outcome : Except Exit α) : Overhaul α
  | ask {α β : Type} (request : Request β) (next : Except Exit β → Overhaul α) : Overhaul α
  | replace {α : Type} (content : Replacement) (next : Except Exit Unit → Overhaul α) : Overhaul α
  | transaction {α β : Type} (body : Overhaul β) (next : Except Exit β → Overhaul α) : Overhaul α

/-- What came to a store: the facts of the last replacement, if there was one, and how many facts
were made since. -/
structure Arrivals where
  replaced : Option (List Properties)
  made : Nat

namespace Arrivals

def none : Arrivals := ⟨.none, 0⟩

/-- A store that held `before`, and whatever has come since, if nothing is written. -/
def atop (arrivals : Arrivals) (before : List Properties) : List Properties :=
  arrivals.replaced.getD before ++ List.replicate arrivals.made .empty

/-- What came with a request. -/
def ask (arrivals : Arrivals) : {β : Type} → Request β → Arrivals
  | _, .insert => { arrivals with made := arrivals.made + 1 }
  | _, _ => arrivals

/-- What came with a replacement, unless it was refused. -/
def replace (arrivals : Arrivals) (reserved : List String) (content : Replacement) : Arrivals :=
  match content.facts reserved with
  | .error _ => arrivals
  | .ok facts => ⟨some facts, 0⟩

end Arrivals

/-- A request that writes to no other facts than such as were made. -/
def Request.Grounded (s : Store) : {β : Type} → Request β → Prop
  | _, .write id _ _ _ => id.index < s.ledger.register.cells.size
  | _, .writeAll id _ _ _ => id.index < s.ledger.register.cells.size
  | _, _ => True

namespace Overhaul

variable {σ : Type}

def run : {α : Type} → Overhaul α → Action σ α
  | _, .done outcome => Action.settle outcome
  | _, .ask request next => fun w =>
    let (outcome, w) := request.run [] w
    (next outcome).run w
  | _, .replace content next => fun w =>
    let (outcome, w) := content.run w
    (next outcome).run w
  | _, .transaction body next => fun w =>
    let (outcome, w) := Stack.transaction [] body.run w
    (next outcome).run w

/-- What came to a store in a run, after what had come before it. A transaction inside takes
nothing back. -/
def arrivals : {α : Type} → Overhaul α → Arrivals → World σ → Arrivals
  | _, .done _, before, _ => before
  | _, .ask request next, before, w =>
    let (outcome, after) := request.run [] w
    (next outcome).arrivals (before.ask request) after
  | _, .replace content next, before, w =>
    let (outcome, after) := content.run w
    (next outcome).arrivals (before.replace w.store.config.reservedNames content) after
  | _, .transaction body next, before, w =>
    let inside := body.arrivals before { w with store := w.store.openTransaction.2 }
    let (outcome, after) := Stack.transaction [] body.run w
    (next outcome).arrivals inside after

/-- In its run a program writes to no other facts than such as were made before. -/
def Grounded : {α : Type} → Overhaul α → World σ → Prop
  | _, .done _, _ => True
  | _, .ask request next, w =>
    request.Grounded w.store ∧ (next (request.run [] w).1).Grounded (request.run [] w).2
  | _, .replace content next, w => (next (content.run w).1).Grounded (content.run w).2
  | _, .transaction body next, w =>
    body.Grounded { w with store := w.store.openTransaction.2 } ∧
      (next (Stack.transaction [] body.run w).1).Grounded (Stack.transaction [] body.run w).2

end Overhaul

/-! ### In the middle of a transaction -/

namespace Store

/-- A store inside of so many transactions, the outermost of which was opened on `base`, and what
has come since then: without the writes that the journal holds, the store would hold that. -/
structure Amid (base : Store) (arrivals : Arrivals) (depth : Nat) (s : Store) : Prop extends
    base.Recoverable depth s where
  content : s.ledger.sequence.map s.past.contents = arrivals.atop base.maps
  /-- The journal holds writes to facts that were made, so none to a fact that is still to come. -/
  grounded : ∀ entry ∈ s.ledger.writes, entry.1.index < s.ledger.register.cells.size

namespace Amid

variable {base s s' : Store} {arrivals : Arrivals} {depth : Nat}

theorem start (sound : s.Sound) (closed : s.ledger.depth = 0) :
    s.Amid .none 1 s.openTransaction.2 := by
  refine ⟨.start sound closed, ?_, ?_⟩
  · rw [openTransaction_outermost closed]
    simp only [Arrivals.atop, Arrivals.none, Option.getD_none, List.replicate_zero, List.append_nil]
    rfl
  · rw [openTransaction_outermost closed]
    intro entry mem
    cases mem

theorem reports (h : base.Amid arrivals depth s) (reports : s.OnlyReports s') :
    base.Amid arrivals depth s' := by
  obtain ⟨events, rfl⟩ := reports
  exact ⟨h.toRecoverable.of_ledger rfl rfl rfl, h.content, h.grounded⟩

/-- A fact that is still to come is none that the journal has an entry of. -/
theorem unwritten (h : base.Amid arrivals depth s) {id : FactId}
    (new : s.ledger.register.cells.size ≤ id.index) :
    ∀ entry ∈ s.ledger.writes, entry.1 ≠ id := by
  intro entry mem same
  have old := h.grounded entry mem
  rw [same] at old
  omega

/-- A new fact is empty and will be so after the undoing. -/
theorem insert (h : base.Amid arrivals depth s) :
    base.Amid (arrivals.ask .insert) depth s.insert.2 := by
  refine ⟨h.toRecoverable.insert, ?_, fun entry mem => ?_⟩
  · have old : ∀ id ∈ s.ledger.sequence, s.insert.2.past.contents id = s.past.contents id := by
      intro id mem
      exact congrArg Cell.properties (past_insert s (h.sound.made id mem))
    have new : s.insert.2.past.contents s.ledger.register.nextId = .empty := by
      have unwritten : ∀ entry ∈ s.ledger.writes, entry.1 ≠ s.ledger.register.nextId :=
        h.unwritten (Nat.le_refl _)
      have untouched := Ledger.undo_of_unwritten s.ledger.writes
        (s.ledger.register.add .empty s.config.reservedNames) unwritten
      rw [Register.cell_add, if_pos rfl] at untouched
      exact congrArg Cell.properties untouched
    have sequence : s.insert.2.ledger.sequence = s.ledger.sequence ++ [s.ledger.register.nextId] :=
      rfl
    rw [sequence, List.map_append, List.map_congr_left old, h.content, List.map_singleton, new]
    simp [Arrivals.atop, Arrivals.ask, List.replicate_succ']
  · have before := h.grounded entry mem
    show _ < (s.ledger.register.add _ _).cells.size
    rw [Register.size_add]
    exact Nat.lt_succ_of_lt before

/-- A write to a fact that was made leaves the past as it is. -/
theorem write (h : base.Amid arrivals depth s) {handle : Handle} {listeners : List Listener}
    (journaled : handle.listeners = .journal :: listeners)
    (made : handle.id.index < s.ledger.register.cells.size) (name : String) (value : Value) :
    base.Amid arrivals depth (s.write handle name value).2 := by
  have written := write_journaled h.sound h.inside journaled name value
  refine ⟨h.toRecoverable.write journaled name value, ?_, fun entry mem => ?_⟩
  · rw [(s.write_made handle name value).1, written.past]
    exact h.content
  · rw [written.size]
    rcases written.entries entry mem with old | new
    · exact h.grounded entry old
    · rw [new]
      exact made

theorem writeAll (h : base.Amid arrivals depth s) {handle : Handle} {listeners : List Listener}
    (journaled : handle.listeners = .journal :: listeners)
    (made : handle.id.index < s.ledger.register.cells.size) (name : String) (values : List Value) :
    base.Amid arrivals depth (s.writeAll handle name values).2 := by
  have kept := writeAll_keeps
    (fun s => base.Amid arrivals depth s ∧ handle.id.index < s.ledger.register.cells.size)
    (h := handle) (fun s name value before => ?_) name values s ⟨h, made⟩
  · exact kept.1
  · refine ⟨before.1.write journaled before.2 name value, ?_⟩
    rw [(s.write_made handle name value).2]
    exact before.2

/-- The facts of a replacement are new, so the journal has no entry of them, whatever was written
before; and what it has entries of is still there to be undone. -/
theorem replace (h : base.Amid arrivals depth s) (reserved : List String) (facts : List Properties)
    (sound : (s.withLedger (s.ledger.replaceAll reserved facts)).Sound) :
    base.Amid ⟨some facts, 0⟩ depth (s.withLedger (s.ledger.replaceAll reserved facts)) := by
  have size : (s.ledger.replaceAll reserved facts).register.cells.size =
      s.ledger.register.cells.size + facts.length := Register.size_addAll reserved facts _
  have older : ∀ id, id.index < s.ledger.register.cells.size →
      (s.ledger.replaceAll reserved facts).register.cell id = s.ledger.register.cell id := by
    intro id old
    simp [Ledger.replaceAll, Register.addAll_eq, Register.cell, Array.getD_eq_getD_getElem?,
      Array.getElem?_append, old]
  refine ⟨?_, ?_, fun entry mem => ?_⟩
  · refine h.toRecoverable.transfer rfl rfl rfl ?_ (fun id old => ?_) sound
    · exact Nat.le_trans (Nat.le_add_right _ _) (Nat.le_of_eq size.symm)
    · exact Ledger.undo_congr s.ledger.writes (older id old)
  · have fresh : ∀ id ∈ (s.ledger.replaceAll reserved facts).sequence,
        (s.withLedger (s.ledger.replaceAll reserved facts)).past.contents id =
          (s.ledger.replaceAll reserved facts).register.contents id := by
      intro id mem
      obtain ⟨i, -, rfl⟩ := List.mem_map.mp mem
      have unwritten : ∀ entry ∈ s.ledger.writes,
          entry.1 ≠ ⟨s.ledger.register.cells.size + i⟩ :=
        h.unwritten (Nat.le_add_right _ _)
      have untouched := Ledger.undo_of_unwritten s.ledger.writes
        (s.ledger.replaceAll reserved facts).register unwritten
      exact congrArg Cell.properties untouched
    have now : (s.ledger.replaceAll reserved facts).maps = facts :=
      s.ledger.maps_replaceAll reserved facts
    have held := (List.map_congr_left fresh).trans now
    simp only [Arrivals.atop, Option.getD_some, List.replicate_zero, List.append_nil]
    exact held
  · have before := h.grounded entry mem
    show _ < (s.ledger.replaceAll reserved facts).register.cells.size
    omega

theorem deeper (h : base.Amid arrivals depth s) : s.openTransaction.1 = false ∧
    base.Amid arrivals (depth + 1) s.openTransaction.2 := by
  obtain ⟨nested, inside⟩ := h.toRecoverable.deeper
  rw [openTransaction_nested h.inside] at inside ⊢
  exact ⟨rfl, inside, h.content, h.grounded⟩

theorem leave (h : base.Amid arrivals (depth + 1) s) (positive : 0 < depth) (success : Bool) :
    base.Amid arrivals depth (s.closeTransaction false success) :=
  ⟨h.toRecoverable.leave positive success, h.content, h.grounded⟩

/-- A request adds what comes with it. -/
theorem request {σ β : Type} {w : World σ} (h : base.Amid arrivals depth w.store) (r : Request β)
    (grounded : r.Grounded w.store) :
    base.Amid (arrivals.ask r) depth (r.run [] w).2.store := by
  cases r with
  | insert => exact h.insert
  | write id objections name value =>
    have made : id.index < w.store.ledger.register.cells.size := grounded
    simp only [Request.run, Action.write, Action.ofStore_apply]
    exact h.write rfl made name value
  | writeAll id objections name values =>
    have made : id.index < w.store.ledger.register.cells.size := grounded
    simp only [Request.run, Action.ofStore_apply]
    exact h.writeAll rfl made name values
  | compile text => exact h.reports (Request.onlyReports (r := .compile text) trivial w)
  | find q params => exact h.reports (Request.onlyReports (r := .find q params) trivial w)
  | one q params => exact h.reports (Request.onlyReports (r := .one q params) trivial w)
  | next scan => exact h.reports (Request.onlyReports (r := .next scan) trivial w)
  | look => exact h.reports (Request.onlyReports (r := .look) trivial w)

/-- A replacement brings its facts, or it is refused and nothing changes. -/
theorem replacement {σ : Type} {w : World σ} (h : base.Amid arrivals depth w.store)
    (content : Replacement) :
    base.Amid (arrivals.replace w.store.config.reservedNames content) depth
      (content.run w).2.store := by
  unfold Arrivals.replace
  cases brought : content.facts w.store.config.reservedNames with
  | error e =>
    rw [Replacement.run_refused brought]
    exact h
  | ok facts =>
    obtain ⟨-, step, ended⟩ := Replacement.run_accepted brought
    have sound := h.sound.step step
    rw [ended] at sound ⊢
    have reports : w.store.OnlyReports (w.store.report (.contentReplaced facts.length)) := ⟨_, rfl⟩
    have reported := h.reports reports
    exact reported.replace w.store.config.reservedNames facts sound

end Amid

end Store

namespace Overhaul

variable {σ α : Type} {base : Store}

/-- A run inside of a transaction keeps the account of what has come to the store. -/
theorem run_amid (p : Overhaul α) {arrivals : Arrivals} {depth : Nat} {w : World σ}
    (h : base.Amid arrivals depth w.store) (grounded : p.Grounded w) :
    base.Amid (p.arrivals arrivals w) depth (p.run w).2.store := by
  induction p generalizing arrivals depth w with
  | done outcome =>
    cases outcome with
    | ok x => exact h
    | error e => exact h
  | ask request next ih =>
    obtain ⟨here, later⟩ := grounded
    exact ih _ (h.request request here) later
  | replace content next ih => exact ih _ (h.replacement content) grounded
  | transaction body next ihBody ih =>
    obtain ⟨inner, later⟩ := grounded
    obtain ⟨nested, inside⟩ := h.deeper
    have ended := ihBody (w := { w with store := w.store.openTransaction.2 }) inside inner
    have left : base.Amid (body.arrivals arrivals { w with store := w.store.openTransaction.2 })
        depth (Stack.transaction [] body.run w).2.store := by
      unfold Stack.transaction
      rw [Action.inTransaction_apply]
      simp only [nested]
      exact ended.leave h.positive _
    exact ih _ left later

end Overhaul

/-- A transaction whose body may replace the content, and that fails, takes back every write and
every fact beyond the length that the store had, but no replacement: the store holds the facts of
the last one, followed by empty ones for the facts that were made since, cut to the length that it
had. Without a replacement that is what it held before. Every fact that was there holds what it
held, also if it is no fact of the store any more. No transaction is left open, and one more is
counted as rolled back. -/
theorem Stack.overhaul_undone {σ α : Type} (w : World σ) (reachable : w.store.Reachable)
    (closed : w.store.depth = 0) (body : Overhaul α)
    (grounded : body.Grounded { w with store := w.store.openTransaction.2 })
    {e : Exit} (failed : (Stack.transaction [] body.run w).1 = .error e) :
    let arrivals := body.arrivals .none { w with store := w.store.openTransaction.2 }
    let after := (Stack.transaction [] body.run w).2.store
    after.maps = (arrivals.atop w.store.maps).take w.store.size ∧
      (arrivals.replaced = .none → after.maps = w.store.maps) ∧
      (∀ id, id.index < w.store.ledger.register.cells.size →
        after.properties id = w.store.properties id) ∧
      after.depth = 0 ∧ after.ledger.committed = w.store.ledger.committed ∧
      after.ledger.rolledBack = w.store.ledger.rolledBack + 1 := by
  intro arrivals after
  have outermost : w.store.openTransaction.1 = true := by
    rw [Store.openTransaction_outermost closed]
  have amid := body.run_amid (w := { w with store := w.store.openTransaction.2 })
    (Store.Amid.start reachable.sound closed) grounded
  have ended : after = (body.run { w with
      store := w.store.openTransaction.2 }).2.store.closeTransaction true false := by
    have outcome := failed
    simp only [after, Stack.transaction, Action.inTransaction_apply, outermost] at outcome ⊢
    rw [outcome]
    rfl
  obtain ⟨depth, register, sequence, committed, rolledBack⟩ := amid.toRecoverable.rollBack
  rw [← ended] at depth register sequence committed rolledBack
  have maps : after.maps = (arrivals.atop w.store.maps).take w.store.size := by
    have content := amid.content
    show after.ledger.sequence.map after.ledger.register.contents = _
    rw [register, sequence, List.map_take, content]
    rfl
  refine ⟨maps, fun untouched => ?_, fun id old => ?_, depth, committed, rolledBack⟩
  · have whole : (w.store.maps).length = w.store.size := List.length_map ..
    rw [maps, Arrivals.atop, untouched, Option.getD_none, ← whole, List.take_left]
  · show (after.ledger.register.cell id).properties = _
    rw [register]
    exact congrArg Cell.properties (amid.restored id old)

/-- A store with an empty fact behind one that holds something. -/
def Store.pair : Store :=
  let first := (create .standard .empty).insert
  (first.2.write first.1 "a" (.int 1)).2.insert.2

theorem Store.pair_reachable : pair.Reachable :=
  .step (.step (.step (.create .standard .empty) (.insert _)) (.write _ _ _ _)) (.insert _)

/-- What a body does that writes to the first fact of a pair, puts another fact in the place of
both, writes to that one too, makes a fact and stops. -/
def Overhaul.swap : Overhaul Unit :=
  .ask (.write ⟨0⟩ [] "a" (.int 2)) fun _ =>
    .replace (.given [[("b", [.int 3])]]) fun _ =>
      .ask (.write ⟨2⟩ [] "b" (.int 4)) fun _ =>
        .ask .insert fun _ => .done (.error .stopped)

/-- The values that were written last are gone, also the one in the fact that is out of the store,
but the new fact is still there. -/
theorem Stack.overhaul_undone_swap :
    let w : World Unit := ⟨.pair, ()⟩
    let ended := Stack.transaction [] Overhaul.swap.run w
    w.store.maps = [⟨[("a", [.int 1])]⟩, .empty] ∧ ended.1 = .error .stopped ∧
      ended.2.store.maps = [⟨[("b", [.int 3])]⟩, .empty] ∧
      ended.2.store.properties ⟨0⟩ = ⟨[("a", [.int 1])]⟩ := by
  intro w ended
  have grounded : Overhaul.swap.Grounded { w with store := w.store.openTransaction.2 } := by
    refine And.intro ?_ (And.intro ?_ (And.intro trivial trivial))
    · show 0 < _
      decide
    · show 2 < _
      decide
  have failed : ended.1 = .error .stopped := rfl
  obtain ⟨maps, -, old, -⟩ :=
    overhaul_undone w Store.pair_reachable rfl Overhaul.swap grounded failed
  refine ⟨rfl, failed, maps, ?_⟩
  exact old ⟨0⟩ (by decide)

/-- A body that replaces the content by that of a shorter store and then fails leaves neither the
facts nor their number as they were. -/
theorem Stack.replacement_outlasts :
    let w : World Unit := ⟨.pair, ()⟩
    let body : Overhaul Unit := .replace (.given [[("b", [.int 3])]]) fun
      | .ok _ => .done (.error (.failed (.property (.hookGaveUp "b"))))
      | .error e => .done (.error e)
    let ended := Stack.transaction [] body.run w
    w.store.Reachable ∧ w.store.depth = 0 ∧
      ended.1 = .error (.failed (.property (.hookGaveUp "b"))) ∧
      ended.2.store.maps ≠ w.store.maps ∧ ended.2.store.size ≠ w.store.size := by
  intro w body ended
  exact ⟨Store.pair_reachable, rfl, rfl, by decide, by decide⟩

end Annals
