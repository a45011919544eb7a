import Annals.Proofs.Store.Validity

/-!
# What a layer of rules lets pass

A transaction of a layer of rules is judged once, when the outermost one is closed, by the facts
that were touched in between: those that were made through the layer, and those that a write came
to. `Request.Touches` and `Program.Touches` say which facts these are, from what the requests do
and without a word about watches; transactions inside count in full, whether they failed or not.
`Store.Noted` says that a watch that is open remembers exactly them. It is shown request by request,
for a transaction inside, and by induction for programs; `Stack.transaction_passes` is the verdict.

Hooks may stand between the rules and the store: they write below the layer, through handles that
it does not hear of, but it hears of the fact that they wrote to.
-/

set_option autoImplicit false

namespace Annals

namespace Store

variable {s s' : Store} {rule : Rule} {place : Nat}

/-- A write that listeners hear of: it passes its check, and the value is a new one. -/
def Adds (s : Store) (id : FactId) (name : String) (value : Value) : Prop :=
  Properties.check (s.ledger.register.cell id).reserved name value = .ok () ∧
    ((s.properties id).append name value).2 ≠ none

/-- One of several writes is heard of; none is made after one that fails. -/
def AddsAny (h : Handle) (name : String) : Store → List Value → Prop
  | _, [] => False
  | s, value :: rest => s.Adds h.id name value ∨
      (s.write h name value).1 = .ok () ∧ AddsAny h name (s.write h name value).2 rest

/-! ### Checks -/

/-- A check succeeds on a fact that satisfies the rule. -/
theorem validate_of_satisfies {id : FactId} (satisfied : (s.satisfies rule id).1 = .ok true) :
    (s.validate rule id).1 = .ok () := by
  unfold validate
  cases verdict : s.satisfies rule id with
  | mk result next =>
    rw [verdict] at satisfied
    have this : result = .ok true := satisfied
    rw [this]

/-- Checks of several facts succeed if and only if all of them satisfy the rule. -/
theorem validateAll_ok_iff {ids : List FactId} :
    (s.validateAll rule ids).1 = .ok () ↔ ∀ id ∈ ids, (s.satisfies rule id).1 = .ok true := by
  constructor
  · exact validateAll_ok
  · intro satisfied
    induction ids generalizing s with
    | nil => rfl
    | cons first rest ih =>
      have valid := validate_of_satisfies (satisfied first List.mem_cons_self)
      have reports := s.validate_onlyReports rule first
      unfold validateAll
      cases checked : s.validate rule first with
      | mk outcome next =>
        rw [checked] at valid reports
        obtain ⟨events, rfl⟩ := reports
        have this : outcome = .ok () := valid
        rw [this]
        apply ih
        intro id mem
        have before := satisfied id (List.mem_cons_of_mem _ mem)
        exact before

/-! ### Watches and writes -/

/-- Listeners that are no rules leave the watches alone. -/
theorem notify_watches {listeners : List Listener}
    (ruleless : ∀ rule place, .rule rule place ∉ listeners) (id : FactId) (change : Change) :
    (s.notify id change listeners).2.watches = s.watches := by
  induction listeners generalizing s with
  | nil => rfl
  | cons listener rest ih =>
    have later : ∀ rule place, .rule rule place ∉ rest :=
      fun rule place mem => ruleless rule place (List.mem_cons_of_mem _ mem)
    cases listener with
    | journal => exact ih later
    | rule rule place => exact absurd List.mem_cons_self (ruleless rule place)
    | refusal objection =>
      simp only [notify, hear]
      cases objection s.ledger.register.contents id change with
      | none => exact ih later
      | some e => rfl

/-- A write that no layer of rules hears of leaves the watches alone. -/
theorem write_watches {handle : Handle}
    (ruleless : ∀ rule place, .rule rule place ∉ handle.listeners) (name : String) (value : Value) :
    (s.write handle name value).2.watches = s.watches := by
  rcases s.write_cases handle name value with same | ⟨p, change, -, ended⟩
  · rw [same]
  · have watches := notify_watches (s := s.written handle.id p) ruleless handle.id change
    rcases ended with ⟨-, same⟩ | ⟨e, -, -, same⟩
    · rw [same]
      exact watches
    · rw [same]
      exact watches

/-- A layer of rules inside of a transaction is told of a fact, by way of its watch, if a write to
the fact is heard of, also if somebody refuses it afterwards. -/
theorem write_watched (inside : (s.watch place).depth ≠ 0) {handle : Handle}
    {others : List Listener} (listening : handle.listeners = .journal :: .rule rule place :: others)
    (ruleless : ∀ rule place, .rule rule place ∉ others) (name : String) (value : Value) :
    (s.Adds handle.id name value →
      (s.write handle name value).2.watches = (s.onWatch place (·.touch handle.id)).watches) ∧
    (¬ s.Adds handle.id name value → (s.write handle name value).2.watches = s.watches) := by
  unfold Store.write
  dsimp only
  cases checked : Properties.check (s.ledger.register.cell handle.id).reserved name value with
  | error fault =>
    refine ⟨fun adds => ?_, fun _ => rfl⟩
    rw [adds.1] at checked
    cases checked
  | ok _ =>
    cases added : (s.ledger.register.cell handle.id).properties.append name value with
    | mk p change =>
      cases change with
      | none =>
        refine ⟨fun adds => ?_, fun _ => rfl⟩
        exact absurd (congrArg Prod.snd added) adds.2
      | some change =>
        have adds : s.Adds handle.id name value := by
          refine ⟨checked, ?_⟩
          have new : ((s.properties handle.id).append name value).2 = some change :=
            congrArg Prod.snd added
          rw [new]
          exact Option.some_ne_none change
        refine ⟨fun _ => ?_, fun unheard => absurd adds unheard⟩
        -- the journal hears first, and it never fails; then the watch is told
        have told : ((s.written handle.id p).notify handle.id change handle.listeners).2.watches =
            (s.onWatch place (·.touch handle.id)).watches := by
          rw [listening]
          simp only [notify, hear]
          rw [if_neg (show (((s.written handle.id p).withLedger
            ((s.written handle.id p).ledger.record handle.id change)).watch place).depth ≠ 0
              from inside)]
          exact notify_watches ruleless handle.id change
        dsimp only
        split
        · next ended =>
          have ended : (s.written handle.id p).notify handle.id change handle.listeners = _ := ended
          rw [ended] at told
          exact told
        · next ended =>
          have ended : (s.written handle.id p).notify handle.id change handle.listeners = _ := ended
          rw [ended] at told
          exact told

/-! ### What a watch notes -/

/-- The watch at a place is as deep as before, and some facts are all that it remembers in addition.
-/
structure Noted (place : Nat) (facts : FactId → Prop) (s s' : Store) : Prop where
  watches : s'.watches.length = s.watches.length
  depth : (s'.watch place).depth = (s.watch place).depth
  touched : ∀ id, id ∈ (s'.watch place).touched ↔ id ∈ (s.watch place).touched ∨ facts id

namespace Noted

variable {facts facts' : FactId → Prop}

/-- Where the watches are the same, nothing is noted. -/
theorem of_watches (same : s'.watches = s.watches) (none : ∀ id, ¬ facts id) :
    Noted place facts s s' := by
  have watch := watch_of_watches same place
  refine ⟨congrArg List.length same, congrArg Watch.depth watch, fun id => ?_⟩
  rw [watch]
  exact ⟨.inl, fun either => either.resolve_right (none id)⟩

theorem trans {s'' : Store} (first : Noted place facts s s') (second : Noted place facts' s' s'') :
    Noted place (fun id => facts id ∨ facts' id) s s'' := by
  refine ⟨second.watches.trans first.watches, second.depth.trans first.depth, fun id => ?_⟩
  rw [second.touched, first.touched, or_assoc]

/-- An open watch that is told of a fact notes it. -/
theorem of_touch (id : FactId) (placed : place < s.watches.length)
    (inside : (s.watch place).depth ≠ 0)
    (same : s'.watches = (s.onWatch place (·.touch id)).watches)
    (exact' : ∀ other, facts other ↔ id = other) : Noted place facts s s' := by
  have watch : s'.watch place = (s.watch place).touch id := by
    rw [watch_of_watches same, watch_onWatch, if_pos ⟨rfl, placed⟩]
  refine ⟨?_, ?_, fun other => ?_⟩
  · rw [same]
    exact List.length_modify ..
  · rw [watch]
    unfold Watch.touch
    split
    · rfl
    · rfl
  · rw [watch, exact']
    unfold Watch.touch
    split
    · next known =>
      have known : id ∈ (s.watch place).touched := known.resolve_left inside
      refine ⟨.inl, ?_⟩
      rintro (older | rfl)
      · exact older
      · exact known
    · simp only [List.mem_append, List.mem_singleton, eq_comm]

/-- A write through the layer notes its fact if it is heard of. -/
theorem write (placed : place < s.watches.length) (inside : (s.watch place).depth ≠ 0)
    {handle : Handle} {others : List Listener}
    (listening : handle.listeners = .journal :: .rule rule place :: others)
    (ruleless : ∀ rule place, .rule rule place ∉ others) (name : String) (value : Value) :
    Noted place (fun id => handle.id = id ∧ s.Adds handle.id name value) s
      (s.write handle name value).2 := by
  obtain ⟨heard, unheard⟩ := write_watched inside listening ruleless name value
  by_cases adds : s.Adds handle.id name value
  · exact of_touch handle.id placed inside (heard adds) fun id => and_iff_left adds
  · exact of_watches (unheard adds) fun id told => adds told.2

/-- Several writes through the layer note their fact if one of them is heard of. -/
theorem writeAll (placed : place < s.watches.length) (inside : (s.watch place).depth ≠ 0)
    {handle : Handle} {others : List Listener}
    (listening : handle.listeners = .journal :: .rule rule place :: others)
    (ruleless : ∀ rule place, .rule rule place ∉ others) (name : String) (values : List Value) :
    Noted place (fun id => handle.id = id ∧ AddsAny handle name s values) s
      (s.writeAll handle name values).2 := by
  have each : Noted place (fun id => handle.id = id ∧ AddsAny handle name s values) s
      (s.writeEach handle name values).2 := by
    induction values generalizing s with
    | nil => exact of_watches rfl fun id told => told.2
    | cons value rest ih =>
      have first := Noted.write placed inside listening ruleless name value
      simp only [writeEach, AddsAny]
      cases ended : s.write handle name value with
      | mk outcome s' =>
        rw [ended] at first
        cases outcome with
        | error e =>
          refine ⟨first.watches, first.depth, fun id => ?_⟩
          rw [first.touched]
          simp
        | ok _ =>
          have later := ih (s := s') (first.watches ▸ placed) (first.depth ▸ inside)
          have both := first.trans later
          refine ⟨both.watches, both.depth, fun id => ?_⟩
          rw [both.touched]
          simp [and_or_left]
  unfold Store.writeAll
  split
  · next empty =>
    rw [List.isEmpty_iff.mp empty]
    exact of_watches rfl fun id told => told.2
  · exact each

end Noted

end Store

/-! ### What a program touches -/

/-- The world that the body of a transaction begins in: the transaction is open, and the watches are
entered. -/
def Stack.begin {σ : Type} (layers : Stack) (w : World σ) : World σ :=
  { w with store := layers.enterAll w.store.openTransaction.2 }

/-- A fact that a request of some layers touches: the one that it makes, or one that it writes to if
listeners hear of it. -/
def Request.Touches {σ : Type} (layers : Stack) (w : World σ) (id : FactId) :
    {β : Type} → Request β → Prop
  | _, .insert => ∃ h, (layers.insert w).1 = .ok h ∧ h.id = id
  | _, .write written _ name value => written = id ∧ w.store.Adds written name value
  | _, .writeAll written objections name values => written = id ∧
      Store.AddsAny ((layers.handle written).refusing objections) name w.store values
  | _, _ => False

/-- A fact that a program touches in its run, inside of transactions as well, whatever becomes of
them. -/
def Program.Touches {σ : Type} (layers : Stack) :
    {α : Type} → Program α → World σ → FactId → Prop
  | _, .done _, _, _ => False
  | _, .ask request next, w, id => request.Touches layers w id ∨
      (next (request.run layers w).1).Touches layers (request.run layers w).2 id
  | _, .transaction body next, w, id =>
    body.Touches layers (layers.begin w) id ∨
      (next (layers.transaction (body.run layers) w).1).Touches layers
        (layers.transaction (body.run layers) w).2 id

namespace Stack

open Annals.Action (Keeps)
open Store (Noted)

variable {σ α β : Type} (rule : Rule) {place : Nat} (hooks : List Hook)

/-- Hooks over a store add nothing to its transactions. -/
theorem transaction_hooks (body : Action σ α) :
    transaction (hooks.map .hook) body = body.inTransaction := by
  induction hooks with
  | nil => rfl
  | cons hook rest ih => exact ih

theorem enterAll_hooks (s : Store) : enterAll (hooks.map .hook) s = s := by
  induction hooks with
  | nil => rfl
  | cons hook rest ih => exact ih

theorem handle_hooks (id : FactId) : handle (hooks.map .hook) id = ⟨id, [.journal]⟩ := by
  induction hooks with
  | nil => rfl
  | cons hook rest ih => exact ih

/-- A transaction of a layer of rules over hooks enters and leaves one watch. -/
theorem transaction_rule (place : Nat) (body : Action σ α) (w : World σ) :
    transaction (.rule rule place :: hooks.map .hook) body w =
      let opened := w.store.openTransaction
      let ended := Action.leaveWatch rule place ((w.store.watch place).depth == 0)
        (body (begin (.rule rule place :: hooks.map .hook) w))
      (ended.1, { ended.2 with
        store := ended.2.store.closeTransaction opened.1 (Action.succeeded ended.1) }) := by
  have watch : w.store.openTransaction.2.watch place = w.store.watch place := by
    by_cases closed : w.store.ledger.depth = 0
    · rw [Store.openTransaction_outermost closed]
      rfl
    · rw [Store.openTransaction_nested closed]
      rfl
  rw [transaction, transaction_hooks, Action.inTransaction_apply]
  simp only [Action.underWatch_apply, watch, begin, enterAll, enterAll_hooks]

/-- Making a fact below the layer of rules leaves its watch alone, whatever the hooks write. -/
theorem insert_watches :
    Keeps (fun watches s => s.watches = watches) (insert (hooks.map .hook) : Action σ Handle) := by
  induction hooks with
  | nil => exact fun watches w same => same
  | cons hook rest ih =>
    intro watches w same
    have writes : ∀ watches id (s : Store) name value, s.watches = watches →
        (s.write (handle (rest.map .hook) id) name value).2.watches = watches := by
      intro watches id s name value same
      rw [handle_hooks, Store.write_watches (fun rule place mem => by simp at mem), same]
    rw [List.map_cons, insert, transaction_hooks, Action.inTransaction_apply]
    dsimp only
    rw [Store.watches_closeTransaction]
    apply decorated_keeps ih writes hook
    rw [Store.watches_openTransaction]
    exact same

/-- A fact that is made through the layer is noted. -/
theorem insert_noted {w : World σ} (placed : place < w.store.watches.length)
    (inside : (w.store.watch place).depth ≠ 0) :
    Noted place (fun id => (Request.insert).Touches (.rule rule place :: hooks.map .hook) w id)
      w.store (insert (.rule rule place :: hooks.map .hook) w).2.store := by
  have below := insert_watches hooks w.store.watches w rfl
  simp only [Request.Touches, insert, Action.bind_apply]
  cases ended : (insert (hooks.map .hook) : Action σ Handle) w with
  | mk outcome v =>
    rw [ended] at below
    have below : v.store.watches = w.store.watches := below
    cases outcome with
    | error e =>
      refine Noted.of_watches below fun id told => ?_
      obtain ⟨h, made, -⟩ := told
      cases made
    | ok h =>
      refine Noted.of_touch h.id placed inside ?_ fun id => ?_
      · show v.store.watches.modify place _ = w.store.watches.modify place _
        rw [below]
      · constructor
        · rintro ⟨k, made, same⟩
          have this : h.observedBy (.rule rule place) = k := Except.ok.inj made
          rw [← same, ← this]
          rfl
        · exact fun same => ⟨_, rfl, same⟩

/-- What a request through the layer touches is noted. -/
theorem request_noted (r : Request β) {w : World σ} (placed : place < w.store.watches.length)
    (inside : (w.store.watch place).depth ≠ 0) :
    Noted place (fun id => r.Touches (.rule rule place :: hooks.map .hook) w id) w.store
      (r.run (.rule rule place :: hooks.map .hook) w).2.store := by
  have listening : ∀ id objections,
      ((handle (.rule rule place :: hooks.map .hook) id).refusing objections).listeners =
        .journal :: .rule rule place :: objections.map .refusal := by
    intro id objections
    have none := congrArg Handle.listeners (handle_hooks hooks id)
    have none : listeners (hooks.map .hook) = [] := (List.cons.inj none).2
    simp only [handle, Handle.refusing, listeners, none]
    rfl
  have ruleless : ∀ (objections : List Objection) rule place,
      Listener.rule rule place ∉ objections.map .refusal := by
    intro objections rule place mem
    simp at mem
  have reads : ∀ {r : Request β}, r.Reads → (∀ id, ¬ r.Touches (.rule rule place ::
      hooks.map .hook) w id) → Noted place (fun id => r.Touches (.rule rule place ::
        hooks.map .hook) w id) w.store (r.run (.rule rule place :: hooks.map .hook) w).2.store := by
    intro r reads none
    obtain ⟨events, same⟩ : w.store.OnlyReports
        (r.run (.rule rule place :: hooks.map .hook) w).2.store := Request.onlyReports reads w
    refine Noted.of_watches ?_ none
    rw [same]
  cases r with
  | insert => exact insert_noted rule hooks placed inside
  | write id objections name value =>
    simp only [Request.run, Action.write, Action.ofStore_apply]
    exact Noted.write placed inside (listening id objections) (ruleless objections) name value
  | writeAll id objections name values =>
    simp only [Request.run, Action.ofStore_apply]
    exact Noted.writeAll placed inside (listening id objections) (ruleless objections) name values
  | compile => exact reads trivial fun _ told => told
  | find => exact reads trivial fun _ told => told
  | one => exact reads trivial fun _ told => told
  | next => exact reads trivial fun _ told => told
  | look => exact reads trivial fun _ told => told

/-- At the beginning of a transaction the watch is one deeper, and remembers what it did. -/
theorem begin_watch {w : World σ} (placed : place < w.store.watches.length) :
    (begin (.rule rule place :: hooks.map .hook) w).store.watches.length =
        w.store.watches.length ∧
      (begin (.rule rule place :: hooks.map .hook) w).store.watch place =
        (w.store.watch place).enter := by
  have watches := w.store.watches_openTransaction
  simp only [begin, enterAll, enterAll_hooks]
  constructor
  · rw [← watches]
    exact List.length_modify ..
  · rw [Store.watch_onWatch, watches, if_pos ⟨rfl, placed⟩, Store.watch_of_watches watches]

theorem begin_inside {w : World σ} (placed : place < w.store.watches.length) :
    place < (begin (.rule rule place :: hooks.map .hook) w).store.watches.length ∧
      ((begin (.rule rule place :: hooks.map .hook) w).store.watch place).depth ≠ 0 := by
  obtain ⟨length, entered⟩ := begin_watch rule hooks placed
  rw [length, entered]
  exact ⟨placed, Nat.succ_ne_zero _⟩

/-- Where the watch is open already, nothing is checked when a transaction is left, and the watch
goes on remembering. -/
theorem transaction_noted {body : Action σ α} {w : World σ} {facts : FactId → Prop}
    (placed : place < w.store.watches.length) (inside : (w.store.watch place).depth ≠ 0)
    (noted : Noted place facts (begin (.rule rule place :: hooks.map .hook) w).store
      (body (begin (.rule rule place :: hooks.map .hook) w)).2.store) :
    Noted place facts w.store
      (transaction (.rule rule place :: hooks.map .hook) body w).2.store := by
  obtain ⟨length, entered⟩ := begin_watch rule hooks placed
  rw [transaction_rule, beq_false_of_ne inside]
  dsimp only
  generalize body (begin (.rule rule place :: hooks.map .hook) w) = ended at noted ⊢
  obtain ⟨outcome, v⟩ := ended
  have placed' : place < v.store.watches.length := by
    rw [noted.watches, length]
    exact placed
  obtain ⟨same, -, -, exited, -⟩ := Action.leaveWatch_spec rule place false outcome v placed'
  have exited := exited rfl
  generalize Action.leaveWatch rule place false (outcome, v) = left at same exited ⊢
  have closed := left.2.store.watches_closeTransaction w.store.openTransaction.1
    (Action.succeeded left.1)
  have depth : (v.store.watch place).depth = (w.store.watch place).depth + 1 := by
    rw [noted.depth, entered]
    rfl
  have watch : (left.2.store.closeTransaction w.store.openTransaction.1
      (Action.succeeded left.1)).watch place =
        ⟨(w.store.watch place).depth, (v.store.watch place).touched⟩ := by
    have still : (v.store.watch place).depth - 1 ≠ 0 := by
      rw [depth]
      exact inside
    rw [Store.watch_of_watches closed, exited]
    unfold Watch.exit
    rw [if_neg still, depth]
    rfl
  refine ⟨?_, ?_, fun id => ?_⟩
  · rw [closed, same.watches, noted.watches, length]
  · rw [watch]
  · rw [watch, noted.touched, entered]
    rfl

/-- What a program through the layer touches is noted, if the watch is open. -/
theorem run_noted (p : Program α) {w : World σ} (placed : place < w.store.watches.length)
    (inside : (w.store.watch place).depth ≠ 0) :
    Noted place (p.Touches (.rule rule place :: hooks.map .hook) w) w.store
      (p.run (.rule rule place :: hooks.map .hook) w).2.store := by
  induction p generalizing w with
  | done outcome =>
    have stays : (Program.run (.rule rule place :: hooks.map .hook) (.done outcome) w).2 = w := by
      cases outcome <;> rfl
    rw [stays]
    exact Noted.of_watches rfl fun id told => told
  | ask request next ih =>
    have first := request_noted rule hooks request placed inside
    rw [Program.run_ask]
    exact first.trans (ih _ (first.watches ▸ placed) (first.depth ▸ inside))
  | transaction body next ihBody ih =>
    obtain ⟨placed', deeper⟩ := begin_inside rule hooks placed
    have first := transaction_noted rule hooks placed inside (ihBody placed' deeper)
    rw [Program.run_transaction]
    exact first.trans (ih _ (first.watches ▸ placed) (first.depth ▸ inside))

/-- When a watch is left that nothing else had entered, there is a result if and only if there was
one before and all that the watch remembers satisfies the rule. -/
theorem leaveWatch_ok_iff {w : World σ} (placed : place < w.store.watches.length)
    (outcome : Except Exit α) (x : α) :
    (Action.leaveWatch rule place true (outcome, w)).1 = .ok x ↔ outcome = .ok x ∧
      ∀ id ∈ (w.store.watch place).touched, (w.store.satisfies rule id).1 = .ok true := by
  constructor
  · intro left
    obtain ⟨-, -, -, -, checked⟩ := Action.leaveWatch_spec rule place true outcome w placed
    obtain ⟨result, satisfied⟩ := checked x left
    exact ⟨result, satisfied rfl⟩
  · rintro ⟨rfl, satisfied⟩
    have cleared : (w.store.onWatch place Watch.clear).scene = w.store.scene := rfl
    have valid : ((w.store.onWatch place Watch.clear).validateAll rule
        (w.store.watch place).touched).1 = .ok () := by
      rw [Store.validateAll_ok_iff]
      intro id mem
      rw [Store.satisfies_congr cleared]
      exact satisfied id mem
    simp only [Action.leaveWatch, Action.checkOnLeave, Action.checkTouched, if_true,
      Action.bind_apply, Action.get_apply, Action.change_apply, Action.ofStore_apply, valid]
    rfl

/-- How an outermost transaction ends whose body is known to touch some facts. -/
theorem transaction_judged {body : Action σ α} {facts : FactId → Prop} {w : World σ}
    (sound : w.store.Sound) (closed : w.store.depth = 0) (placed : place < w.store.watches.length)
    (idle : w.store.watch place = .idle) (keeps : Keeps w.store.Within body)
    (noted : let layers : Stack := .rule rule place :: hooks.map .hook
      Noted place facts (layers.begin w).store (body (layers.begin w)).2.store) :
    let layers : Stack := .rule rule place :: hooks.map .hook
    let last := body (layers.begin w)
    let ended := layers.transaction body w
    (∀ x, ended.1 = .ok x ↔
      last.1 = .ok x ∧ ∀ id, facts id → (last.2.store.satisfies rule id).1 = .ok true) ∧
    (∀ e, last.1 = .error e → ended.1 = .error e) ∧
    (∀ x, ended.1 = .ok x → ended.2.store.ledger.sequence = last.2.store.ledger.sequence ∧
      ended.2.store.scene = last.2.store.scene) ∧
    (∀ e, ended.1 = .error e → ended.2.store.ledger.sequence = w.store.ledger.sequence ∧
      ∀ id, id.index < w.store.ledger.register.cells.size →
        ended.2.store.properties id = w.store.properties id) ∧
    ended.2.store.depth = 0 ∧ ended.2.store.watch place = .idle := by
  intro layers last ended
  obtain ⟨length, entered⟩ := begin_watch rule hooks placed
  have deep : (last.2.store.watch place).depth = 1 := by
    rw [noted.depth, entered, idle]
    rfl
  have touched : ∀ id, id ∈ (last.2.store.watch place).touched ↔ facts id := by
    intro id
    rw [noted.touched, entered, idle]
    simp [Watch.enter, Watch.idle]
  have placed' : place < last.2.store.watches.length := by
    rw [noted.watches, length]
    exact placed
  have within : w.store.Within 1 last.2.store :=
    keeps 1 (layers.begin w) (within_enterAll (Store.Within.start sound closed))
  obtain ⟨same, -, exited, -, -⟩ :=
    Action.leaveWatch_spec rule place true last.1 last.2 placed'
  have passes := leaveWatch_ok_iff rule placed' last.1
  have failed : ∀ e, last.1 = .error e →
      (Action.leaveWatch rule place true (last.1, last.2)).1 = .error e := by
    intro e failed
    rw [failed]
    rfl
  have closes : ended = (let left := Action.leaveWatch rule place true (last.1, last.2)
      (left.1, { left.2 with
        store := left.2.store.closeTransaction true (Action.succeeded left.1) })) := by
    have outermost : w.store.openTransaction.1 = true := by
      rw [Store.openTransaction_outermost closed]
    have applied := transaction_rule rule hooks place body w
    dsimp only at applied
    rw [idle, outermost] at applied
    exact applied
  generalize Action.leaveWatch rule place true (last.1, last.2) = left
    at same exited passes failed closes
  obtain ⟨outcome, v⟩ := left
  have within' := within.of_ledger same.config same.registry same.ledger
  rw [closes]
  refine ⟨fun x => ?_, failed, fun x ok => ?_, fun e error => ?_, ?_, ?_⟩
  · rw [passes x]
    exact and_congr_right fun _ => forall_congr' fun id => by rw [touched]
  · have ok : outcome = .ok x := ok
    subst ok
    refine ⟨?_, same.scene⟩
    show v.store.ledger.sequence = last.2.store.ledger.sequence
    rw [same.ledger]
  · have error : outcome = .error e := error
    subst error
    obtain ⟨-, sequence, cells, -⟩ := within'.rollBack
    exact ⟨sequence, fun id old => congrArg Cell.properties (cells id old)⟩
  · show (v.store.closeTransaction true _).depth = 0
    rw [Store.depth_closeTransaction]
    exact congrArg (· - 1) within'.opened
  · show (v.store.closeTransaction true _).watch place = .idle
    rw [Store.watch_of_watches (v.store.watches_closeTransaction true _)]
    exact exited deep

/-- The verdict on a transaction of a layer of rules over any hooks, where no transaction is open.
It has a result if and only if its body has it and every fact that the body touched satisfies the
rule when the body has ended, whatever the facts were like in between. Then the facts are those that
the body left; if not, the sequence and every fact that was there before are as before. In the end
no transaction is open, and the watch is idle again. -/
theorem transaction_passes (w : World σ) (reachable : w.store.Reachable)
    (closed : w.store.depth = 0) (placed : place < w.store.watches.length)
    (idle : w.store.watch place = .idle) (body : Program α) :
    let layers : Stack := .rule rule place :: hooks.map .hook
    let last := body.run layers (layers.begin w)
    let ended := layers.transaction (body.run layers) w
    (∀ x, ended.1 = .ok x ↔ last.1 = .ok x ∧
      ∀ id, body.Touches layers (layers.begin w) id →
        (last.2.store.satisfies rule id).1 = .ok true) ∧
    (∀ e, last.1 = .error e → ended.1 = .error e) ∧
    (∀ x, ended.1 = .ok x → ended.2.store.maps = last.2.store.maps) ∧
    (∀ e, ended.1 = .error e → ended.2.store.maps = w.store.maps ∧
      ended.2.store.ledger.sequence = w.store.ledger.sequence ∧
      ∀ id, id.index < w.store.ledger.register.cells.size →
        ended.2.store.properties id = w.store.properties id) ∧
    ended.2.store.depth = 0 ∧ ended.2.store.watch place = .idle := by
  intro layers last ended
  obtain ⟨placed', inside⟩ := begin_inside rule hooks placed
  have noted := run_noted rule hooks body placed' inside
  obtain ⟨passes, failed, kept, undone, quiet⟩ := transaction_judged rule hooks reachable.sound
    closed placed idle (body.run_within layers) noted
  refine ⟨passes, failed, fun x ok => ?_, fun e error => ?_, quiet⟩
  · obtain ⟨sequence, scene⟩ := kept x ok
    have contents : ended.2.store.properties = last.2.store.properties :=
      congrArg Scene.contents scene
    show ended.2.store.ledger.sequence.map ended.2.store.properties = _
    rw [sequence, contents]
    rfl
  · obtain ⟨sequence, held⟩ := undone e error
    exact ⟨Store.maps_of_held reachable.sound sequence held, sequence, held⟩

/-- A store without facts, with a watch for one layer of rules. -/
def bare : Store := { Store.create .standard .empty with watches := [.idle] }

theorem bare_reachable : bare.Reachable := .step (.create .standard .empty) (.watches _ _)

/-- A store with one fact, for looking at what a rule says of it. -/
def holding (p : Properties) : Store :=
  (Store.create .standard .empty).withLedger
    { Ledger.empty with register := Register.empty.add p [] }

/-- A program that makes a fact and writes an `a` to it, and then a `b` in a transaction of its own
that stops, which it swallows. -/
def writeAB : Program Unit :=
  .ask .insert fun
    | .ok h => .ask (.write h.id [] "a" (.int 1)) fun _ => .transaction
      (.ask (.write h.id [] "b" (.int 2)) fun _ => (.done (.error .stopped) : Program Unit))
      fun _ => .done (.ok ())
    | .error e => .done (.error e)

theorem touches_writeAB (id : FactId) (touched : writeAB.Touches [.rule together 0]
    (begin [.rule together 0] (⟨bare, ()⟩ : World Unit)) id) : id = ⟨0⟩ := by
  rcases touched with ⟨h, made, same⟩ | ⟨same, -⟩ | (⟨same, -⟩ | no) | no
  · cases made
    exact same.symm
  · exact same.symm
  · exact same.symm
  · cases no
  · cases no

theorem maps_writeAB : (writeAB.run [.rule together 0]
    (begin [.rule together 0] (⟨bare, ()⟩ : World Unit))).2.store.maps =
      [⟨[("a", [.int 1]), ("b", [.int 2])]⟩] := rfl

/-- With both the rule is satisfied when the program has ended. -/
theorem satisfies_writeAB : ((writeAB.run [.rule together 0]
    (begin [.rule together 0] (⟨bare, ()⟩ : World Unit))).2.store.satisfies together ⟨0⟩).1 =
      .ok true := by
  have alone : ((writeAB.run [.rule together 0]
      (begin [.rule together 0] (⟨bare, ()⟩ : World Unit))).2.store.satisfies together ⟨0⟩).1 =
        ((holding ⟨[("a", [.int 1]), ("b", [.int 2])]⟩).satisfies together ⟨0⟩).1 :=
    Store.satisfies_local rfl rfl together
  rw [alone]
  rfl

/-- With an `a` only it is not. -/
theorem satisfies_writeA : ((writeA.run [.rule together 0]
    (begin [.rule together 0] (⟨bare, ()⟩ : World Unit))).2.store.satisfies together ⟨0⟩).1 =
      .ok false := by
  have alone : ((writeA.run [.rule together 0]
      (begin [.rule together 0] (⟨bare, ()⟩ : World Unit))).2.store.satisfies together ⟨0⟩).1 =
        ((holding ⟨[("a", [.int 1])]⟩).satisfies together ⟨0⟩).1 :=
    Store.satisfies_local rfl rfl together
  rw [alone]
  rfl

/-- Where no fact may have an `a` without a `b`, a transaction passes that writes both, and one that
writes the `a` only leaves nothing. -/
theorem transaction_passes_writeAB :
    (transaction [.rule together 0] (writeAB.run [.rule together 0])
        (⟨bare, ()⟩ : World Unit)).1 = .ok () ∧
      (transaction [.rule together 0] (writeAB.run [.rule together 0])
        (⟨bare, ()⟩ : World Unit)).2.store.maps = [⟨[("a", [.int 1]), ("b", [.int 2])]⟩] ∧
      (transaction [.rule together 0] (writeA.run [.rule together 0])
        (⟨bare, ()⟩ : World Unit)).1 ≠ .ok () ∧
      (transaction [.rule together 0] (writeA.run [.rule together 0])
        (⟨bare, ()⟩ : World Unit)).2.store.maps = [] := by
  have placed : 0 < bare.watches.length := Nat.one_pos
  obtain ⟨passes, -, kept, -⟩ :=
    transaction_passes together [] (⟨bare, ()⟩ : World Unit) bare_reachable rfl placed rfl writeAB
  obtain ⟨passes', -, -, undone, -⟩ :=
    transaction_passes together [] (⟨bare, ()⟩ : World Unit) bare_reachable rfl placed rfl writeA
  rw [List.map_nil] at passes kept passes' undone
  have result := (passes ()).mpr ⟨rfl, fun id touched => by
    rw [touches_writeAB id touched]
    exact satisfies_writeAB⟩
  have refused : ∀ x, (transaction [.rule together 0] (writeA.run [.rule together 0])
      (⟨bare, ()⟩ : World Unit)).1 ≠ .ok x := by
    intro x passed
    have satisfied := ((passes' x).mp passed).2 ⟨0⟩ (.inl ⟨_, rfl, rfl⟩)
    have verdict := satisfied.symm.trans satisfies_writeA
    cases verdict
  refine ⟨result, (kept () result).trans maps_writeAB, refused (), ?_⟩
  cases outcome : (transaction [.rule together 0] (writeA.run [.rule together 0])
      (⟨bare, ()⟩ : World Unit)).1 with
  | ok x => exact absurd outcome (refused x)
  | error e => exact (undone e outcome).1

end Stack

end Annals
