import Annals.Proofs.Fact.Undo
import Annals.Store.Query

/-!
# What the operations of a store change, and what they leave

Evaluations, checks and queries only report (`OnlyReports`), and what they find depends on nothing
but the settings, the operators, the facts and their sequence (`Agrees`). `hear` and `notify` write
to the journal and to the watches, and to nothing else (`Heard`). `write_cases` then says all that
a write can do: nothing, or an addition that every listener has heard of, or an addition that was
undone after a listener had failed.
-/

set_option autoImplicit false

namespace Annals

namespace Store

variable {s s' s'' : Store}

def OnlyReports (s s' : Store) : Prop := ∃ events, s' = { s with events := events }

/-- Two stores with the same facts in the same sequence, and with the same settings and operators,
whatever their transactions, their watches and their reports. -/
structure Agrees (s s' : Store) : Prop where
  config : s.config = s'.config
  registry : s.registry = s'.registry
  register : s.ledger.register = s'.ledger.register
  sequence : s.ledger.sequence = s'.ledger.sequence

theorem OnlyReports.refl (s : Store) : OnlyReports s s := ⟨s.events, rfl⟩

/-- Reports after reports are reports. -/
theorem OnlyReports.trans (first : OnlyReports s s') (second : OnlyReports s' s'') :
    OnlyReports s s'' := by
  obtain ⟨events, rfl⟩ := first
  obtain ⟨events', rfl⟩ := second
  exact ⟨events', rfl⟩

theorem OnlyReports.registry (reports : OnlyReports s s') : s'.registry = s.registry := by
  obtain ⟨events, rfl⟩ := reports
  rfl

/-- Reports do not matter to what two stores hold. -/
theorem Agrees.reports {u u' : Store} (h : Agrees s s') (first : OnlyReports s u)
    (second : OnlyReports s' u') : Agrees u u' := by
  obtain ⟨events, rfl⟩ := first
  obtain ⟨events', rfl⟩ := second
  exact ⟨h.config, h.registry, h.register, h.sequence⟩

theorem Agrees.scene (h : Agrees s s') : s.scene = s'.scene := by
  simp only [Store.scene, h.registry, h.register]

/-! ### Checks -/

theorem goOn_apply {α : Type} (s : Store) (pass : Pass) (action : Memo α) :
    s.goOn pass action = ((action.run pass).1, { (action.run pass).2 with events := [] },
      { s with events := (action.run pass).2.events ++ s.events }) := rfl

theorem satisfies_onlyReports (s : Store) (rule : Rule) (id : FactId) :
    OnlyReports s (s.satisfies rule id).2 := ⟨_, rfl⟩

/-- Checking a fact only reports. -/
theorem validate_onlyReports (s : Store) (rule : Rule) (id : FactId) :
    OnlyReports s (s.validate rule id).2 := by
  have checked := s.satisfies_onlyReports rule id
  unfold validate
  split
  · next verdict => rw [verdict] at checked; exact checked
  · next verdict =>
    rw [verdict] at checked
    exact checked.trans ⟨_, rfl⟩
  · next verdict => rw [verdict] at checked; exact checked

/-- Checking several facts only reports. -/
theorem validateAll_onlyReports (s : Store) (rule : Rule) (ids : List FactId) :
    OnlyReports s (s.validateAll rule ids).2 := by
  induction ids generalizing s with
  | nil => exact .refl s
  | cons id rest ih =>
    have checked := s.validate_onlyReports rule id
    unfold validateAll
    split
    · next next valid =>
      rw [valid] at checked
      exact checked.trans (ih next)
    · next invalid => rw [invalid] at checked; exact checked

/-- A check succeeds only on a fact that satisfies the rule. -/
theorem validate_ok {rule : Rule} {id : FactId} (valid : (s.validate rule id).1 = .ok ()) :
    (s.satisfies rule id).1 = .ok true := by
  unfold validate at valid
  split at valid
  · next verdict => rw [verdict]
  · cases valid
  · cases valid

theorem satisfies_congr (scene : s.scene = s'.scene) (rule : Rule) (id : FactId) :
    (s.satisfies rule id).1 = (s'.satisfies rule id).1 := by
  simp only [satisfies, goOn_apply, scene]

/-- Checks of several facts succeed only if all of them satisfy the rule. -/
theorem validateAll_ok {rule : Rule} {ids : List FactId}
    (valid : (s.validateAll rule ids).1 = .ok ()) :
    ∀ id ∈ ids, (s.satisfies rule id).1 = .ok true := by
  induction ids generalizing s with
  | nil =>
    intro id mem
    cases mem
  | cons first rest ih =>
    have reports := s.validate_onlyReports rule first
    unfold validateAll at valid
    split at valid
    · next next checked =>
      rw [checked] at reports
      intro id mem
      rcases List.mem_cons.mp mem with rfl | mem
      · exact validate_ok (by rw [checked])
      · obtain ⟨events, rfl⟩ := reports
        exact ih valid id mem
    · cases valid

/-! ### Transactions -/

/-- A transaction that is opened while none is open begins with an empty journal. -/
theorem openTransaction_outermost (closed : s.ledger.depth = 0) :
    s.openTransaction = (true, (s.withLedger { s.ledger with
      depth := 1, baseLength := s.ledger.size, writes := [] }).report
        (.transactionStarted s.ledger.size)) := by
  unfold openTransaction Ledger.openTransaction
  rw [if_pos closed]
  rfl

/-- A transaction that is opened inside of another one is counted. -/
theorem openTransaction_nested (opened : s.ledger.depth ≠ 0) :
    s.openTransaction =
      (false, s.withLedger { s.ledger with depth := s.ledger.depth + 1 }) := by
  unfold openTransaction Ledger.openTransaction
  rw [if_neg opened]
  rfl

theorem depth_closeTransaction (s : Store) (outermost success : Bool) :
    (s.closeTransaction outermost success).depth = s.depth - 1 := by
  cases outermost with
  | false => rfl
  | true => cases success <;> rfl

theorem watches_openTransaction (s : Store) : s.openTransaction.2.watches = s.watches := by
  by_cases closed : s.ledger.depth = 0
  · rw [openTransaction_outermost closed]
    rfl
  · rw [openTransaction_nested closed]
    rfl

theorem watches_closeTransaction (s : Store) (outermost success : Bool) :
    (s.closeTransaction outermost success).watches = s.watches := by
  cases outermost with
  | false => rfl
  | true => cases success <;> rfl

theorem watch_of_watches (same : s'.watches = s.watches) (place : Nat) :
    s'.watch place = s.watch place := by
  unfold watch
  rw [same]

/-! ### Writes -/

/-- What listeners have done about an addition to a fact: it is in the journal so many times more,
watches that are open may have been told of the fact, and nothing else has changed. -/
structure Heard (id : FactId) (change : Change) (times : Nat) (s s' : Store) : Prop where
  config : s'.config = s.config
  registry : s'.registry = s.registry
  /-- The journal is longer, and the rest of the ledger is the same. -/
  ledger : s'.ledger =
    { s.ledger with writes := List.replicate times (id, change) ++ s.ledger.writes }
  watches : s'.watches.length = s.watches.length
  depth : ∀ place, (s'.watch place).depth = (s.watch place).depth
  idle : ∀ place, (s.watch place).depth = 0 → s'.watch place = s.watch place
  touched : ∀ place, (s.watch place).touched ⊆ (s'.watch place).touched
  only : ∀ place, ∀ x ∈ (s'.watch place).touched, x ∈ (s.watch place).touched ∨ x = id

variable {id : FactId} {change : Change}

theorem Heard.refl (s : Store) : Heard id change 0 s s :=
  ⟨rfl, rfl, rfl, rfl, fun _ => rfl, fun _ _ => rfl, fun _ _ mem => mem, fun _ _ mem => .inl mem⟩

/-- Listeners heard after listeners. -/
theorem Heard.trans {m n : Nat} (first : Heard id change m s s')
    (second : Heard id change n s' s'') : Heard id change (n + m) s s'' where
  config := second.config.trans first.config
  registry := second.registry.trans first.registry
  ledger := by
    rw [second.ledger, first.ledger, ← List.replicate_append_replicate, List.append_assoc]
  watches := second.watches.trans first.watches
  depth place := (second.depth place).trans (first.depth place)
  idle place closed :=
    (second.idle place ((first.depth place).trans closed)).trans (first.idle place closed)
  touched place _ mem := second.touched place (first.touched place mem)
  only place x mem := by
    rcases second.only place x mem with earlier | same
    · exact first.only place x earlier
    · exact .inr same

theorem OnlyReports.heard (h : OnlyReports s s') : Heard id change 0 s s' := by
  obtain ⟨events, rfl⟩ := h
  exact ⟨rfl, rfl, rfl, rfl, fun _ => rfl, fun _ _ => rfl, fun _ _ mem => mem,
    fun _ _ mem => .inl mem⟩

/-- Changing a watch leaves the others as they are. -/
theorem watch_onWatch (s : Store) (place place' : Nat) (f : Watch → Watch) :
    (s.onWatch place f).watch place' =
      if place' = place ∧ place < s.watches.length then f (s.watch place) else s.watch place' := by
  simp only [watch, onWatch, List.getD_eq_getElem?_getD, List.getElem?_modify]
  by_cases same : place = place'
  · subst same
    by_cases bound : place < s.watches.length
    · simp [bound]
    · simp [bound]
  · simp [same, Ne.symm same]

/-- Telling a watch of a fact is hearing of it. -/
theorem onWatch_touch_heard (s : Store) (place : Nat) :
    Heard id change 0 s (s.onWatch place (·.touch id)) := by
  have touch : ∀ w : Watch, (w.touch id).depth = w.depth ∧ (w.depth = 0 → w.touch id = w) ∧
      w.touched ⊆ (w.touch id).touched ∧ ∀ x ∈ (w.touch id).touched, x ∈ w.touched ∨ x = id := by
    intro w
    unfold Watch.touch
    split
    · exact ⟨rfl, fun _ => rfl, fun _ mem => mem, fun _ mem => .inl mem⟩
    · next waiting =>
      refine ⟨rfl, fun closed => absurd (.inl closed) waiting,
        fun _ mem => List.mem_append_left _ mem, fun x mem => ?_⟩
      rcases List.mem_append.mp mem with older | new
      · exact .inl older
      · exact .inr (List.mem_singleton.mp new)
  refine ⟨rfl, rfl, rfl, by simp [onWatch], fun place' => ?_, fun place' closed => ?_,
    fun place' => ?_, fun place' x mem => ?_⟩
  · rw [watch_onWatch]
    split
    · next here => rw [here.1]; exact (touch _).1
    · rfl
  · rw [watch_onWatch]
    split
    · next here =>
      rw [here.1] at closed ⊢
      exact (touch _).2.1 closed
    · rfl
  · rw [watch_onWatch]
    split
    · next here => rw [here.1]; exact (touch _).2.2.1
    · exact fun _ mem => mem
  · rw [watch_onWatch] at mem
    split at mem
    · next here =>
      rw [here.1]
      exact (touch _).2.2.2 x mem
    · exact .inl mem

/-- What one listener does about an addition. -/
theorem hear_heard (s : Store) (id : FactId) (change : Change) (listener : Listener) :
    ∃ times, Heard id change times s (s.hear id change listener).2 := by
  cases listener with
  | journal =>
    unfold hear Ledger.record
    by_cases closed : s.ledger.depth = 0
    · simp only [if_pos closed]
      exact ⟨0, .refl s⟩
    · simp only [if_neg closed]
      exact ⟨1, rfl, rfl, rfl, rfl, fun _ => rfl, fun _ _ => rfl, fun _ _ mem => mem,
        fun _ _ mem => .inl mem⟩
  | rule rule place =>
    simp only [hear]
    split
    · exact ⟨0, (s.validate_onlyReports rule id).heard⟩
    · exact ⟨0, s.onWatch_touch_heard place⟩
  | refusal objection =>
    simp only [hear]
    split
    · exact ⟨0, .refl s⟩
    · exact ⟨0, .refl s⟩

/-- What several listeners do about an addition. -/
theorem notify_heard (s : Store) (id : FactId) (change : Change) (listeners : List Listener) :
    ∃ times, Heard id change times s (s.notify id change listeners).2 := by
  induction listeners generalizing s with
  | nil => exact ⟨0, .refl s⟩
  | cons listener rest ih =>
    obtain ⟨m, first⟩ := s.hear_heard id change listener
    unfold notify
    split
    · next next heard =>
      rw [heard] at first
      obtain ⟨n, later⟩ := ih next
      exact ⟨n + m, first.trans later⟩
    · next heard => rw [heard] at first; exact ⟨m, first⟩

/-- The store after an addition to a fact that nobody has heard of yet. -/
def written (s : Store) (id : FactId) (p : Properties) : Store :=
  s.withLedger { s.ledger with register := s.ledger.register.replace id p }

/-- A write whose check fails is refused. -/
theorem write_refused {h : Handle} {name : String} {value : Value} {fault : PropertyFault}
    (checked : Properties.check (s.ledger.register.cell h.id).reserved name value = .error fault) :
    s.write h name value = (.error (.property fault), s) := by
  simp only [write, checked]

/-- All that a write can do. Either the store stays as it is, or a value is added to a history,
and the listeners hear of it; then the addition stands if all of them are content, and it is undone
if one of them fails. -/
theorem write_cases (s : Store) (h : Handle) (name : String) (value : Value) :
    (s.write h name value).2 = s ∨
      ∃ p change, (s.properties h.id).append name value = (p, some change) ∧
        ((((s.written h.id p).notify h.id change h.listeners).1 = .ok () ∧
          s.write h name value = (s.written h.id p).notify h.id change h.listeners) ∨
        ∃ e, ((s.written h.id p).notify h.id change h.listeners).1 = .error e ∧
          (s.write h name value).1 = .error e ∧
          (s.write h name value).2 =
            ((s.written h.id p).notify h.id change h.listeners).2.withLedger
              (((s.written h.id p).notify h.id change h.listeners).2.ledger.revert
                h.id change)) := by
  unfold write
  dsimp only
  split
  · exact .inl rfl
  · split
    · exact .inl rfl
    · next p change added =>
      right
      refine ⟨p, change, added, ?_⟩
      show _ ∨ _
      split
      · next s' heard =>
        left
        have heard : (s.written h.id p).notify h.id change h.listeners = (.ok (), s') := heard
        exact ⟨by rw [heard], heard.symm⟩
      · next e s' heard =>
        right
        have heard : (s.written h.id p).notify h.id change h.listeners = (.error e, s') := heard
        exact ⟨e, by rw [heard], rfl, by rw [heard]⟩

/-- What every write through a handle keeps, several writes through it keep. -/
theorem writeAll_keeps (Invariant : Store → Prop) {h : Handle}
    (writes : ∀ s name value, Invariant s → Invariant (s.write h name value).2)
    (name : String) (values : List Value) (s : Store) (kept : Invariant s) :
    Invariant (s.writeAll h name values).2 := by
  have each : ∀ values s, Invariant s → Invariant (s.writeEach h name values).2 := by
    intro values
    induction values with
    | nil => exact fun s kept => kept
    | cons value rest ih =>
      intro s kept
      have first := writes s name value kept
      unfold writeEach
      split
      · next next ended => rw [ended] at first; exact ih next first
      · next ended => rw [ended] at first; exact first
  unfold writeAll
  split
  · exact kept
  · exact each values s kept

/-! ### Queries -/

/-- Reading a query only reports. -/
theorem readTerm_onlyReports (s : Store) (text : String) :
    OnlyReports s (s.readTerm text).2 := by
  unfold readTerm
  split
  · exact ⟨_, rfl⟩
  · exact .refl s

/-- Compiling a query only reports. -/
theorem compile_onlyReports (s : Store) (text : String) : OnlyReports s (s.compile text).2 := by
  have read := s.readTerm_onlyReports text
  unfold compile
  split
  · next result =>
    rw [result] at read
    exact read.trans ⟨_, rfl⟩
  · next result => rw [result] at read; exact read

/-- A query is compiled alike in stores with the same settings. -/
theorem compile_congr (config : s.config = s'.config) (text : String) :
    (s.compile text).1 = (s'.compile text).1 := by
  unfold compile readTerm
  rw [config]
  cases Term.ofQuery s'.config.maxDepth text with
  | error e => rfl
  | ok parsed => rfl

end Store

namespace Scan

variable {s s' : Store}

theorem examine_onlyReports (scan : Scan) (id : FactId) (s : Store) :
    s.OnlyReports (scan.examine id s).2.2 := ⟨_, rfl⟩

theorem examine_congr (h : s.Agrees s') (scan : Scan) (id : FactId) :
    (scan.examine id s).1 = (scan.examine id s').1 ∧
      (scan.examine id s).2.1 = (scan.examine id s').2.1 := by
  simp only [examine, Store.goOn_apply, h.scene, h.config, and_self]

/-- Going on with a scan only reports. -/
theorem advance_onlyReports (ids : List FactId) (scan : Scan) (s : Store) :
    s.OnlyReports (advance ids scan s).2.2 := by
  induction ids generalizing scan s with
  | nil => exact ⟨_, rfl⟩
  | cons id rest ih =>
    have examined := scan.examine_onlyReports id s
    unfold advance
    split
    · next verdict => rw [verdict] at examined; exact examined
    · next next s' verdict =>
      rw [verdict] at examined
      exact examined.trans (ih next s')
    · next verdict => rw [verdict] at examined; exact examined

/-- A scan goes on alike in stores that hold the same. -/
theorem advance_congr (h : s.Agrees s') (ids : List FactId) (scan : Scan) :
    (advance ids scan s).1 = (advance ids scan s').1 ∧
      (advance ids scan s).2.1 = (advance ids scan s').2.1 := by
  induction ids generalizing scan s s' with
  | nil => exact ⟨rfl, rfl⟩
  | cons id rest ih =>
    obtain ⟨verdict, next⟩ := examine_congr h scan id
    have after := h.reports (scan.examine_onlyReports id s) (scan.examine_onlyReports id s')
    simp only [advance]
    cases examined : scan.examine id s with
    | mk found progress =>
      obtain ⟨scan', t⟩ := progress
      cases examined' : scan.examine id s' with
      | mk found' progress' =>
        obtain ⟨scan'', t'⟩ := progress'
        rw [examined, examined'] at verdict next after
        obtain rfl : found = found' := verdict
        obtain rfl : scan' = scan'' := next
        cases found with
        | error e => exact ⟨rfl, rfl⟩
        | ok b =>
          cases b with
          | true => exact ⟨rfl, rfl⟩
          | false => exact ih after scan'

/-- A scan stays with its query. -/
theorem query_advance (ids : List FactId) (scan : Scan) (s : Store) :
    (advance ids scan s).2.1.query = scan.query := by
  induction ids generalizing scan s with
  | nil => rfl
  | cons id rest ih =>
    have query : (scan.examine id s).2.1.query = scan.query := rfl
    rcases examined : scan.examine id s with ⟨found, next, s'⟩
    rw [examined] at query
    simp only [advance, examined]
    cases found with
    | error e => exact query
    | ok b =>
      cases b with
      | true => exact query
      | false => exact (ih next s').trans query

/-- Taking the next item of a scan only reports. -/
theorem next_onlyReports (scan : Scan) (s : Store) : s.OnlyReports (scan.next s).2.2 := by
  unfold next
  split
  · exact .refl s
  · exact advance_onlyReports _ scan s

theorem query_next (scan : Scan) (s : Store) : (scan.next s).2.1.query = scan.query := by
  unfold next
  split
  · rfl
  · exact query_advance _ scan s

/-- The next item of a scan is the same in stores that hold the same. -/
theorem next_congr (h : s.Agrees s') (scan : Scan) :
    (scan.next s).1 = (scan.next s').1 ∧ (scan.next s).2.1 = (scan.next s').2.1 := by
  unfold next
  rw [h.sequence]
  split
  · exact ⟨rfl, rfl⟩
  · exact advance_congr h _ scan

/-- Taking items of a scan only reports. -/
theorem items_onlyReports (count : Nat) (scan : Scan) (s : Store) :
    s.OnlyReports (scan.items count s).2.2 := by
  induction count generalizing scan s with
  | zero => exact .refl s
  | succ count ih =>
    have first := scan.next_onlyReports s
    unfold items
    split
    · next taken => rw [taken] at first; exact first
    · next scan' s' taken =>
      rw [taken] at first
      exact first.trans (ih scan' s')

/-- The items of a scan are the same in stores that hold the same. -/
theorem items_congr (h : s.Agrees s') (count : Nat) (scan : Scan) :
    (scan.items count s).1 = (scan.items count s').1 := by
  induction count generalizing scan s s' with
  | zero => rfl
  | succ count ih =>
    obtain ⟨item, next⟩ := next_congr h scan
    have after := h.reports (scan.next_onlyReports s) (scan.next_onlyReports s')
    simp only [items]
    cases taken : scan.next s with
    | mk found progress =>
      obtain ⟨scan', t⟩ := progress
      cases taken' : scan.next s' with
      | mk found' progress' =>
        obtain ⟨scan'', t'⟩ := progress'
        rw [taken, taken'] at item next after
        obtain rfl : found = found' := item
        obtain rfl : scan' = scan'' := next
        cases found with
        | none => rfl
        | some item => exact congrArg (item :: ·) (ih after scan')

end Scan

namespace Query

variable {s s' : Store}

theorem collect_onlyReports (q : Query) (params : Option Params) (s : Store) :
    s.OnlyReports (q.collect params s).2 :=
  Scan.items_onlyReports (Scan.enough s) (Scan.start q params s) s

/-- A query finds the same facts in stores that hold the same. -/
theorem collect_congr (h : s.Agrees s') (q : Query) (params : Option Params) :
    (q.collect params s).1 = (q.collect params s').1 := by
  have start : Scan.start q params s = Scan.start q params s' := by
    simp only [Scan.start, h.sequence]
  have enough : Scan.enough s = Scan.enough s' := by
    simp only [Scan.enough, Store.size, Ledger.size, h.sequence]
  simp only [collect, start, enough, Scan.items_congr h]

/-- Evaluating a static term only reports. -/
theorem one_onlyReports (q : Query) (params : Params) (s : Store) :
    s.OnlyReports (q.one params s).2 := by
  unfold one
  split
  · exact .refl s
  · dsimp only
    split
    · exact ⟨_, rfl⟩
    · exact ⟨_, rfl⟩

/-- A static term has the same result in stores that hold the same. -/
theorem one_congr (h : s.Agrees s') (q : Query) (params : Params) :
    (q.one params s).1 = (q.one params s').1 := by
  unfold one
  split
  · rfl
  · simp only [Store.goOn_apply, h.scene, h.config, h.sequence]
    split
    · rfl
    · rfl

end Query

end Annals
