import Annals.Proofs.Eval.Locality
import Annals.Proofs.Store.Atomicity
import Annals.Proofs.Store.Watches

/-!
# Rules hold between transactions

Over layers of rules, every fact of the store that holds anything satisfies every rule, whenever no
transaction is open. Inside of a transaction this may fail for a while; `Store.Watched` is what
remains: a fact that may violate a rule is remembered by the watch of that rule, and all watches are
as deep as the store. Outside of transactions the same condition says that rules hold, because then
the watches remember nothing.

`Store.Upheld` is the invariant for both: between transactions, and inside of one that was opened
between transactions. It is kept by every write through a handle of the stack, whether it is
accepted or undone (`Upheld.write`), and by every transaction whose body keeps it, whether it ends
well or is rolled back (`Stack.transaction_upholds`). Hooks on top of the rules keep it because they
write through such handles. `Stack.rules_hold` is what comes of it for whole programs.
-/

set_option autoImplicit false

namespace Annals

namespace Store

variable {rules : List (Rule × Nat)} {depth : Nat} {s s' : Store}

/-- All watches of some rules are open so many times, and every fact of the sequence is empty, or it
is remembered by the watch of a rule, or it satisfies the rule. -/
structure Watched (rules : List (Rule × Nat)) (depth : Nat) (s : Store) : Prop where
  placed : ∀ rule place, (rule, place) ∈ rules → place < s.watches.length
  deep : ∀ rule place, (rule, place) ∈ rules → (s.watch place).depth = depth
  /-- A fact that a watch does not remember satisfies the rule, unless it is empty. -/
  valid : ∀ rule place, (rule, place) ∈ rules → ∀ id ∈ s.ledger.sequence,
    s.properties id = .empty ∨ id ∈ (s.watch place).touched ∨
      (s.satisfies rule id).1 = .ok true

/-- No transaction is open, the watches are idle, and the rules hold. -/
structure Settled (rules : List (Rule × Nat)) (s : Store) : Prop where
  sound : s.Sound
  closed : s.ledger.depth = 0
  idle : ∀ rule place, (rule, place) ∈ rules → s.watch place = .idle
  watched : s.Watched rules 0

/-- Rules are upheld between transactions, or inside of so many transactions, the outermost of which
was opened on a store in which they were upheld. -/
def Upheld (rules : List (Rule × Nat)) : Option (Store × Nat) → Store → Prop
  | none, s => s.Settled rules
  | some (base, depth), s => base.Settled rules ∧ base.Within depth s ∧ s.Watched rules depth

/-! ### Single operations -/

section

variable {id : FactId} {change : Change} {times : Nat}

theorem Heard.scene (h : Heard id change times s s') : s'.scene = s.scene := by
  simp only [Store.scene, h.registry, h.ledger]

/-- If no listener fails, then every rule that listens is satisfied, or its watch is open and
remembers the fact. -/
theorem notify_ok {listeners : List Listener} (content : (s.notify id change listeners).1 = .ok ())
    {rule : Rule} {place : Nat} (hears : .rule rule place ∈ listeners) :
    ((s.watch place).depth = 0 → (s.satisfies rule id).1 = .ok true) ∧
      ((s.watch place).depth ≠ 0 →
        id ∈ ((s.notify id change listeners).2.watch place).touched) := by
  induction listeners generalizing s with
  | nil => cases hears
  | cons listener rest ih =>
    obtain ⟨times, first⟩ := s.hear_heard id change listener
    unfold notify at content ⊢
    cases told : s.hear id change listener with
    | mk outcome s' =>
      rw [told] at content first
      cases outcome with
      | error e => cases content
      | ok _ =>
        obtain ⟨_, later⟩ := s'.notify_heard id change rest
        rcases List.mem_cons.mp hears with same | hears
        · subst same
          simp only [hear] at told
          split at told
          · next idle =>
            refine ⟨fun _ => validate_ok (by rw [told]), fun open' => absurd idle open'⟩
          · next open' =>
            refine ⟨fun idle => absurd idle open', fun _ => later.touched place ?_⟩
            have touched : s' = s.onWatch place (·.touch id) := (congrArg Prod.snd told).symm
            have placed : place < s.watches.length := by
              by_contra absent
              exact open' (by simp [watch, List.getD_eq_getElem?_getD, absent, Watch.idle])
            rw [touched, watch_onWatch, if_pos ⟨rfl, placed⟩]
            unfold Watch.touch
            split
            · next known =>
              rcases known with idle | known
              · exact absurd idle open'
              · exact known
            · exact List.mem_append_right _ List.mem_cons_self
        · obtain ⟨satisfied, touched⟩ := ih content hears
          rw [first.depth place] at satisfied touched
          rw [satisfies_congr first.scene] at satisfied
          exact ⟨satisfied, touched⟩

namespace Watched

/-- Facts that hold the same are as valid as before, if the watches forget nothing. -/
theorem of_same (h : s.Watched rules depth) (s' : Store) (registry : s'.registry = s.registry)
    (properties : ∀ id ∈ s.ledger.sequence, s'.properties id = s.properties id)
    (sequence : s'.ledger.sequence = s.ledger.sequence)
    (placed : ∀ rule place, (rule, place) ∈ rules → place < s'.watches.length) {depth' : Nat}
    (deep : ∀ rule place, (rule, place) ∈ rules → (s'.watch place).depth = depth')
    (touched : ∀ rule place, (rule, place) ∈ rules →
      (s.watch place).touched ⊆ (s'.watch place).touched) : s'.Watched rules depth' := by
  refine ⟨placed, deep, fun rule place mem id stored => ?_⟩
  rw [sequence] at stored
  have same := properties id stored
  rcases h.valid rule place mem id stored with empty | remembered | satisfied
  · exact .inl (same.trans empty)
  · exact .inr (.inl (touched rule place mem remembered))
  · exact .inr (.inr ((satisfies_local registry same rule).trans satisfied))

/-- Listeners that do not write keep facts as valid as they are. -/
theorem heard (h : s.Watched rules depth) (heard : Heard id change times s s') :
    s'.Watched rules depth := by
  refine h.of_same s' heard.registry (fun id _ => congrFun heard.properties id) ?_
    (fun rule place mem => ?_) (fun rule place mem => ?_) fun _ place _ => heard.touched place
  · rw [heard.ledger]
  · rw [heard.watches]
    exact h.placed rule place mem
  · rw [heard.depth]
    exact h.deep rule place mem

/-- A new fact is empty, and it changes no other. -/
theorem insert (h : s.Watched rules depth) : s.insert.2.Watched rules depth := by
  have contents : ∀ id, s.insert.2.properties id =
      if id = s.ledger.register.nextId then .empty else s.properties id := by
    intro id
    show ((s.ledger.register.add _ _).cell id).properties = _
    rw [Register.cell_add]
    split
    · rfl
    · rfl
  refine ⟨h.placed, h.deep, fun rule place mem id stored => ?_⟩
  have now := contents id
  split at now
  · exact .inl now
  · next old =>
    have stored : id ∈ s.ledger.sequence := by
      rcases List.mem_append.mp stored with older | new
      · exact older
      · exact absurd (List.mem_singleton.mp new) old
    rcases h.valid rule place mem id stored with empty | remembered | satisfied
    · exact .inl (now.trans empty)
    · exact .inr (.inl remembered)
    · have registry : s.insert.2.registry = s.registry := rfl
      exact .inr (.inr ((satisfies_local registry now rule).trans satisfied))

section

variable {p : Properties}

/-- If all rules hear of an addition and none of them fails, then the fact is valid or remembered.
-/
theorem stands (h : s.Watched rules depth) (heard : Heard id change times (s.written id p) s')
    (told : ∀ rule place, (rule, place) ∈ rules →
      (((s.written id p).watch place).depth = 0 → ((s.written id p).satisfies rule id).1 = .ok true)
        ∧ (((s.written id p).watch place).depth ≠ 0 → id ∈ (s'.watch place).touched)) :
    s'.Watched rules depth := by
  have sequence : s'.ledger.sequence = s.ledger.sequence := by
    rw [heard.ledger]
    rfl
  have registry : s'.registry = s.registry := heard.registry
  refine ⟨fun rule place mem => ?_, fun rule place mem => ?_, fun rule place mem old stored => ?_⟩
  · rw [heard.watches]
    exact h.placed rule place mem
  · rw [heard.depth]
    exact h.deep rule place mem
  · rw [sequence] at stored
    by_cases here : old = id
    · subst here
      obtain ⟨satisfied, touched⟩ := told rule place mem
      by_cases idle : ((s.written old p).watch place).depth = 0
      · right; right
        rw [satisfies_congr heard.scene]
        exact satisfied idle
      · exact .inr (.inl (touched idle))
    · have untouched : s'.properties old = s.properties old := by
        rw [heard.properties]
        show ((s.ledger.register.replace id p).cell old).properties = _
        rw [Register.cell_replace, if_neg (fun same => here same.1)]
        rfl
      rcases h.valid rule place mem old stored with empty | remembered | satisfied
      · exact .inl (untouched.trans empty)
      · exact .inr (.inl (heard.touched place remembered))
      · exact .inr (.inr ((satisfies_local registry untouched rule).trans satisfied))

/-- After an addition is undone, facts hold what they held. -/
theorem undone (h : s.Watched rules depth) (sound : s.Sound) {name : String} {value : Value}
    (added : (s.properties id).append name value = (p, some change))
    (heard : Heard id change times (s.written id p) s') :
    (s'.withLedger (s'.ledger.revert id change)).Watched rules depth := by
  have register : (s'.ledger.revert id change).register = s.ledger.register := by
    rw [heard.ledger]
    exact Register.revert_replace (sound.solid id) added
  refine h.of_same (s'.withLedger (s'.ledger.revert id change)) heard.registry
    (fun id _ => ?_) ?_ (fun rule place mem => ?_) (fun rule place mem => ?_)
    fun _ place _ => heard.touched place
  · show ((s'.ledger.revert _ change).register.cell id).properties = _
    rw [register]
    rfl
  · show s'.ledger.sequence = _
    rw [heard.ledger]
    rfl
  · show place < s'.watches.length
    rw [heard.watches]
    exact h.placed rule place mem
  · show (s'.watch place).depth = depth
    rw [heard.depth]
    exact h.deep rule place mem

end

/-- A write that all rules hear of leaves a fact that is valid or remembered, or it is undone. -/
theorem write (h : s.Watched rules depth) (sound : s.Sound) {handle : Handle}
    (hears : ∀ rule place, (rule, place) ∈ rules → .rule rule place ∈ handle.listeners)
    (name : String) (value : Value) : (s.write handle name value).2.Watched rules depth := by
  rcases s.write_cases handle name value with same | ⟨p, change, added, ended⟩
  · rw [same]
    exact h
  · obtain ⟨times, heard⟩ :=
      (s.written handle.id p).notify_heard handle.id change handle.listeners
    rcases ended with ⟨content, same⟩ | ⟨e, -, -, same⟩
    · rw [same]
      exact h.stands heard fun rule place mem => notify_ok content (hears rule place mem)
    · rw [same]
      exact h.undone sound added heard

end Watched

namespace Settled

/-- Listeners that do not write keep the store settled. -/
theorem heard (h : s.Settled rules) (heard : Heard id change times s s') : s'.Settled rules := by
  refine ⟨h.sound.heard heard, ?_, fun rule place mem => ?_, h.watched.heard heard⟩
  · rw [heard.ledger]
    exact h.closed
  · rw [heard.idle place (h.watched.deep rule place mem)]
    exact h.idle rule place mem

/-- A write that all rules hear of keeps the store settled. -/
theorem write (h : s.Settled rules) {handle : Handle}
    (hears : ∀ rule place, (rule, place) ∈ rules → .rule rule place ∈ handle.listeners)
    (name : String) (value : Value) : (s.write handle name value).2.Settled rules := by
  have watched := h.watched.write h.sound hears name value
  have sound := h.sound.write handle name value
  rcases s.write_cases handle name value with same | ⟨p, change, added, ended⟩
  · rw [same]
    exact h
  · obtain ⟨times, heard⟩ :=
      (s.written handle.id p).notify_heard handle.id change handle.listeners
    have frame : (s.write handle name value).2.ledger.depth = s.ledger.depth ∧
        ∀ rule place, (rule, place) ∈ rules →
          (s.write handle name value).2.watch place = s.watch place := by
      have idle : ∀ rule place, (rule, place) ∈ rules → _ :=
        fun rule place mem => heard.idle place (h.watched.deep rule place mem)
      have depth : ((s.written handle.id p).notify handle.id change
          handle.listeners).2.ledger.depth = s.ledger.depth := by
        rw [heard.ledger]
        rfl
      rcases ended with ⟨-, same⟩ | ⟨e, -, -, same⟩
      · rw [same]
        exact ⟨depth, idle⟩
      · rw [same]
        exact ⟨depth, idle⟩
    refine ⟨sound, frame.1.trans h.closed, fun rule place mem => ?_, watched⟩
    rw [frame.2 rule place mem]
    exact h.idle rule place mem

/-- The outermost transaction may be committed once all that the watches remembered of its body has
been checked. -/
theorem commit {base : Store} (within : base.Within 1 s') (watched : s.Watched rules 1)
    (same : s.OnlyWatches s') (idle : ∀ rule place, (rule, place) ∈ rules → s'.watch place = .idle)
    (checked : ∀ rule place, (rule, place) ∈ rules → ∀ id ∈ (s.watch place).touched,
      (s.satisfies rule id).1 = .ok true) : (s'.closeTransaction true true).Settled rules := by
  refine ⟨within.sound.step (.closeTransaction s' true true), congrArg (· - 1) within.opened, idle,
    fun rule place mem => ?_, fun rule place mem => ?_, fun rule place mem id stored => ?_⟩
  · show place < s'.watches.length
    rw [same.watches]
    exact watched.placed rule place mem
  · show (s'.watch place).depth = 0
    rw [idle rule place mem]
    rfl
  · have stored : id ∈ s.ledger.sequence := by
      rw [← same.ledger]
      exact stored
    have properties : s'.properties id = s.properties id := by
      unfold Store.properties
      rw [same.ledger]
    have verdict : ((s'.closeTransaction true true).satisfies rule id).1 =
        (s.satisfies rule id).1 := satisfies_local same.registry properties rule
    rcases watched.valid rule place mem id stored with empty | remembered | valid
    · exact .inl (properties.trans empty)
    · exact .inr (.inr (verdict.trans (checked rule place mem id remembered)))
    · exact .inr (.inr (verdict.trans valid))

/-- Rolling back the outermost transaction on a settled store leaves it settled, if the watches are
idle again. -/
theorem rollBack (h : s.Settled rules) (within : s.Within 1 s')
    (placed : ∀ rule place, (rule, place) ∈ rules → place < s'.watches.length)
    (idle : ∀ rule place, (rule, place) ∈ rules → s'.watch place = .idle) :
    (s'.closeTransaction true false).Settled rules := by
  obtain ⟨depth, sequence, cells, -, -⟩ := within.rollBack
  refine ⟨within.sound.step (.closeTransaction s' true false), depth, idle, ?_⟩
  refine h.watched.of_same (s'.closeTransaction true false) within.registry
    (fun id stored => ?_) sequence placed (fun rule place mem => ?_) fun rule place mem => ?_
  · exact congrArg Cell.properties (cells id (h.sound.made id stored))
  · show (s'.watch place).depth = 0
    rw [idle rule place mem]
    rfl
  · rw [h.idle rule place mem]
    exact fun _ remembered => by cases remembered

end Settled

namespace Upheld

variable {i : Option (Store × Nat)}

/-- Listeners that do not write keep rules upheld. -/
theorem heard (h : s.Upheld rules i) (heard : Heard id change 0 s s') : s'.Upheld rules i := by
  cases i with
  | none => exact Settled.heard h heard
  | some opened =>
    obtain ⟨settled, within, watched⟩ := h
    exact ⟨settled, within.of_ledger heard.config heard.registry heard.ledger, watched.heard heard⟩

theorem reports (h : s.Upheld rules i) (reports : s.OnlyReports s') : s'.Upheld rules i := by
  have told : Heard (default : FactId) (default : Change) 0 s s' := reports.heard
  exact h.heard told

/-- A new fact keeps rules upheld. -/
theorem insert (h : s.Upheld rules i) : s.insert.2.Upheld rules i := by
  cases i with
  | none =>
    have settled : s.Settled rules := h
    exact ⟨settled.sound.step (.insert s), settled.closed, settled.idle,
      settled.watched.insert⟩
  | some opened =>
    obtain ⟨settled, within, watched⟩ := h
    exact ⟨settled, within.insert, watched.insert⟩

/-- A write that the journal and all rules hear of keeps rules upheld. -/
theorem write (h : s.Upheld rules i) {handle : Handle} {listeners : List Listener}
    (journaled : handle.listeners = .journal :: listeners)
    (hears : ∀ rule place, (rule, place) ∈ rules → .rule rule place ∈ listeners)
    (name : String) (value : Value) : (s.write handle name value).2.Upheld rules i := by
  have hears : ∀ rule place, (rule, place) ∈ rules → .rule rule place ∈ handle.listeners := by
    intro rule place mem
    rw [journaled]
    exact List.mem_cons_of_mem _ (hears rule place mem)
  cases i with
  | none => exact Settled.write h hears name value
  | some opened =>
    obtain ⟨settled, within, watched⟩ := h
    exact ⟨settled, within.write journaled name value,
      watched.write within.sound hears name value⟩

end Upheld

end

end Store

/-! ### Transactions -/

namespace Stack

open Store

variable {σ α : Type} {layers : Stack} {rules : List (Rule × Nat)}

/-- An action that keeps rules upheld, wherever it is run. -/
def Upholds (rules : List (Rule × Nat)) (action : Action σ α) : Prop :=
  ∀ i w, w.store.Upheld rules i → (action w).2.store.Upheld rules i

/-- Opening a transaction and entering all watches makes every watch one deeper, and changes no
fact. -/
theorem watched_enterAll (distinct : (layers.rules.map Prod.snd).Nodup) {depth : Nat} {s : Store}
    (h : s.Watched layers.rules depth) :
    (layers.enterAll s.openTransaction.2).Watched layers.rules (depth + 1) := by
  have opened : s.openTransaction.2.watches = s.watches ∧
      s.openTransaction.2.registry = s.registry ∧
      s.openTransaction.2.ledger.sequence = s.ledger.sequence ∧
      s.openTransaction.2.ledger.register = s.ledger.register := by
    by_cases closed : s.ledger.depth = 0
    · rw [openTransaction_outermost closed]
      exact ⟨rfl, rfl, rfl, rfl⟩
    · rw [openTransaction_nested closed]
      exact ⟨rfl, rfl, rfl, rfl⟩
  obtain ⟨watches, registry, sequence, register⟩ := opened
  have watch : ∀ rule place, (rule, place) ∈ layers.rules →
      (layers.enterAll s.openTransaction.2).watch place = (s.watch place).enter := by
    intro rule place mem
    have placed : place < s.openTransaction.2.watches.length := by
      rw [watches]
      exact h.placed rule place mem
    rw [watch_enterAll distinct mem placed]
    simp only [Store.watch, watches]
  obtain ⟨entered, frame, length⟩ := enterAll_frame layers s.openTransaction.2
  refine h.of_same _ ?_ (fun id _ => ?_) ?_ (fun rule place mem => ?_) (fun rule place mem => ?_)
    fun rule place mem => ?_
  · rw [frame]
    exact registry
  · rw [frame]
    show (s.openTransaction.2.ledger.register.cell id).properties = _
    rw [register]
    rfl
  · rw [frame]
    exact sequence
  · rw [frame]
    show place < entered.length
    rw [length, watches]
    exact h.placed rule place mem
  · rw [watch rule place mem]
    exact congrArg (· + 1) (h.deep rule place mem)
  · rw [watch rule place mem]
    exact fun _ remembered => remembered

/-- A transaction inside of another one keeps rules upheld if its body does: what its body leaves
unchecked is remembered until the outermost one is closed. -/
theorem transaction_nested (distinct : (layers.rules.map Prod.snd).Nodup) {body : Action σ α}
    (upholds : Upholds layers.rules body) {base : Store} {depth : Nat} {w : World σ}
    (h : w.store.Upheld layers.rules (some (base, depth))) :
    (layers.transaction body w).2.store.Upheld layers.rules (some (base, depth)) := by
  obtain ⟨settled, within, watched⟩ := h
  obtain ⟨nested, deeper⟩ := within.deeper
  have inside : (layers.enterAll w.store.openTransaction.2).Upheld layers.rules
      (some (base, depth + 1)) :=
    ⟨settled, within_enterAll deeper, watched_enterAll distinct watched⟩
  have after := upholds _ { w with store := layers.enterAll w.store.openTransaction.2 } inside
  rw [transaction_apply layers distinct]
  simp only [nested]
  generalize body { w with store := layers.enterAll w.store.openTransaction.2 } = ended at after
  obtain ⟨outcome, v⟩ := ended
  obtain ⟨-, within', watched'⟩ := after
  obtain ⟨same, -, exited, -⟩ :=
    leaveAll_spec w.store layers distinct outcome v watched'.placed
  generalize layers.leaveAll w.store (outcome, v) = left at same exited
  have left_within := within'.of_ledger same.config same.registry same.ledger
  refine ⟨settled, left_within.leave within.positive _, ?_⟩
  have watch : ∀ rule place, (rule, place) ∈ layers.rules →
      left.2.store.watch place = (v.store.watch place).exit := by
    intro rule place mem
    refine (exited rule place mem).2 ?_
    rw [watched.deep rule place mem]
    exact Nat.pos_iff_ne_zero.mp within.positive
  refine watched'.of_same (left.2.store.closeTransaction false (Action.succeeded left.1))
    same.registry (fun id _ => ?_) ?_ (fun rule place mem => ?_) (fun rule place mem => ?_)
    fun rule place mem => ?_
  · show (left.2.store.ledger.register.cell id).properties = _
    rw [same.ledger]
    rfl
  · show left.2.store.ledger.sequence = _
    rw [same.ledger]
  · show place < left.2.store.watches.length
    rw [same.watches]
    exact watched'.placed rule place mem
  · show (left.2.store.watch place).depth = depth
    rw [watch rule place mem]
    exact congrArg (· - 1) (watched'.deep rule place mem)
  · show _ ⊆ (left.2.store.watch place).touched
    rw [watch rule place mem]
    have still : (v.store.watch place).depth - 1 ≠ 0 := by
      rw [watched'.deep rule place mem]
      exact Nat.pos_iff_ne_zero.mp within.positive
    unfold Watch.exit
    rw [if_neg still]
    exact fun _ remembered => remembered

/-- The outermost transaction leaves a settled store settled if its body keeps rules upheld: either
all that the watches remember has been checked, or everything is undone. -/
theorem transaction_outermost (distinct : (layers.rules.map Prod.snd).Nodup) {body : Action σ α}
    (upholds : Upholds layers.rules body) {w : World σ} (h : w.store.Settled layers.rules) :
    (layers.transaction body w).2.store.Settled layers.rules := by
  have outermost : w.store.openTransaction.1 = true := by
    rw [openTransaction_outermost h.closed]
  have inside : (layers.enterAll w.store.openTransaction.2).Upheld layers.rules
      (some (w.store, 1)) :=
    ⟨h, within_enterAll (Within.start h.sound h.closed), watched_enterAll distinct h.watched⟩
  have after := upholds _ { w with store := layers.enterAll w.store.openTransaction.2 } inside
  rw [transaction_apply layers distinct]
  simp only [outermost]
  generalize body { w with store := layers.enterAll w.store.openTransaction.2 } = ended at after
  obtain ⟨outcome, v⟩ := ended
  obtain ⟨-, within, watched⟩ := after
  obtain ⟨same, -, exited, checked⟩ :=
    leaveAll_spec w.store layers distinct outcome v watched.placed
  generalize layers.leaveAll w.store (outcome, v) = left at same exited checked
  obtain ⟨outcome', u⟩ := left
  have within' := within.of_ledger same.config same.registry same.ledger
  have idle : ∀ rule place, (rule, place) ∈ layers.rules → u.store.watch place = .idle :=
    fun rule place mem => (exited rule place mem).1 (watched.deep rule place mem)
  cases outcome' with
  | ok x =>
    obtain ⟨-, satisfied⟩ := checked x rfl
    refine Settled.commit within' watched same idle fun rule place mem => ?_
    refine satisfied rule place mem ?_
    rw [h.idle rule place mem]
    rfl
  | error e =>
    refine h.rollBack within' (fun rule place mem => ?_) idle
    rw [same.watches]
    exact watched.placed rule place mem

/-- A transaction of a stack keeps rules upheld if its body does. -/
theorem transaction_upholds (same : layers.rules = rules) (distinct : (rules.map Prod.snd).Nodup)
    {body : Action σ α} (upholds : Upholds rules body) :
    Upholds rules (layers.transaction body) := by
  subst same
  intro i w h
  cases i with
  | none => exact transaction_outermost distinct upholds h
  | some opened => exact transaction_nested distinct upholds h

/-! ### Hooks -/

/-- An action that keeps rules upheld may be followed by one that does so with its result. -/
theorem Upholds.bind {β : Type} {a : Action σ α} {f : α → Action σ β} (first : Upholds rules a)
    (rest : ∀ w x w', a w = (.ok x, w') → Upholds rules (f x)) : Upholds rules (a >>= f) :=
  Action.Keeps.bind first rest

/-- Making a fact keeps any rules upheld where there are only layers of rules. -/
theorem insert_upholds_of_rules (ruled : ∀ layer ∈ layers, ∃ rule place, layer = .rule rule place) :
    Upholds rules (layers.insert : Action σ Handle) := by
  induction layers with
  | nil => exact fun i w h => h.insert
  | cons layer below ih =>
    obtain ⟨rule, place, rfl⟩ := ruled layer List.mem_cons_self
    refine (ih fun layer mem => ruled layer (List.mem_cons_of_mem _ mem)).bind fun w x w' _ => ?_
    intro i v h
    have told : Heard x.id (default : Change) 0 v.store (v.store.onWatch place (·.touch x.id)) :=
      v.store.onWatch_touch_heard place
    exact h.heard told

/-- Hooks on top of layers change neither the rules nor who hears of writes. -/
theorem rules_hooks (hooks : List Hook) (layers : Stack) :
    Stack.rules (hooks.map .hook ++ layers) = layers.rules ∧
      listeners (hooks.map .hook ++ layers) = layers.listeners := by
  induction hooks with
  | nil => exact ⟨rfl, rfl⟩
  | cons hook rest ih => exact ih

/-- Making a fact keeps rules upheld where hooks stand on top of layers of rules. -/
theorem insert_upholds (ruled : ∀ layer ∈ layers, ∃ rule place, layer = .rule rule place)
    (distinct : (layers.rules.map Prod.snd).Nodup) (hooks : List Hook) :
    Upholds layers.rules (insert (hooks.map .hook ++ layers) : Action σ Handle) := by
  induction hooks with
  | nil => exact insert_upholds_of_rules ruled
  | cons hook rest ih =>
    obtain ⟨same, hear⟩ := rules_hooks rest layers
    refine transaction_upholds same distinct
      (decorated_keeps ih (fun i id s name value h => ?_) hook)
    refine h.write rfl (fun rule place mem => ?_) name value
    rw [hear]
    exact mem_listeners mem

/-! ### Programs -/

/-- A request of a stack with hooks on top of rules keeps the rules upheld. -/
theorem request_upholds {β : Type}
    (ruled : ∀ layer ∈ layers, ∃ rule place, layer = .rule rule place)
    (distinct : (layers.rules.map Prod.snd).Nodup) (hooks : List Hook) (r : Request β) :
    Upholds layers.rules (r.run (hooks.map .hook ++ layers) : Action σ β) := by
  have hears : ∀ (objections : List Objection) rule place, (rule, place) ∈ layers.rules →
      .rule rule place ∈ listeners (hooks.map .hook ++ layers) ++ objections.map .refusal := by
    intro objections rule place mem
    rw [(rules_hooks hooks layers).2]
    exact List.mem_append_left _ (mem_listeners mem)
  intro i w h
  refine r.keeps (fun s => s.Upheld layers.rules i) ?_ ?_ ?_ w h
  · exact fun reports h => h.reports reports
  · exact fun w h => insert_upholds ruled distinct hooks i w h
  · exact fun id objections name value s h => h.write rfl (hears objections) name value

/-- A program over hooks on top of rules keeps the rules upheld. -/
theorem run_upholds (ruled : ∀ layer ∈ layers, ∃ rule place, layer = .rule rule place)
    (distinct : (layers.rules.map Prod.snd).Nodup) (hooks : List Hook) (p : Program α) :
    Upholds layers.rules (p.run (hooks.map .hook ++ layers) : Action σ α) := by
  refine p.keeps (fun i w => w.store.Upheld layers.rules i) ?_ ?_
  · exact fun r i w h => request_upholds ruled distinct hooks r i w h
  · exact fun body keeps => transaction_upholds (rules_hooks hooks layers).1 distinct keeps

/-- Put layers of rules on top, one after the other; a rule is given by its text and by the name of
the property that identifies a fact. -/
def addRules (layers : Stack) (s : Store) :
    List (String × Option String) → Except Error Stack × Store
  | [] => (.ok layers, s)
  | (text, uid) :: rest =>
    match layers.addRule s text uid with
    | (.ok layers, s) => addRules layers s rest
    | (.error e, s) => (.error e, s)

/-- Layers of rules over a store without facts, all of which have watches of their own, none of
which has seen anything. -/
structure Fresh (layers : Stack) (s : Store) : Prop where
  ruled : ∀ layer ∈ layers, ∃ rule place, layer = .rule rule place
  placed : ∀ rule place, (rule, place) ∈ layers.rules → place < s.watches.length
  distinct : (layers.rules.map Prod.snd).Nodup
  idle : ∀ place, s.watch place = .idle
  ledger : s.ledger = .empty

/-- One more rule gets a watch of its own. -/
theorem Fresh.addRule {s s' : Store} {layers' : Stack} (h : Fresh layers s) {text : String}
    {uid : Option String} (added : layers.addRule s text uid = (.ok layers', s')) :
    Fresh layers' s' := by
  unfold Stack.addRule at added
  have reports := s.readTerm_onlyReports text
  split at added
  · cases added
  · next term s₁ read =>
    rw [read] at reports
    obtain ⟨events, rfl⟩ := reports
    simp only [Prod.mk.injEq, Except.ok.injEq] at added
    obtain ⟨rfl, rfl⟩ := added
    refine ⟨fun layer mem => ?_, fun rule place mem => ?_, ?_, fun place => ?_, h.ledger⟩
    · rcases List.mem_cons.mp mem with rfl | mem
      · exact ⟨_, _, rfl⟩
      · exact h.ruled layer mem
    · simp only [List.length_append, List.length_singleton]
      rcases List.mem_cons.mp mem with top | mem
      · rw [(Prod.mk.inj top).2]
        exact Nat.lt_succ_self _
      · exact Nat.lt_succ_of_lt (h.placed rule place mem)
    · refine List.nodup_cons.mpr ⟨fun mem => ?_, h.distinct⟩
      obtain ⟨⟨rule, place⟩, mem, same⟩ := List.mem_map.mp mem
      have before := h.placed rule place mem
      have last : place = s.watches.length := same
      omega
    · have idle := h.idle place
      simp only [Store.watch, List.getD_eq_getElem?_getD, List.getElem?_append] at idle ⊢
      split
      · exact idle
      · cases place - s.watches.length with
        | zero => rfl
        | succ n => rfl

/-- Rules that are put on a store without facts are fresh. -/
theorem Fresh.addRules {s s' : Store} {layers' : Stack} (h : Fresh layers s)
    {texts : List (String × Option String)}
    (added : layers.addRules s texts = (.ok layers', s')) : Fresh layers' s' := by
  induction texts generalizing layers s with
  | nil =>
    obtain ⟨rfl, rfl⟩ : layers = layers' ∧ s = s' := by
      simpa [Stack.addRules] using added
    exact h
  | cons first rest ih =>
    obtain ⟨text, uid⟩ := first
    unfold Stack.addRules at added
    split at added
    · next next s₁ put => exact ih (h.addRule put) added
    · cases added

/-- Rules over a store without facts hold. -/
theorem Fresh.settled {s : Store} (h : Fresh layers s) : s.Settled layers.rules := by
  have none : ∀ {P : Prop} {id}, id ∈ s.ledger.sequence → P := by
    intro P id mem
    rw [h.ledger] at mem
    cases mem
  refine ⟨⟨fun id => ?_, fun id mem => none mem⟩, ?_, fun rule place mem => h.idle place, h.placed,
    fun rule place mem => ?_, fun rule place mem id stored => none stored⟩
  · unfold Store.properties
    rw [h.ledger]
    exact Properties.solid_empty
  · rw [h.ledger]
    rfl
  · rw [h.idle]
    rfl

/-- Whatever a program does to a store without facts through hooks on top of layers of rules, in the
end no transaction is open, all watches are idle, and every fact of the store that holds anything
passes the test of every rule in a pass of its own over no facts. As a program may end anywhere,
this is so at every moment of a run at which no transaction is open. -/
theorem rules_hold (config : Config) (registry : Registry) (texts : List (String × Option String))
    (layers : Stack) (s : Store)
    (installed : addRules [] (.create config registry) texts = (.ok layers, s))
    (hooks : List Hook) (p : Program α) (own : σ) :
    let after := (p.run (hooks.map .hook ++ layers) ⟨s, own⟩).2.store
    after.depth = 0 ∧ ∀ rule place, .rule rule place ∈ layers → after.watch place = .idle ∧
      ∀ id ∈ after.ledger.sequence, (after.properties id).isEmpty = false →
        ((rule.term.test after.scene false 0 (.fact id) []).run (.start 0)).1 = .ok true := by
  have bare : Fresh [] (.create config registry) := by
    refine ⟨fun _ mem => ?_, fun _ _ mem => ?_, List.nodup_nil, fun _ => rfl, rfl⟩
    · cases mem
    · cases mem
  have fresh := bare.addRules installed
  have after : (p.run (hooks.map .hook ++ layers) ⟨s, own⟩).2.store.Settled layers.rules :=
    run_upholds fresh.ruled fresh.distinct hooks p none ⟨s, own⟩ fresh.settled
  refine ⟨after.closed, fun rule place mem => ?_⟩
  have mem := mem_rules mem
  refine ⟨after.idle rule place mem, fun id stored holds => ?_⟩
  rcases after.watched.valid rule place mem id stored with empty | remembered | satisfied
  · rw [empty] at holds
    cases holds
  · rw [after.idle rule place mem] at remembered
    cases remembered
  · exact satisfied

/-- The rule that no fact has an `a` without a `b`. -/
def together : Rule :=
  ⟨.node .when [.term (.node .present [.symbol "a"]), .term (.node .present [.symbol "b"])], none⟩

/-- A layer of that rule, put on a store without facts. -/
def guarded : Except Error Stack × Store :=
  addRules [] (.create .standard .empty) [("(when (exists a) (exists b))", none)]

theorem guarded_fst : guarded.1 = .ok [.rule together 0] := by
  have read : Term.ofQuery (Store.create .standard .empty).config.maxDepth
      "(when (exists a) (exists b))" = .ok (together.term, 11) := by decide +kernel
  simp only [guarded, addRules, addRule, Store.readTerm]
  rw [read]
  rfl

/-- A program that makes a fact and writes an `a` to it. -/
def writeA : Program Unit :=
  .ask .insert fun
    | .ok h => .ask (.write h.id [] "a" (.int 1)) fun outcome => .done outcome
    | .error e => .done (.error e)

/-- However hooks decorate a new fact, after an `a` was written to it there is a `b` as well, or
the write was refused. -/
theorem rules_hold_guarded :
    guarded = (.ok [.rule together 0], guarded.2) ∧ ∀ hooks : List Hook,
      let after := (writeA.run (hooks.map .hook ++ [.rule together 0]) ⟨guarded.2, ()⟩).2.store
      after.depth = 0 ∧ after.watch 0 = .idle ∧ ∀ id ∈ after.ledger.sequence,
        (after.properties id).isEmpty = false →
          ((together.term.test after.scene false 0 (.fact id) []).run (.start 0)).1 = .ok true := by
  have installed : guarded = (.ok [.rule together 0], guarded.2) := by
    rw [← guarded_fst]
  refine ⟨installed, fun hooks => ?_⟩
  have held := rules_hold .standard .empty [("(when (exists a) (exists b))", none)]
    [.rule together 0] guarded.2 installed hooks writeA ()
  exact ⟨held.1, held.2 together 0 List.mem_cons_self⟩

end Stack

end Annals
