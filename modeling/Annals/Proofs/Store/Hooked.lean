import Annals.Proofs.Fact.Merged
import Annals.Proofs.Store.Traceless
import Annals.Proofs.Store.Verdict
import Mathlib.Data.List.Nodup

/-!
# New facts under a hook

A hook on top of layers of rules writes to a new fact inside of a transaction of the layers below
it. It may stop anywhere, writes may be refused on the way, and when it is done the rules are looked
at. Either there is one fact more in the end, or nothing has happened.

* `Store.Confined` is the frame of all this: writes to one fact, and what their listeners do, leave
  the other facts and the sequence as they are, and no watch is told of anything else.
* `Hook.accepted` are the writes of a hook that succeed, and `Action.runHook_holds` says that these
  are what the fact holds.
* `Stack.leaveAll_ok_iff` is the verdict of several layers of rules.
* `Stack.insert_hooked` is the result.
-/

set_option autoImplicit false

namespace Annals

namespace Store

variable {s s' s'' : Store} {id : FactId}

/-- Only one fact was written to, and at most this fact was remembered by watches. -/
structure Confined (id : FactId) (s s' : Store) : Prop where
  sequence : s'.ledger.sequence = s.ledger.sequence
  size : s'.ledger.register.cells.size = s.ledger.register.cells.size
  others : ∀ other, other ≠ id → s'.properties other = s.properties other
  watches : s'.watches.length = s.watches.length
  depth : ∀ place, (s'.watch place).depth = (s.watch place).depth
  touched : ∀ place, (s.watch place).touched ⊆ (s'.watch place).touched
  only : ∀ place, ∀ x ∈ (s'.watch place).touched, x ∈ (s.watch place).touched ∨ x = id

namespace Confined

theorem refl (s : Store) : s.Confined id s :=
  ⟨rfl, rfl, fun _ _ => rfl, rfl, fun _ => rfl, fun _ _ mem => mem, fun _ _ mem => .inl mem⟩

theorem trans (first : Confined id s s') (second : Confined id s' s'') : Confined id s s'' where
  sequence := second.sequence.trans first.sequence
  size := second.size.trans first.size
  others other apart := (second.others other apart).trans (first.others other apart)
  watches := second.watches.trans first.watches
  depth place := (second.depth place).trans (first.depth place)
  touched place _ mem := second.touched place (first.touched place mem)
  only place x mem := by
    rcases second.only place x mem with earlier | same
    · exact first.only place x earlier
    · exact .inr same

end Confined

theorem Heard.confined {change : Change} {times : Nat} (heard : Heard id change times s s') :
    Confined id s s' where
  sequence := by rw [heard.ledger]
  size := by rw [heard.ledger]
  others other _ := congrFun heard.properties other
  watches := heard.watches
  depth := heard.depth
  touched := heard.touched
  only := heard.only

/-- Changing the register at one fact is confined to this fact. -/
theorem confined_withLedger {register : Register}
    (size : register.cells.size = s.ledger.register.cells.size)
    (others : ∀ other, other ≠ id → register.cell other = s.ledger.register.cell other) :
    Confined id s (s.withLedger { s.ledger with register := register }) where
  sequence := rfl
  size := size
  others other apart := congrArg Cell.properties (others other apart)
  watches := rfl
  depth _ := rfl
  touched _ _ mem := mem
  only _ _ mem := .inl mem

/-- Whatever comes of a write, it is confined to the fact that is written to. -/
theorem write_confined (s : Store) (h : Handle) (name : String) (value : Value) :
    Confined h.id s (s.write h name value).2 := by
  rcases s.write_cases h name value with same | ⟨p, change, -, ended⟩
  · rw [same]
    exact .refl s
  · obtain ⟨times, heard⟩ := (s.written h.id p).notify_heard h.id change h.listeners
    have written : Confined h.id s (s.written h.id p) := by
      refine confined_withLedger (Register.size_replace _ _ _) fun other apart => ?_
      rw [Register.cell_replace, if_neg (not_and_of_not_left _ apart)]
    rcases ended with ⟨-, same⟩ | ⟨e, -, -, same⟩
    · rw [same]
      exact written.trans heard.confined
    · have reverted : Confined h.id ((s.written h.id p).notify h.id change h.listeners).2
          (s.write h name value).2 := by
        rw [same]
        refine confined_withLedger (Register.size_revert _ _ _) fun other apart => ?_
        rw [Register.cell_revert, if_neg apart]
      exact (written.trans heard.confined).trans reverted

end Store

/-- The writes of a hook through a handle that succeed, in their order. -/
def Hook.accepted (h : Handle) : Hook → Store → List (String × Value)
  | .done, _ => []
  | .exit _, _ => []
  | .look next, s => (next h.id s.ledger.register.contents).accepted h s
  | .write name value next, s =>
    match s.write h name value with
    | (.ok (), s) => (name, value) :: (next (.ok ())).accepted h s
    | (.error e, s) => (next (.error e)).accepted h s

namespace Action

variable {σ : Type} {h : Handle}

theorem runHook_confined (h : Handle) (hook : Hook) (w : World σ) :
    w.store.Confined h.id (runHook h hook w).2.store := by
  have kept : Keeps (Store.Confined h.id) (runHook h hook : Action σ Unit) :=
    runHook_keeps (fun _ s name value confined => confined.trans (s.write_confined h name value))
      hook
  exact kept w.store w (.refl w.store)

/-- A hook leaves what was written to the fact before, with its own accepted writes. -/
theorem runHook_holds (hook : Hook) {w : World σ} (sound : w.store.Sound)
    (made : h.id.index < w.store.ledger.register.cells.size) {before : List (String × Value)}
    (holds : w.store.properties h.id = .ofWrites before) :
    (runHook h hook w).2.store.properties h.id
      = .ofWrites (before ++ hook.accepted h w.store) := by
  induction hook generalizing w before with
  | done =>
    rw [Hook.accepted, List.append_nil]
    exact holds
  | exit e =>
    rw [Hook.accepted, List.append_nil]
    exact holds
  | look next ih => exact ih h.id w.store.ledger.register.contents sound made holds
  | write name value next ih =>
    have sound' := sound.write h name value
    have made' := made
    rw [← (w.store.write_made h name value).2] at made'
    simp only [runHook, Hook.accepted]
    cases ended : w.store.write h name value with
    | mk outcome s =>
      rw [ended] at sound' made'
      cases outcome with
      | ok _ =>
        have register := (Store.write_ok (congrArg Prod.fst ended)).2
        rw [ended] at register
        have longer : s.properties h.id = .ofWrites (before ++ [(name, value)]) := by
          unfold Store.properties Register.contents
          rw [register, Register.cell_replace, if_pos ⟨rfl, made⟩, ← Properties.append_ofWrites,
            ← holds]
        rw [List.append_cons]
        exact ih (.ok ()) (w := { w with store := s }) sound' made' longer
      | error e =>
        have register := Store.write_error sound (congrArg Prod.fst ended)
        rw [ended] at register
        have same : s.properties h.id = .ofWrites before := by
          unfold Store.properties at holds ⊢
          rw [register]
          exact holds
        exact ih (.error e) (w := { w with store := s }) sound' made' same

end Action

namespace Stack

variable {σ α : Type} {layers : Stack} {w : World σ}

/-- Layers of rules with watches of their own, while no transaction is open. -/
structure Resting (layers : Stack) (s : Store) : Prop where
  ruled : ∀ layer ∈ layers, ∃ rule place, layer = .rule rule place
  distinct : (layers.rules.map Prod.snd).Nodup
  placed : ∀ rule place, (rule, place) ∈ layers.rules → place < s.watches.length
  idle : ∀ rule place, (rule, place) ∈ layers.rules → s.watch place = .idle
  closed : s.depth = 0

/-- Several layers of rules whose watches were idle let a result pass if and only if all that their
watches remember satisfies the rules. -/
theorem leaveAll_ok_iff {before : Store} (distinct : (layers.rules.map Prod.snd).Nodup)
    (idle : ∀ rule place, (rule, place) ∈ layers.rules → (before.watch place).depth = 0)
    (placed : ∀ rule place, (rule, place) ∈ layers.rules → place < w.store.watches.length)
    (outcome : Except Exit α) (x : α) :
    (layers.leaveAll before (outcome, w)).1 = .ok x ↔ outcome = .ok x ∧
      ∀ rule place, (rule, place) ∈ layers.rules →
        ∀ id ∈ (w.store.watch place).touched, (w.store.satisfies rule id).1 = .ok true := by
  constructor
  · intro left
    obtain ⟨-, -, -, checked⟩ := leaveAll_spec before layers distinct outcome w placed
    obtain ⟨result, satisfied⟩ := checked x left
    exact ⟨result, fun rule place mem => satisfied rule place mem (idle rule place mem)⟩
  · rintro ⟨rfl, satisfied⟩
    induction layers generalizing w with
    | nil => rfl
    | cons layer below ih =>
      cases layer with
      | hook hook => exact ih distinct idle placed satisfied
      | rule rule place =>
        obtain ⟨new, distinct⟩ := List.nodup_cons.mp distinct
        have here := placed rule place List.mem_cons_self
        have outermost : ((before.watch place).depth == 0) = true :=
          beq_iff_eq.mpr (idle rule place List.mem_cons_self)
        obtain ⟨same, others, -⟩ := Action.leaveWatch_spec rule place true (.ok x) w here
        have passes := (leaveWatch_ok_iff rule here (.ok x) x).mpr
          ⟨rfl, satisfied rule place List.mem_cons_self⟩
        rw [leaveAll, outermost]
        generalize Action.leaveWatch rule place true (.ok x, w) = left at same others passes
        obtain ⟨outcome, v⟩ := left
        obtain rfl : outcome = .ok x := passes
        refine ih distinct (fun r p mem => idle r p (List.mem_cons_of_mem _ mem)) ?_ ?_
        · intro r p mem
          rw [same.watches]
          exact placed r p (List.mem_cons_of_mem _ mem)
        · intro r p mem id touched
          have apart : p ≠ place := by
            rintro rfl
            have member := List.mem_map_of_mem (f := Prod.snd) mem
            exact new member
          rw [others p apart] at touched
          rw [Store.satisfies_congr same.scene]
          exact satisfied r p (List.mem_cons_of_mem _ mem) id touched

/-- Layers of rules make a fact as the store makes it, and all watches that are open are told. -/
theorem insert_told (ruled : ∀ layer ∈ layers, ∃ rule place, layer = .rule rule place)
    (w : World σ) : ∃ told, layers.insert w
        = (.ok (layers.handle w.store.ledger.register.nextId), { w with store := told }) ∧
      w.store.insert.2.OnlyWatches told ∧
      Store.Confined w.store.ledger.register.nextId w.store.insert.2 told ∧
      ∀ rule place, (rule, place) ∈ layers.rules → place < w.store.watches.length →
        (w.store.watch place).depth ≠ 0 →
          w.store.ledger.register.nextId ∈ (told.watch place).touched := by
  induction layers with
  | nil => exact ⟨w.store.insert.2, rfl, .refl _, .refl _, fun _ _ mem => by cases mem⟩
  | cons layer below ih =>
    obtain ⟨rule, place, rfl⟩ := ruled layer List.mem_cons_self
    obtain ⟨told, made, same, confined, all⟩ :=
      ih fun layer mem => ruled layer (List.mem_cons_of_mem _ mem)
    have touch : Store.Heard w.store.ledger.register.nextId (default : Change) 0 told
        (told.onWatch place (·.touch w.store.ledger.register.nextId)) :=
      told.onWatch_touch_heard place
    refine ⟨told.onWatch place (·.touch w.store.ledger.register.nextId), ?_,
      same.trans (.onWatch _ _ _), confined.trans touch.confined, ?_⟩
    · rw [insert, Action.bind_apply, made]
      rfl
    · intro r p mem placed inside
      rcases List.mem_cons.mp mem with top | mem
      · obtain ⟨rfl, rfl⟩ := Prod.mk.inj top
        have placed' : p < told.watches.length := by
          rw [same.watches]
          exact placed
        have inside' : (told.watch p).depth ≠ 0 := by
          rw [confined.depth]
          exact inside
        rw [Store.watch_onWatch, if_pos ⟨rfl, placed'⟩]
        unfold Watch.touch
        split
        · next known => exact known.resolve_left inside'
        · exact List.mem_append_right _ List.mem_cons_self
      · exact touch.touched p (all r p mem placed inside)

/-- What a transaction begins with where none was open. -/
theorem Resting.begin (resting : layers.Resting w.store) :
    (layers.begin w).store.ledger.register = w.store.ledger.register ∧
      (layers.begin w).store.ledger.sequence = w.store.ledger.sequence ∧
      (layers.begin w).store.watches.length = w.store.watches.length ∧
      ∀ rule place, (rule, place) ∈ layers.rules →
        (layers.begin w).store.watch place = ⟨1, []⟩ := by
  obtain ⟨watches, entered, length⟩ := enterAll_frame layers w.store.openTransaction.2
  have opened := w.store.watches_openTransaction
  have ledger : (layers.begin w).store.ledger = w.store.openTransaction.2.ledger := by
    rw [Stack.begin, entered]
  refine ⟨?_, ?_, ?_, ?_⟩
  · rw [ledger, Store.openTransaction_outermost resting.closed]
    rfl
  · rw [ledger, Store.openTransaction_outermost resting.closed]
    rfl
  · simp only [Stack.begin, entered, length, opened]
  · intro rule place mem
    have placed := resting.placed rule place mem
    rw [← opened] at placed
    rw [Stack.begin, watch_enterAll resting.distinct mem placed, Store.watch_of_watches opened,
      resting.idle rule place mem]
    rfl

/-- In a transaction of some layers that was opened on a store, there is one fact more, which holds
what some writes to it leave, and the watches of the layers remember this fact only. -/
structure Drafted (layers : Stack) (before : Store) (writes : List (String × Value)) (s : Store) :
    Prop where
  sequence : s.ledger.sequence = before.ledger.sequence ++ [before.ledger.register.nextId]
  made : before.ledger.register.nextId.index < s.ledger.register.cells.size
  holds : s.properties before.ledger.register.nextId = .ofWrites writes
  others : ∀ id, id ≠ before.ledger.register.nextId → s.properties id = before.properties id
  watches : s.watches.length = before.watches.length
  depth : ∀ rule place, (rule, place) ∈ layers.rules → (s.watch place).depth = 1
  touched : ∀ rule place, (rule, place) ∈ layers.rules →
    ∀ id, id ∈ (s.watch place).touched ↔ id = before.ledger.register.nextId

/-- The fact is new before the hook does anything. -/
theorem Resting.drafted (resting : layers.Resting w.store) :
    layers.insert (layers.begin w)
        = (.ok (layers.handle w.store.ledger.register.nextId), (layers.insert (layers.begin w)).2) ∧
      layers.Drafted w.store [] (layers.insert (layers.begin w)).2.store := by
  obtain ⟨register, sequence, length, watch⟩ := resting.begin
  obtain ⟨told, made, same, confined, all⟩ := insert_told resting.ruled (layers.begin w)
  rw [register] at made confined all
  have after : (layers.begin w).store.insert.2.ledger.register
      = w.store.ledger.register.add .empty (layers.begin w).store.config.reservedNames := by
    rw [← register]
    rfl
  rw [made]
  refine ⟨rfl, ?_, ?_, ?_, ?_, ?_, ?_, ?_⟩
  · show told.ledger.sequence = _
    rw [confined.sequence, ← sequence, ← register]
    rfl
  · show _ < told.ledger.register.cells.size
    rw [confined.size, after, Register.size_add]
    exact Nat.lt_succ_self _
  · show told.properties _ = _
    unfold Store.properties Register.contents
    rw [same.ledger, after, Register.cell_add, if_pos rfl]
    rfl
  · intro id other
    show told.properties id = _
    unfold Store.properties Register.contents
    rw [same.ledger, after, Register.cell_add, if_neg other]
  · show told.watches.length = _
    rw [same.watches]
    exact length
  · intro rule place mem
    show (told.watch place).depth = 1
    rw [confined.depth]
    exact congrArg Watch.depth (watch rule place mem)
  · intro rule place mem id
    show id ∈ (told.watch place).touched ↔ _
    have placed : place < (layers.begin w).store.watches.length := by
      rw [length]
      exact resting.placed rule place mem
    have entered := watch rule place mem
    constructor
    · intro remembered
      refine (confined.only place id remembered).resolve_left fun earlier => ?_
      have earlier : id ∈ ((layers.begin w).store.watch place).touched := earlier
      rw [entered] at earlier
      cases earlier
    · rintro rfl
      refine all rule place mem placed ?_
      rw [entered]
      exact Nat.one_ne_zero

namespace Drafted

variable {before s : Store} {writes : List (String × Value)}

/-- A hook changes nothing but what the new fact holds. -/
theorem runHook (drafted : layers.Drafted before [] w.store) (sound : w.store.Sound)
    (hook : Hook) : layers.Drafted before
      (hook.accepted (layers.handle before.ledger.register.nextId) w.store)
      (Action.runHook (layers.handle before.ledger.register.nextId) hook w).2.store := by
  have confined := Action.runHook_confined (layers.handle before.ledger.register.nextId) hook w
  refine ⟨confined.sequence.trans drafted.sequence, ?_, ?_, ?_,
    confined.watches.trans drafted.watches, ?_, ?_⟩
  · rw [confined.size]
    exact drafted.made
  · exact Action.runHook_holds (h := layers.handle _) hook sound drafted.made drafted.holds
  · intro id other
    rw [confined.others id other, drafted.others id other]
  · intro rule place mem
    rw [confined.depth, drafted.depth rule place mem]
  · intro rule place mem id
    constructor
    · intro remembered
      rcases confined.only place id remembered with earlier | same
      · exact (drafted.touched rule place mem id).mp earlier
      · exact same
    · intro same
      exact confined.touched place ((drafted.touched rule place mem id).mpr same)

/-- The facts are those that there were, with the new one behind them. -/
theorem maps (drafted : layers.Drafted before writes s) (sound : before.Sound) :
    s.maps = before.maps ++ [.ofWrites writes] := by
  show s.ledger.sequence.map s.properties = _
  rw [drafted.sequence, List.map_append, List.map_cons, List.map_nil, drafted.holds]
  refine congrArg (· ++ _) (List.map_congr_left fun id mem => ?_)
  refine drafted.others id ?_
  rintro rfl
  exact Nat.lt_irrefl _ (sound.made _ mem)

end Drafted

/-- How an outermost transaction of layers of rules ends whose body is known to touch some facts. -/
theorem Resting.judged (resting : layers.Resting w.store) (sound : w.store.Sound)
    {body : Action σ α} (keeps : Action.Keeps w.store.Within body) (facts : FactId → Prop)
    (watches : (body (layers.begin w)).2.store.watches.length = w.store.watches.length)
    (depth : ∀ rule place, (rule, place) ∈ layers.rules →
      ((body (layers.begin w)).2.store.watch place).depth = 1)
    (touched : ∀ rule place, (rule, place) ∈ layers.rules →
      ∀ id, id ∈ ((body (layers.begin w)).2.store.watch place).touched ↔ facts id) :
    let last := body (layers.begin w)
    let ended := layers.transaction body w
    (∀ x, ended.1 = .ok x ↔ last.1 = .ok x ∧ ∀ rule place, (rule, place) ∈ layers.rules →
      ∀ id, facts id → (last.2.store.satisfies rule id).1 = .ok true) ∧
    (∀ x, ended.1 = .ok x →
      ended.2.store.maps = last.2.store.maps ∧ ended.2.store.scene = last.2.store.scene) ∧
    ended.2.store.depth = 0 ∧
    ∀ rule place, (rule, place) ∈ layers.rules → ended.2.store.watch place = .idle := by
  intro last ended
  have idle : ∀ rule place, (rule, place) ∈ layers.rules → (w.store.watch place).depth = 0 := by
    intro rule place mem
    rw [resting.idle rule place mem]
    rfl
  have placed : ∀ rule place, (rule, place) ∈ layers.rules →
      place < last.2.store.watches.length := by
    intro rule place mem
    rw [watches]
    exact resting.placed rule place mem
  have within : w.store.Within 1 last.2.store :=
    keeps 1 (layers.begin w) (within_enterAll (.start sound resting.closed))
  obtain ⟨same, -, exited, -⟩ :=
    leaveAll_spec w.store layers resting.distinct last.1 last.2 placed
  have passes := leaveAll_ok_iff resting.distinct idle placed last.1
  have closes : ended = (let left := layers.leaveAll w.store (last.1, last.2)
      (left.1, { left.2 with
        store := left.2.store.closeTransaction true (Action.succeeded left.1) })) := by
    have outermost : w.store.openTransaction.1 = true := by
      rw [Store.openTransaction_outermost resting.closed]
    rw [← outermost]
    exact transaction_apply layers resting.distinct body w
  generalize layers.leaveAll w.store (last.1, last.2) = left at same exited passes closes
  obtain ⟨outcome, v⟩ := left
  rw [closes]
  refine ⟨fun x => ?_, fun x ok => ?_, ?_, fun rule place mem => ?_⟩
  · rw [passes x]
    refine and_congr_right fun _ => forall_congr' fun rule => forall_congr' fun place =>
      forall_congr' fun mem => forall_congr' fun id => ?_
    rw [touched rule place mem]
  · obtain rfl : outcome = .ok x := ok
    refine ⟨?_, same.scene⟩
    show v.store.ledger.maps = last.2.store.ledger.maps
    rw [same.ledger]
  · show (v.store.closeTransaction true _).depth = 0
    rw [Store.depth_closeTransaction, Store.depth, same.ledger, within.opened]
  · show (v.store.closeTransaction true _).watch place = .idle
    rw [Store.watch_of_watches (v.store.watches_closeTransaction true _)]
    exact (exited rule place mem).1 (depth rule place mem)

/-- A new fact is given out when the hook has ended well. -/
theorem decorated_apply {v : World σ} {h : Handle} (inserted : layers.insert w = (.ok h, v))
    (hook : Hook) :
    (do
      let h ← layers.insert
      Action.runHook h hook
      return h : Action σ Handle) w
      = ((Action.runHook h hook v).1.map fun _ => h, (Action.runHook h hook v).2) := by
  simp only [Action.bind_apply, inserted]
  cases Action.runHook h hook v with
  | mk outcome u => cases outcome <;> rfl

/-- Making a fact under a hook, over a store or over layers of rules on it, where no transaction is
open. Whatever the hook writes, and wherever it stops, if that fails then the facts are as they
were. If not, there is one fact more, behind the others; it holds the writes of the hook that were
accepted, in their order and each value once, and it satisfies every rule. It does not fail if the
hook does not and the rules are satisfied when the hook has ended. In the end no transaction is
open, and the watches are idle again. -/
theorem insert_hooked (resting : layers.Resting w.store) (reachable : w.store.Reachable)
    (hook : Hook) :
    let h := layers.handle w.store.ledger.register.nextId
    let begun := (layers.insert (layers.begin w)).2
    let ran := Action.runHook h hook begun
    let made := insert (.hook hook :: layers) w
    (∀ e, made.1 = .error e → made.2.store.maps = w.store.maps) ∧
    (∀ x, made.1 = .ok x → x = h ∧
      made.2.store.maps = w.store.maps ++ [.ofWrites (hook.accepted h begun.store)] ∧
      ∀ rule place, (rule, place) ∈ layers.rules →
        (made.2.store.satisfies rule h.id).1 = .ok true) ∧
    (made.1 = .ok h ↔ ran.1 = .ok () ∧ ∀ rule place, (rule, place) ∈ layers.rules →
      (ran.2.store.satisfies rule h.id).1 = .ok true) ∧
    made.2.store.depth = 0 ∧
    ∀ rule place, (rule, place) ∈ layers.rules → made.2.store.watch place = .idle := by
  intro h begun ran made
  have sound := reachable.sound
  obtain ⟨inserted, fresh⟩ := resting.drafted
  have within : w.store.Within 1 begun.store :=
    insert_within layers 1 (layers.begin w) (within_enterAll (.start sound resting.closed))
  have drafted := fresh.runHook within.sound hook
  have keeps : Action.Keeps w.store.Within (do
      let h ← layers.insert
      Action.runHook h hook
      return h : Action σ Handle) :=
    decorated_keeps (insert_within layers) (fun _ _ _ name value kept => kept.write rfl name value)
      hook
  have judged := resting.judged sound keeps fun id => id = h.id
  rw [decorated_apply inserted hook] at judged
  obtain ⟨passes, kept, closed, idle⟩ := judged drafted.watches drafted.depth drafted.touched
  have passes : ∀ x, made.1 = .ok x ↔ ran.1.map (fun _ => h) = .ok x ∧
      ∀ rule place, (rule, place) ∈ layers.rules →
        ∀ id, id = h.id → (ran.2.store.satisfies rule id).1 = .ok true := passes
  have kept : ∀ x, made.1 = .ok x →
      made.2.store.maps = ran.2.store.maps ∧ made.2.store.scene = ran.2.store.scene := kept
  have verdict : ∀ x, made.1 = .ok x ↔ x = h ∧ ran.1 = .ok () ∧
      ∀ rule place, (rule, place) ∈ layers.rules →
        (ran.2.store.satisfies rule h.id).1 = .ok true := by
    intro x
    have result : ran.1.map (fun _ => h) = .ok x ↔ x = h ∧ ran.1 = .ok () := by
      cases ran.1 with
      | error e => simp [Except.map]
      | ok _ => simp [Except.map, eq_comm]
    rw [← and_assoc, ← result]
    simpa only [forall_eq] using passes x
  refine ⟨fun e failed => ?_, fun x ok => ?_, ?_, closed, idle⟩
  · obtain ⟨-, sequence, held⟩ := transaction_undone layers sound resting.closed keeps failed
    exact Store.maps_of_held sound sequence held
  · obtain ⟨given, -, satisfied⟩ := (verdict x).mp ok
    obtain ⟨maps, scene⟩ := kept x ok
    refine ⟨given, maps.trans (drafted.maps sound), fun rule place mem => ?_⟩
    rw [Store.satisfies_congr scene]
    exact satisfied rule place mem
  · rw [verdict h]
    exact and_iff_right rfl

theorem resting_together : Resting [.rule together 0] bare where
  ruled layer mem := ⟨together, 0, List.mem_singleton.mp mem⟩
  distinct := List.nodup_singleton 0
  placed rule place mem := by
    obtain ⟨-, rfl⟩ := Prod.mk.inj (List.mem_singleton.mp mem)
    exact Nat.one_pos
  idle rule place mem := by
    obtain ⟨-, rfl⟩ := Prod.mk.inj (List.mem_singleton.mp mem)
    rfl
  closed := rfl

/-- A hook that writes an `a` and a `b`, with a write between them that is refused and a repeated
one behind them. -/
def writeBoth : Hook := .ofSteps [.write "a" (.int 1), .attempt "not a name" (.int 2),
  .write "b" (.int 2), .write "a" (.int 1)]

/-- Where no fact may have an `a` without a `b`, a hook that writes both makes a fact. One that
writes the `a` only is stopped by the rule, and one that gives up stops by itself, and then there is
none. -/
theorem insert_hooked_together :
    let made := fun hook : Hook => insert [.hook hook, .rule together 0] (⟨bare, ()⟩ : World Unit)
    let half := Hook.ofSteps [.write "a" (.int 1)]
    let broken := Hook.ofSteps [.write "a" (.int 1), .write "b" (.int 2), .giveUp "c"]
    (made writeBoth).1 = .ok (handle [.rule together 0] ⟨0⟩) ∧
      (made writeBoth).2.store.maps = [⟨[("a", [.int 1]), ("b", [.int 2])]⟩] ∧
      (made half).1.isOk = false ∧ (made half).2.store.maps = [] ∧
      (made broken).1.isOk = false ∧ (made broken).2.store.maps = [] := by
  intro made half broken
  have result : ∀ hook, _ := insert_hooked (w := ⟨bare, ()⟩) resting_together bare_reachable
  obtain ⟨-, kept, passes, -⟩ := result writeBoth
  have accepted : (made writeBoth).1 = .ok (handle [.rule together 0] ⟨0⟩) := by
    refine passes.mpr ⟨rfl, fun rule place mem => ?_⟩
    obtain ⟨rfl, -⟩ := Prod.mk.inj (List.mem_singleton.mp mem)
    have holds : (holding ⟨[("a", [.int 1]), ("b", [.int 2])]⟩).properties ⟨0⟩ = _ := rfl
    exact (Store.satisfies_local rfl holds.symm together).trans (by rfl)
  have maps : (made writeBoth).2.store.maps = [⟨[("a", [.int 1]), ("b", [.int 2])]⟩] := by
    rw [(kept _ accepted).2.1]
    decide +kernel
  have stopped : (made half).1.isOk = false ∧ (made broken).1.isOk = false := by decide +kernel
  have empty : ∀ hook, (made hook).1.isOk = false → (made hook).2.store.maps = [] := by
    intro hook failed
    cases outcome : (made hook).1 with
    | error e => exact (result hook).1 e outcome
    | ok x =>
      rw [outcome] at failed
      cases failed
  exact ⟨accepted, maps, stopped.1, empty half stopped.1, stopped.2,
    empty broken stopped.2⟩

end Stack

end Annals
