import Annals.Proofs.Store.Program
import Annals.Proofs.Store.Frame

/-!
# Transactions under watches

A transaction of a stack opens a transaction of the store, enters the watches of all layers of
rules, the innermost one first, runs the body, leaves the watches in the opposite order, and closes
the transaction of the store. `Stack.transaction_apply` says so; `Stack.enterAll` and
`Stack.leaveAll` are the ways in and out, and `Stack.watch_enterAll` and `Stack.leaveAll_spec` what
they do to the watches. On the way out a watch that was idle before has its facts checked, unless
something has failed already.

What does not depend on watches is kept by a whole program if it is kept by what every program is
made of (`Stack.Preserved`).
-/

set_option autoImplicit false

namespace Annals

namespace Action

variable {σ α : Type}

/-- What is checked when a watch is left after a result: the facts that it remembers, if it was
idle before the body. -/
def checkOnLeave (rule : Rule) (place : Nat) (outermost : Bool) (x : α) : Action σ α := do
  if outermost then checkTouched rule place
  return x

/-- How a watch is left after a body has ended. -/
def leaveWatch (rule : Rule) (place : Nat) (outermost : Bool) (ended : Except Exit α × World σ) :
    Except Exit α × World σ :=
  let checked : Except Exit α × World σ := match ended with
    | (.ok x, w) => checkOnLeave rule place outermost x w
    | (.error e, w) => (.error e, w)
  (checked.1, { checked.2 with store := checked.2.store.onWatch place Watch.exit })

/-- A watch is entered before the body and left after it. -/
theorem underWatch_apply (rule : Rule) (place : Nat) (body : Action σ α) (w : World σ) :
    body.underWatch rule place w =
      leaveWatch rule place ((w.store.watch place).depth == 0)
        (body { w with store := w.store.onWatch place Watch.enter }) := by
  unfold underWatch
  simp only [bind_apply, get_apply, change_apply, observe_apply, settle_apply]
  rfl

end Action

namespace Stack

variable {σ α : Type}

/-- The rules among some layers with the places of their watches, the outermost one first. -/
def rules : Stack → List (Rule × Nat)
  | [] => []
  | .hook _ :: below => rules below
  | .rule rule place :: below => (rule, place) :: rules below

/-- The rules of a stack are those of its layers. -/
theorem mem_rules {layers : Stack} {rule : Rule} {place : Nat} (mem : .rule rule place ∈ layers) :
    (rule, place) ∈ layers.rules := by
  induction layers with
  | nil => cases mem
  | cons layer below ih =>
    rcases List.mem_cons.mp mem with same | lower
    · rw [← same]
      exact List.mem_cons_self
    · cases layer with
      | hook hook => exact ih lower
      | rule other here => exact List.mem_cons_of_mem _ (ih lower)

/-- Every layer of rules hears of the writes through a handle that the stack gives out. -/
theorem mem_listeners {layers : Stack} {rule : Rule} {place : Nat}
    (mem : (rule, place) ∈ layers.rules) : .rule rule place ∈ layers.listeners := by
  induction layers with
  | nil => cases mem
  | cons layer below ih =>
    cases layer with
    | hook hook => exact ih mem
    | rule other place' =>
      rcases List.mem_cons.mp mem with same | mem
      · rw [Prod.mk.inj same |>.1, Prod.mk.inj same |>.2]
        exact List.mem_append_right _ List.mem_cons_self
      · exact List.mem_append_left _ (ih mem)

/-- Enter the watches of all layers of rules, the innermost one first. -/
def enterAll : Stack → Store → Store
  | [], s => s
  | .hook _ :: below, s => enterAll below s
  | .rule _ place :: below, s => (enterAll below s).onWatch place Watch.enter

/-- Leave the watches of all layers of rules, the outermost one first, where `before` is the store
before the transaction. -/
def leaveAll (before : Store) : Stack → Except Exit α × World σ → Except Exit α × World σ
  | [], ended => ended
  | .hook _ :: below, ended => leaveAll before below ended
  | .rule rule place :: below, ended =>
    leaveAll before below
      (Action.leaveWatch rule place ((before.watch place).depth == 0) ended)

/-- Entering watches changes nothing but watches. -/
theorem enterAll_frame (layers : Stack) (s : Store) :
    ∃ watches, layers.enterAll s = { s with watches := watches } ∧
      watches.length = s.watches.length := by
  induction layers with
  | nil => exact ⟨s.watches, rfl, rfl⟩
  | cons layer below ih =>
    cases layer with
    | hook hook => exact ih
    | rule rule place =>
      obtain ⟨watches, entered, length⟩ := ih
      refine ⟨watches.modify place Watch.enter, ?_, by rw [List.length_modify, length]⟩
      rw [enterAll, entered]
      rfl

/-- Entering watches leaves those at other places as they are. -/
theorem watch_enterAll_other {layers : Stack} {place : Nat}
    (other : place ∉ layers.rules.map Prod.snd) (s : Store) :
    (layers.enterAll s).watch place = s.watch place := by
  induction layers with
  | nil => rfl
  | cons layer below ih =>
    cases layer with
    | hook hook => exact ih other
    | rule rule here =>
      simp only [rules, List.map_cons, List.mem_cons, not_or] at other
      rw [enterAll, Store.watch_onWatch, if_neg (fun same => other.1 same.1)]
      exact ih other.2

/-- Every watch is entered once. -/
theorem watch_enterAll {layers : Stack} (distinct : (layers.rules.map Prod.snd).Nodup) {s : Store}
    {rule : Rule} {place : Nat} (mem : (rule, place) ∈ layers.rules)
    (placed : place < s.watches.length) :
    (layers.enterAll s).watch place = (s.watch place).enter := by
  induction layers with
  | nil => cases mem
  | cons layer below ih =>
    cases layer with
    | hook hook => exact ih distinct mem
    | rule other here =>
      obtain ⟨new, distinct⟩ := List.nodup_cons.mp distinct
      obtain ⟨watches, entered, length⟩ := enterAll_frame below s
      have bound : here = place → here < (enterAll below s).watches.length := by
        intro same
        rw [entered, length, same]
        exact placed
      rw [enterAll, Store.watch_onWatch]
      rcases List.mem_cons.mp mem with same | mem
      · obtain ⟨-, rfl⟩ := Prod.mk.inj same
        rw [if_pos ⟨rfl, bound rfl⟩, watch_enterAll_other new]
      · have apart : place ≠ here := by
          intro same
          have here := List.mem_map_of_mem (f := Prod.snd) mem
          rw [same] at here
          exact new here
        rw [if_neg (fun same => apart same.1)]
        exact ih distinct mem

/-- A transaction of a stack, from the opening to the closing. -/
theorem transaction_apply (layers : Stack) (distinct : (layers.rules.map Prod.snd).Nodup)
    (body : Action σ α) (w : World σ) :
    layers.transaction body w =
      let opened := w.store.openTransaction
      let ended := layers.leaveAll w.store (body { w with store := layers.enterAll opened.2 })
      (ended.1, { ended.2 with
        store := ended.2.store.closeTransaction opened.1 (Action.succeeded ended.1) }) := by
  induction layers generalizing body with
  | nil => exact Action.inTransaction_apply w body
  | cons layer below ih =>
    cases layer with
    | hook hook => exact ih distinct body
    | rule rule place =>
      obtain ⟨new, distinct⟩ := List.nodup_cons.mp distinct
      have idle : ((enterAll below w.store.openTransaction.2).watch place).depth =
          (w.store.watch place).depth := by
        rw [watch_enterAll_other new]
        by_cases closed : w.store.ledger.depth = 0
        · rw [Store.openTransaction_outermost closed]
          rfl
        · rw [Store.openTransaction_nested closed]
          rfl
      rw [transaction, ih distinct]
      dsimp only
      rw [Action.underWatch_apply]
      dsimp only
      rw [idle]
      rfl

end Stack

/-- Nothing differs but watches and reports. -/
structure Store.OnlyWatches (s s' : Store) : Prop where
  config : s'.config = s.config
  registry : s'.registry = s.registry
  ledger : s'.ledger = s.ledger
  watches : s'.watches.length = s.watches.length

namespace Store.OnlyWatches

variable {s s' s'' : Store}

theorem refl (s : Store) : s.OnlyWatches s := ⟨rfl, rfl, rfl, rfl⟩

theorem trans (first : s.OnlyWatches s') (second : s'.OnlyWatches s'') : s.OnlyWatches s'' :=
  ⟨second.config.trans first.config, second.registry.trans first.registry,
    second.ledger.trans first.ledger, second.watches.trans first.watches⟩

theorem onWatch (s : Store) (place : Nat) (f : Watch → Watch) : s.OnlyWatches (s.onWatch place f) :=
  ⟨rfl, rfl, rfl, List.length_modify ..⟩

theorem of_reports (h : s.OnlyReports s') : s.OnlyWatches s' := by
  obtain ⟨events, rfl⟩ := h
  exact ⟨rfl, rfl, rfl, rfl⟩

theorem scene (h : s.OnlyWatches s') : s'.scene = s.scene := by
  simp only [Store.scene, h.registry, h.ledger]

end Store.OnlyWatches

namespace Action

variable {σ α : Type}

/-- Checking what a watch remembers makes it forget that, and has a result only if all of it
satisfies the rule. -/
theorem checkOnLeave_spec (rule : Rule) (place : Nat) (outermost : Bool) (x : α) (w : World σ) :
    let checked := checkOnLeave rule place outermost x w
    w.store.OnlyWatches checked.2.store ∧
      (∀ other, other ≠ place → checked.2.store.watch other = w.store.watch other) ∧
      (checked.2.store.watch place).depth = (w.store.watch place).depth ∧
      (outermost = false → checked.2.store.watch place = w.store.watch place) ∧
      ∀ y, checked.1 = .ok y → y = x ∧ (outermost = true →
        ∀ id ∈ (w.store.watch place).touched, (w.store.satisfies rule id).1 = .ok true) := by
  cases outermost with
  | false =>
    refine ⟨.refl _, fun _ _ => rfl, rfl, fun _ => rfl, fun y same => ⟨?_, fun h => by cases h⟩⟩
    exact (Except.ok.inj same).symm
  | true =>
    have cleared := Store.OnlyWatches.onWatch w.store place Watch.clear
    have reports := (w.store.onWatch place Watch.clear).validateAll_onlyReports rule
      (w.store.watch place).touched
    have valid : ((w.store.onWatch place Watch.clear).validateAll rule
        (w.store.watch place).touched).1 = .ok () → _ := Store.validateAll_ok
    simp only [checkOnLeave, checkTouched, if_true, bind_apply, get_apply, change_apply,
      ofStore_apply]
    cases checked : (w.store.onWatch place Watch.clear).validateAll rule
        (w.store.watch place).touched with
    | mk verdict s =>
      rw [checked] at reports valid
      have same : w.store.OnlyWatches s := cleared.trans (.of_reports reports)
      have watch : ∀ other, s.watch other = (w.store.onWatch place Watch.clear).watch other := by
        obtain ⟨events, rfl⟩ := reports
        exact fun _ => rfl
      have others : ∀ other, other ≠ place → s.watch other = w.store.watch other := by
        intro other apart
        rw [watch, Store.watch_onWatch, if_neg (fun same => apart same.1)]
      have depth : (s.watch place).depth = (w.store.watch place).depth := by
        rw [watch, Store.watch_onWatch]
        split
        · rfl
        · rfl
      cases verdict with
      | error e =>
        exact ⟨same, others, depth, fun h => (by cases h), fun y h => by cases h⟩
      | ok _ =>
        refine ⟨same, others, depth, fun h => (by cases h), fun y h => ⟨?_, fun _ id mem => ?_⟩⟩
        · exact (Except.ok.inj h).symm
        · rw [← valid rfl id mem]
          exact Store.satisfies_congr cleared.scene.symm rule id

/-- What leaving one watch does. The watch is as deep as it was before it was entered, and idle if
nothing was open then; there is a result only if there was one before, and, if the watch was idle,
only if all that it remembers satisfies the rule. -/
theorem leaveWatch_spec (rule : Rule) (place : Nat) (outermost : Bool) (outcome : Except Exit α)
    (w : World σ) (placed : place < w.store.watches.length) :
    let left := leaveWatch rule place outermost (outcome, w)
    w.store.OnlyWatches left.2.store ∧
      (∀ other, other ≠ place → left.2.store.watch other = w.store.watch other) ∧
      ((w.store.watch place).depth = 1 → left.2.store.watch place = .idle) ∧
      (outermost = false → left.2.store.watch place = (w.store.watch place).exit) ∧
      ∀ x, left.1 = .ok x → outcome = .ok x ∧ (outermost = true →
        ∀ id ∈ (w.store.watch place).touched, (w.store.satisfies rule id).1 = .ok true) := by
  have exit : ∀ v : World σ, w.store.OnlyWatches v.store →
      (∀ other, other ≠ place → v.store.watch other = w.store.watch other) →
      (v.store.watch place).depth = (w.store.watch place).depth →
      w.store.OnlyWatches (v.store.onWatch place Watch.exit) ∧
        (∀ other, other ≠ place →
          (v.store.onWatch place Watch.exit).watch other = w.store.watch other) ∧
        (v.store.onWatch place Watch.exit).watch place = (v.store.watch place).exit ∧
        ((w.store.watch place).depth = 1 →
          (v.store.onWatch place Watch.exit).watch place = .idle) := by
    intro v same others depth
    have here : (v.store.onWatch place Watch.exit).watch place = (v.store.watch place).exit := by
      rw [Store.watch_onWatch, if_pos ⟨rfl, by rw [same.watches]; exact placed⟩]
    refine ⟨same.trans (.onWatch _ _ _), fun other apart => ?_, here, fun outer => ?_⟩
    · rw [Store.watch_onWatch, if_neg (fun h => apart h.1)]
      exact others other apart
    · rw [here]
      unfold Watch.exit
      rw [depth, outer]
      rfl
  cases outcome with
  | error e =>
    obtain ⟨same, others, here, outer⟩ := exit w (.refl _) (fun _ _ => rfl) rfl
    exact ⟨same, others, outer, fun _ => here, fun x h => by cases h⟩
  | ok y =>
    obtain ⟨same, others, depth, kept, valid⟩ := checkOnLeave_spec rule place outermost y w
    obtain ⟨same, others, here, outer⟩ := exit _ same others depth
    refine ⟨same, others, outer, fun inner => ?_, fun x h => ?_⟩
    · rw [← kept inner]
      exact here
    · obtain ⟨rfl, checked⟩ := valid x h
      exact ⟨rfl, checked⟩

end Action

namespace Stack

variable {σ α : Type}

/-- What leaving all watches does. Every watch is as deep as it was before it was entered, and idle
if nothing was open then; there is a result only if there was one before, and only if every watch
that was idle before remembers nothing that violates its rule. -/
theorem leaveAll_spec (before : Store) (layers : Stack)
    (distinct : (layers.rules.map Prod.snd).Nodup) (outcome : Except Exit α) (w : World σ)
    (placed : ∀ rule place, (rule, place) ∈ layers.rules → place < w.store.watches.length) :
    let left := layers.leaveAll before (outcome, w)
    w.store.OnlyWatches left.2.store ∧
      (∀ place ∉ layers.rules.map Prod.snd, left.2.store.watch place = w.store.watch place) ∧
      (∀ rule place, (rule, place) ∈ layers.rules →
        ((w.store.watch place).depth = 1 → left.2.store.watch place = .idle) ∧
        ((before.watch place).depth ≠ 0 →
          left.2.store.watch place = (w.store.watch place).exit)) ∧
      ∀ x, left.1 = .ok x → outcome = .ok x ∧
        ∀ rule place, (rule, place) ∈ layers.rules → (before.watch place).depth = 0 →
          ∀ id ∈ (w.store.watch place).touched, (w.store.satisfies rule id).1 = .ok true := by
  induction layers generalizing outcome w with
  | nil =>
    exact ⟨.refl _, fun _ _ => rfl, fun _ _ mem => (by cases mem),
      fun x h => ⟨h, fun _ _ mem => (by cases mem)⟩⟩
  | cons layer below ih =>
    cases layer with
    | hook hook => exact ih distinct outcome w placed
    | rule rule place =>
      obtain ⟨new, distinct⟩ := List.nodup_cons.mp distinct
      have apart : ∀ r p, (r, p) ∈ rules below → p ≠ place := by
        rintro r p mem rfl
        have member := List.mem_map_of_mem (f := Prod.snd) mem
        exact new member
      have here := placed rule place List.mem_cons_self
      obtain ⟨same, others, outer, inner, valid⟩ := Action.leaveWatch_spec rule place
        ((before.watch place).depth == 0) outcome w here
      unfold leaveAll
      generalize Action.leaveWatch rule place ((before.watch place).depth == 0) (outcome, w) = left
        at same others outer inner valid
      obtain ⟨outcome', v⟩ := left
      obtain ⟨same', others', watches', valid'⟩ := ih distinct outcome' v fun r p mem => by
        rw [same.watches]
        exact placed r p (List.mem_cons_of_mem _ mem)
      refine ⟨same.trans same', fun p out => ?_, fun r p mem => ?_, fun x h => ?_⟩
      · simp only [rules, List.map_cons, List.mem_cons, not_or] at out
        rw [others' p out.2, others p out.1]
      · rcases List.mem_cons.mp mem with top | mem
        · obtain ⟨rfl, rfl⟩ := Prod.mk.inj top
          rw [others' p new]
          exact ⟨outer, fun open' => inner (beq_false_of_ne open')⟩
        · rw [← others p (apart r p mem)]
          exact watches' r p mem
      · obtain ⟨result', checked'⟩ := valid' x h
        obtain ⟨result, checked⟩ := valid x result'
        refine ⟨result, fun r p mem idle id touched => ?_⟩
        rcases List.mem_cons.mp mem with top | mem
        · obtain ⟨rfl, rfl⟩ := Prod.mk.inj top
          exact checked (beq_iff_eq.mpr idle) id touched
        · rw [← Store.satisfies_congr same.scene]
          refine checked' r p mem idle id ?_
          rw [others p (apart r p mem)]
          exact touched

/-! ### What programs keep -/

open Annals.Action (Keeps)

/-- Properties of a store that do not depend on watches and are kept by what every program is made
of: new facts, writes that the journal hears of, and transactions whose bodies keep them. -/
structure Preserved {ι : Type} (Invariant : ι → Store → Prop) : Prop where
  watches : ∀ {i s s'}, s.OnlyWatches s' → Invariant i s → Invariant i s'
  inserts : ∀ {i s}, Invariant i s → Invariant i s.insert.2
  writes : ∀ {i s h listeners} (name : String) (value : Value),
    h.listeners = .journal :: listeners → Invariant i s → Invariant i (s.write h name value).2
  transactions : ∀ {σ α : Type} {body : Action σ α}, Keeps Invariant body →
    Keeps Invariant body.inTransaction

namespace Preserved

variable {ι : Type} {Invariant : ι → Store → Prop} (preserved : Preserved Invariant)
include preserved

theorem underWatch {body : Action σ α} (keeps : Keeps Invariant body) (rule : Rule)
    (place : Nat) : Keeps Invariant (body.underWatch rule place) := by
  intro i w kept
  have entered := preserved.watches (.onWatch w.store place Watch.enter) kept
  have after := keeps i { w with store := w.store.onWatch place Watch.enter } entered
  rw [Action.underWatch_apply]
  cases ended : body { w with store := w.store.onWatch place Watch.enter } with
  | mk outcome v =>
    rw [ended] at after
    cases outcome with
    | error e => exact preserved.watches (.onWatch _ _ _) after
    | ok x =>
      obtain ⟨same, -⟩ :=
        Action.checkOnLeave_spec rule place ((w.store.watch place).depth == 0) x v
      exact preserved.watches (same.trans (.onWatch _ _ _)) after

theorem transaction (layers : Stack) {body : Action σ α} (keeps : Keeps Invariant body) :
    Keeps Invariant (layers.transaction body) := by
  induction layers generalizing body with
  | nil => exact preserved.transactions keeps
  | cons layer below ih =>
    cases layer with
    | hook hook => exact ih keeps
    | rule rule place => exact ih (preserved.underWatch keeps rule place)

/-- Making a fact is kept to whatever the hooks do to the fact. -/
theorem insert (layers : Stack) : Keeps Invariant (layers.insert : Action σ Handle) := by
  induction layers with
  | nil => exact fun i w kept => preserved.inserts kept
  | cons layer below ih =>
    cases layer with
    | hook hook =>
      have writes : ∀ i id s name value, Invariant i s →
          Invariant i (s.write (handle below id) name value).2 :=
        fun i id s name value kept => preserved.writes name value rfl kept
      exact preserved.transaction below (decorated_keeps ih writes hook)
    | rule rule place =>
      refine ih.bind fun w h w' _ => ?_
      intro i v kept
      exact preserved.watches (.onWatch _ _ _) kept

theorem request {β : Type} (layers : Stack) (r : Request β) :
    Keeps Invariant (r.run layers : Action σ β) := by
  intro i w kept
  refine r.keeps (Invariant i) ?_ ?_ ?_ w kept
  · exact fun reports kept => preserved.watches (.of_reports reports) kept
  · exact fun w kept => preserved.insert layers i w kept
  · exact fun id objections name value s kept => preserved.writes name value rfl kept

/-- What is preserved is kept by every program over every stack. -/
theorem run (layers : Stack) (p : Program α) : Keeps Invariant (p.run layers : Action σ α) :=
  fun i w kept => p.keeps (fun i w => Invariant i w.store) (fun r => preserved.request layers r)
    (fun _ keeps => preserved.transaction layers keeps) i w kept

end Preserved

end Stack

end Annals
