import Annals.Proofs.Store.Verdict

/-!
# Rules above hooks

A hook below a layer of rules writes to a new fact before the layer has put its listener on it, and
in a transaction that the layer did not open. So where no transaction of the layer is open, nothing
that hooks below it write to a new fact is ever checked: `Stack.insert_rule_idle` says that making a
fact through the layer is making it below, with the listener added. In a transaction of the layer
the same fact is remembered and checked at the end, and writes through the handle are checked at
once. `Stack.insert_unjudged` states all three.
-/

set_option autoImplicit false

namespace Annals

namespace Store

variable {s : Store} {rule : Rule} {place : Nat}

/-- A change of a watch that changes nothing leaves the store as it is. -/
theorem onWatch_same {change : Watch → Watch} (same : change (s.watch place) = s.watch place) :
    s.onWatch place change = s := by
  have watches : s.watches.modify place change = s.watches := by
    apply List.ext_getElem?
    intro i
    rw [List.getElem?_modify]
    by_cases here : place = i
    · subst here
      cases found : s.watches[place]? with
      | none => rfl
      | some w =>
        have this : s.watch place = w := by simp [watch, List.getD_eq_getElem?_getD, found]
        rw [this] at same
        simp [same]
    · simp [here]
  unfold onWatch
  rw [watches]

/-- Where the watch of a rule is idle, a write that the rule hears of leaves a fact that satisfies
it, or it leaves the fact as it was. -/
theorem write_judged (sound : s.Sound) (idle : (s.watch place).depth = 0) {handle : Handle}
    (hears : .rule rule place ∈ handle.listeners) (name : String) (value : Value) :
    (s.write handle name value).2.properties handle.id = s.properties handle.id ∨
      ((s.write handle name value).2.satisfies rule handle.id).1 = .ok true := by
  rcases s.write_cases handle name value with same | ⟨p, change, added, ended⟩
  · rw [same]
    exact .inl rfl
  · obtain ⟨times, heard⟩ :=
      (s.written handle.id p).notify_heard handle.id change handle.listeners
    rcases ended with ⟨content, same⟩ | ⟨e, -, -, same⟩
    · right
      have satisfied := (notify_ok content hears).1 idle
      rw [same, satisfies_congr heard.scene]
      exact satisfied
    · left
      have register : (((s.written handle.id p).notify handle.id change
          handle.listeners).2.ledger.revert handle.id change).register = s.ledger.register := by
        rw [heard.ledger]
        exact Register.revert_replace (sound.solid handle.id) added
      rw [same]
      exact congrArg (fun r => (r.cell handle.id).properties) register

end Store

namespace Stack

open Annals.Action (Keeps)

variable {σ : Type} (rule : Rule) {place : Nat} (hooks : List Hook)

/-- Making a fact that fails, hooks included, leaves everything as it was. -/
theorem insert_undone {w : World σ} (sound : w.store.Sound) (closed : w.store.depth = 0) {e : Exit}
    (failed : (insert (hooks.map .hook) w).1 = .error e) :
    (insert (hooks.map .hook) w).2.store.depth = 0 ∧
      (insert (hooks.map .hook) w).2.store.ledger.sequence = w.store.ledger.sequence ∧
      (insert (hooks.map .hook) w).2.store.maps = w.store.maps := by
  cases hooks with
  | nil => cases failed
  | cons hook rest =>
    have writes : ∀ depth id s name value, w.store.Within depth s →
        w.store.Within depth (s.write (handle (rest.map .hook) id) name value).2 :=
      fun depth id s name value h => h.write rfl name value
    have below : Keeps w.store.Within (insert (rest.map .hook) : Action σ Handle) :=
      insert_within (rest.map .hook)
    have body := decorated_keeps below writes hook
    rw [List.map_cons, insert] at failed ⊢
    obtain ⟨depth, sequence, held⟩ := transaction_undone _ sound closed body failed
    exact ⟨depth, sequence, Store.maps_of_held sound sequence held⟩

/-- Where the watch of a layer of rules is idle, making a fact through the layer is making it below,
with one more listener: the rule is not looked at. -/
theorem insert_rule_idle {w : World σ} (idle : (w.store.watch place).depth = 0) :
    insert (.rule rule place :: hooks.map .hook) w =
      ((insert (hooks.map .hook) w).1.map (·.observedBy (.rule rule place)),
        (insert (hooks.map .hook) w).2) := by
  have watches := insert_watches hooks w.store.watches w rfl
  rw [insert, Action.bind_apply]
  cases ended : (insert (hooks.map .hook) : Action σ Handle) w with
  | mk outcome v =>
    rw [ended] at watches
    cases outcome with
    | error e => rfl
    | ok h =>
      have deaf : (v.store.watch place).touch h.id = v.store.watch place := by
        rw [Store.watch_of_watches watches]
        unfold Watch.touch
        rw [if_pos (.inl idle)]
      have same : v.store.onWatch place (·.touch h.id) = v.store := Store.onWatch_same deaf
      simp only [Action.bind_apply, Action.change_apply, same]
      rfl

/-- Making a fact through a layer of rules above hooks, where no transaction is open, either fails
and leaves everything as it was, or ends with the fact as the hooks left it; the rule is not looked
at. Every later write through the handle is judged, and so is the fact itself where the same is done
in a transaction of the layer: then it either satisfies the rule, or nothing is left of it. -/
theorem insert_unjudged (w : World σ) (reachable : w.store.Reachable) (closed : w.store.depth = 0)
    (placed : place < w.store.watches.length) (idle : w.store.watch place = .idle) :
    let layers : Stack := .rule rule place :: hooks.map .hook
    let below : Except Exit Handle × World σ := insert (hooks.map .hook) w
    let made : Except Exit Handle × World σ := layers.insert w
    let judged : Except Exit Handle × World σ := layers.transaction layers.insert w
    made = (below.1.map (·.observedBy (.rule rule place)), below.2) ∧
    (∀ e, made.1 = .error e → made.2.store.maps = w.store.maps) ∧
    (∀ h, made.1 = .ok h → ∀ s : Store, s.Reachable → (s.watch place).depth = 0 →
      ∀ name value, (s.write h name value).2.properties h.id = s.properties h.id ∨
        ((s.write h name value).2.satisfies rule h.id).1 = .ok true) ∧
    (∀ h, judged.1 = .ok h → (judged.2.store.satisfies rule h.id).1 = .ok true) ∧
    (∀ e, judged.1 = .error e → judged.2.store.maps = w.store.maps) := by
  intro layers below made judged
  have depth : (w.store.watch place).depth = 0 := by
    rw [idle]
    rfl
  have same : made = _ := insert_rule_idle rule hooks depth
  obtain ⟨placed', inside⟩ := begin_inside rule hooks placed
  have noted := insert_noted rule hooks placed' inside
  obtain ⟨passes, -, kept, undone, -⟩ := transaction_judged rule hooks reachable.sound closed placed
    idle (insert_within layers) noted
  refine ⟨same, fun e failed => ?_, fun h ok => ?_, fun h ok => ?_, fun e failed => ?_⟩
  · rw [same] at failed ⊢
    cases outcome : below.1 with
    | ok h =>
      rw [outcome] at failed
      cases failed
    | error e' => exact (insert_undone hooks reachable.sound closed outcome).2.2
  · intro s reachable' idle' name value
    have given := insert_handle layers (Prod.ext ok rfl)
    have hears : .rule rule place ∈ h.listeners := by
      rw [given]
      exact List.mem_cons_of_mem _ (mem_listeners List.mem_cons_self)
    exact Store.write_judged reachable'.sound idle' hears name value
  · obtain ⟨result, satisfied⟩ := (passes h).mp ok
    rw [Store.satisfies_congr (kept h ok).2]
    exact satisfied h.id ⟨h, result, rfl⟩
  · obtain ⟨sequence, held⟩ := undone e failed
    exact Store.maps_of_held reachable.sound sequence held

/-- The rule that no fact says hello. -/
def silent : Rule := ⟨.node .absent [.symbol "hello"], none⟩

/-- The hook that makes every new fact say hello. -/
def greet : Hook := .ofSteps [.write "hello" (.int 42)]

theorem maps_insert_greet : (insert [.hook greet] (⟨bare, ()⟩ : World Unit)).2.store.maps =
    [⟨[("hello", [.int 42])]⟩] := rfl

theorem transaction_insert_greet : ((transaction [.rule silent 0, .hook greet]
    (insert [.rule silent 0, .hook greet]) (⟨bare, ()⟩ : World Unit)).1).isOk = false := by
  decide +kernel

/-- Where no transaction is open, a fact that says hello gets past the rule that no fact does; in a
transaction of the layer it does not. -/
theorem insert_unjudged_greet :
    (insert [.rule silent 0, .hook greet] (⟨bare, ()⟩ : World Unit)).2.store.maps =
        [⟨[("hello", [.int 42])]⟩] ∧
      (transaction [.rule silent 0, .hook greet] (insert [.rule silent 0, .hook greet])
        (⟨bare, ()⟩ : World Unit)).2.store.maps = [] := by
  have placed : 0 < bare.watches.length := Nat.one_pos
  obtain ⟨same, -, -, -, undone⟩ :=
    insert_unjudged silent [greet] (⟨bare, ()⟩ : World Unit) bare_reachable rfl placed rfl
  rw [List.map_singleton] at same undone
  constructor
  · rw [same]
    exact maps_insert_greet
  · have fails := transaction_insert_greet
    cases outcome : (transaction [.rule silent 0, .hook greet]
        (insert [.rule silent 0, .hook greet]) (⟨bare, ()⟩ : World Unit)).1 with
    | ok h =>
      rw [outcome] at fails
      cases fails
    | error e => exact undone e outcome

/-- A fact that holds something, and that violates the rule of the layer, enters the store when it
is made through the layer. -/
theorem greeting_enters :
    let made : Except Exit Handle × World Unit :=
      insert [.rule silent 0, .hook greet] ⟨bare, ()⟩
    bare.depth = 0 ∧ bare.watch 0 = .idle ∧
      made.1 = .ok ⟨⟨0⟩, [.journal, .rule silent 0]⟩ ∧ made.2.store.ledger.sequence = [⟨0⟩] ∧
      made.2.store.properties ⟨0⟩ = ⟨[("hello", [.int 42])]⟩ ∧
      (made.2.store.satisfies silent ⟨0⟩).1 = .ok false := by
  intro made
  exact ⟨rfl, rfl, rfl, rfl, rfl, rfl⟩

end Stack

end Annals
