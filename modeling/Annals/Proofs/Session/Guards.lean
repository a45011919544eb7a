import Annals.Proofs.Store.Atomicity
import Annals.Session.Guards

/-!
# Guards that are closed in any order

Whether a transaction is the outermost one is settled when it is opened, while the depth, the
journal and the length to cut back to are shared by all that are open. So a guard can outlive the
outermost one, and leave entries in the journal that belong to no transaction. `Guarded.Coherent`
is what the guards and the ledger agree on nevertheless, and `Guarded.Since` is what the journal
is worth as long as the outermost guard is open. `Move` lists all that a step can do, and both
invariants are kept move by move; `Guarded.any_order` puts together what they say about all runs.
-/

set_option autoImplicit false

namespace Annals

namespace Store

/-- Two stores with the same sequence, in which every fact holds the same. -/
def SameFacts (s s' : Store) : Prop :=
  s'.ledger.sequence = s.ledger.sequence ∧ s'.properties = s.properties

variable {s : Store}

/-- A write that only the journal hears of adds a value, and is entered, or does nothing. -/
theorem write_journal (s : Store) (id : FactId) (name : String) (value : Value) :
    (s.write ⟨id, [.journal]⟩ name value).2 = s ∨
      ∃ p change, (s.properties id).append name value = (p, some change) ∧
        (s.write ⟨id, [.journal]⟩ name value).2 =
          (s.written id p).withLedger ((s.written id p).ledger.record id change) := by
  rcases s.write_cases ⟨id, [.journal]⟩ name value with same | ⟨p, change, added, ended⟩
  · exact .inl same
  · right
    refine ⟨p, change, added, ?_⟩
    rcases ended with ⟨-, same⟩ | ⟨e, failed, -⟩
    · rw [same]
      rfl
    · cases failed

/-- Closing a transaction counts if it is the outermost one. -/
theorem closed_closeTransaction (outermost success : Bool) :
    (s.closeTransaction outermost success).ledger.committed
        + (s.closeTransaction outermost success).ledger.rolledBack
      = s.ledger.committed + s.ledger.rolledBack + (if outermost then 1 else 0) := by
  cases outermost with
  | false => rfl
  | true =>
    cases success with
    | true =>
      show s.ledger.committed + 1 + s.ledger.rolledBack = _
      simp only [if_true]
      omega
    | false => rfl

/-- Only rolling back the outermost transaction changes facts. -/
theorem sameFacts_closeTransaction {outermost success : Bool}
    (kept : success = true ∨ outermost = false) :
    s.SameFacts (s.closeTransaction outermost success) := by
  cases outermost with
  | false => exact ⟨rfl, rfl⟩
  | true =>
    rcases kept with rfl | no
    · exact ⟨rfl, rfl⟩
    · cases no

end Store

namespace Session.Guarded

/-- The state after some steps. -/
def after (steps : List GuardStep) (g : Guarded) : Guarded := (run steps g).2

/-- How many guards are open. -/
def openGuards (g : Guarded) : Nat := g.guards.countP (·.isOpen)

/-- How many guards of outermost transactions are closed. -/
def settledGuards (g : Guarded) : Nat :=
  g.guards.countP fun guard => guard.outermost && !guard.isOpen

/-- All that a step can do. -/
inductive Move : Guarded → Guarded → Prop where
  | stay (g : Guarded) : Move g g
  | begin (g : Guarded) :
    Move g ⟨g.store.openTransaction.2, g.guards ++ [⟨g.store.openTransaction.1, true⟩]⟩
  | close (g : Guarded) {i : Nat} {outermost : Bool}
    (opened : g.guards[i]? = some ⟨outermost, true⟩) (success : Bool) :
    Move g ⟨g.store.closeTransaction outermost success, g.guards.set i ⟨outermost, false⟩⟩
  | add (g : Guarded) : Move g ⟨g.store.insert.2, g.guards⟩
  | write (g : Guarded) (fact : Nat) (property : String) (value : Value) :
    Move g ⟨(g.store.write (handle fact) property value).2, g.guards⟩

variable {g g' : Guarded}

/-- A guard is closed if it is open, and otherwise nothing happens. -/
theorem close_cases (g : Guarded) (i : Nat) (success : Bool) :
    (∃ outermost, g.guards[i]? = some ⟨outermost, true⟩ ∧ (g.close i success).2 =
        ⟨g.store.closeTransaction outermost success, g.guards.set i ⟨outermost, false⟩⟩) ∨
      (g.close i success).2 = g := by
  unfold close
  split
  · next outermost opened => exact .inl ⟨outermost, opened, rfl⟩
  · exact .inr rfl

theorem close_move (g : Guarded) (i : Nat) (success : Bool) : Move g (g.close i success).2 := by
  rcases g.close_cases i success with ⟨outermost, opened, closed⟩ | same
  · rw [closed]
    exact .close g opened success
  · rw [same]
    exact .stay g

theorem step_move (g : Guarded) (step : GuardStep) : Move g (g.step step).2 := by
  cases step with
  | begin => exact .begin g
  | commit i => exact g.close_move i true
  | rollBack i => exact g.close_move i false
  | drop i => exact g.close_move i false
  | add => exact .add g
  | set fact property value =>
    have written := Move.write g fact property value
    simp only [Guarded.step]
    split
    · next ended =>
      rw [ended] at written
      exact written
    · next ended =>
      rw [ended] at written
      exact written

/-- What every move keeps, a run keeps. -/
theorem after_keeps {P : Guarded → Prop} (moves : ∀ g g', P g → Move g g' → P g')
    (steps : List GuardStep) (g : Guarded) (kept : P g) : P (after steps g) := by
  induction steps generalizing g with
  | nil => exact kept
  | cons step rest ih => exact ih _ (moves g _ kept (g.step_move step))

/-- What the guards and the ledger agree on. -/
structure Coherent (g : Guarded) : Prop where
  depth : g.store.depth = g.openGuards
  /-- No two open guards are outermost. -/
  single : ∀ i j : Nat, g.guards[i]? = some ⟨true, true⟩ → g.guards[j]? = some ⟨true, true⟩ → i = j
  settled : g.store.ledger.committed + g.store.ledger.rolledBack = g.settledGuards
  sound : g.store.Sound

theorem openGuards_pos {i : Nat} {outermost : Bool}
    (opened : g.guards[i]? = some ⟨outermost, true⟩) : 0 < g.openGuards :=
  List.countP_pos_iff.mpr ⟨⟨outermost, true⟩, List.mem_of_getElem? opened, rfl⟩

namespace Coherent

theorem empty : Guarded.empty.Coherent := by
  refine ⟨rfl, fun i j opened => ?_, rfl, ?_⟩
  · cases opened
  · exact (Store.Reachable.create .standard .empty).sound

/-- The transaction of an open guard is counted in the depth. -/
theorem depth_pos (h : g.Coherent) {i : Nat} {outermost : Bool}
    (opened : g.guards[i]? = some ⟨outermost, true⟩) : g.store.ledger.depth ≠ 0 := by
  have counted : g.store.ledger.depth = g.openGuards := h.depth
  have positive := openGuards_pos opened
  omega

/-- Where no transaction is open, no guard is. -/
theorem none_open (h : g.Coherent) (closed : g.store.ledger.depth = 0) (i : Nat)
    (outermost : Bool) : g.guards[i]? ≠ some ⟨outermost, true⟩ :=
  fun opened => h.depth_pos opened closed

/-- A new guard is outermost only if no other one is open. -/
theorem begin (h : g.Coherent) : Coherent
    ⟨g.store.openTransaction.2, g.guards ++ [⟨g.store.openTransaction.1, true⟩]⟩ := by
  have sound : g.store.openTransaction.2.Sound := h.sound.step (.openTransaction g.store)
  have count : g.store.ledger.depth = g.openGuards := h.depth
  have settled := h.settled
  by_cases closed : g.store.ledger.depth = 0
  · rw [Store.openTransaction_outermost closed] at sound ⊢
    have new : ∀ i : Nat, (g.guards ++ [⟨true, true⟩])[i]? = some ⟨true, true⟩ →
        i = g.guards.length := by
      intro i opened
      rw [List.getElem?_append] at opened
      split at opened
      · exact absurd opened (h.none_open closed i true)
      · next late =>
        have one := (List.getElem?_eq_some_iff.mp opened).1
        simp only [List.length_singleton] at one
        omega
    refine ⟨?_, fun i j first second => (new i first).trans (new j second).symm, ?_, sound⟩
    · show 1 = _
      simp only [openGuards] at count ⊢
      simp [List.countP_append, ← count, closed]
    · show g.store.ledger.committed + g.store.ledger.rolledBack = _
      simpa [settledGuards, List.countP_append] using settled
  · rw [Store.openTransaction_nested closed] at sound ⊢
    have older : ∀ i : Nat, (g.guards ++ [⟨false, true⟩])[i]? = some ⟨true, true⟩ →
        g.guards[i]? = some ⟨true, true⟩ := by
      intro i opened
      rw [List.getElem?_append] at opened
      split at opened
      · exact opened
      · have last := List.mem_singleton.mp (List.mem_of_getElem? opened)
        cases last
    refine ⟨?_, fun i j first second => h.single i j (older i first) (older j second), ?_, sound⟩
    · show g.store.ledger.depth + 1 = _
      simp only [openGuards] at count ⊢
      simp [List.countP_append, count]
    · show g.store.ledger.committed + g.store.ledger.rolledBack = _
      simpa [settledGuards, List.countP_append] using settled

theorem close (h : g.Coherent) {i : Nat} {outermost : Bool}
    (opened : g.guards[i]? = some ⟨outermost, true⟩) (success : Bool) : Coherent
    ⟨g.store.closeTransaction outermost success, g.guards.set i ⟨outermost, false⟩⟩ := by
  obtain ⟨bound, this⟩ := List.getElem?_eq_some_iff.mp opened
  have positive := openGuards_pos opened
  refine ⟨?_, fun j k first second => ?_, ?_, h.sound.step (.closeTransaction _ _ _)⟩
  · have count := h.depth
    show (g.store.closeTransaction outermost success).depth = _
    rw [Store.depth_closeTransaction, count]
    simp only [openGuards, List.countP_set bound, this, if_true, Bool.false_eq_true, if_false]
    rfl
  · -- what is open now was open before
    have before : ∀ j : Nat, (g.guards.set i ⟨outermost, false⟩)[j]? = some ⟨true, true⟩ →
        g.guards[j]? = some ⟨true, true⟩ := by
      intro j now
      rw [List.getElem?_set] at now
      split at now
      · cases now
      · exact now
    exact h.single j k (before j first) (before k second)
  · show (g.store.closeTransaction outermost success).ledger.committed
      + (g.store.closeTransaction outermost success).ledger.rolledBack = _
    rw [Store.closed_closeTransaction, h.settled]
    simp only [settledGuards, List.countP_set bound, this, Bool.not_true, Bool.and_false,
      Bool.false_eq_true, if_false, Nat.sub_zero, Bool.not_false, Bool.and_true]

/-- Every move leaves the guards and the ledger in agreement. -/
theorem move (h : g.Coherent) (move : Move g g') : g'.Coherent := by
  cases move with
  | stay => exact h
  | begin => exact h.begin
  | close opened success => exact h.close opened success
  | add => exact ⟨h.depth, h.single, h.settled, h.sound.step (.insert g.store)⟩
  | write fact property value =>
    have sound := h.sound.write (handle fact) property value
    rcases g.store.write_journal ⟨fact⟩ property value with same | ⟨p, change, -, same⟩
    · rw [handle, same]
      exact h
    · rw [handle] at sound ⊢
      rw [same] at sound ⊢
      refine ⟨?_, h.single, ?_, sound⟩
      · have count := h.depth
        unfold Ledger.record
        split
        · exact count
        · exact count
      · have settled := h.settled
        unfold Ledger.record
        split
        · exact settled
        · exact settled

theorem after (h : g.Coherent) (steps : List GuardStep) : (Guarded.after steps g).Coherent :=
  after_keeps (fun _ _ kept moved => Coherent.move kept moved) steps g h

end Coherent

/-- An outermost transaction was opened on `base`, and its guard is open: undoing what the journal
holds gives what every fact held then, and the sequence has only grown. -/
structure Since (base : Store) (g : Guarded) : Prop where
  sequence : base.ledger.sequence <+: g.store.ledger.sequence
  baseLength : g.store.ledger.baseLength = base.ledger.sequence.length
  restored : (Ledger.undo g.store.ledger.register g.store.ledger.writes).contents = base.properties

namespace Since

variable {base : Store} {n : Nat}

theorem start (closed : g.store.ledger.depth = 0) : Since g.store (g.step .begin).2 := by
  have opened : (g.step .begin).2.store = g.store.openTransaction.2 := rfl
  have ledger : (g.step .begin).2.store.ledger = { g.store.ledger with
      depth := 1, baseLength := g.store.ledger.size, writes := [] } := by
    rw [opened, Store.openTransaction_outermost closed]
    rfl
  constructor
  · exact ⟨[], (List.append_nil _).trans (congrArg Ledger.sequence ledger).symm⟩
  · exact congrArg Ledger.baseLength ledger
  · exact congrArg (fun ledger => (Ledger.undo ledger.register ledger.writes).contents) ledger

/-- A guard that is open was open before, unless it is new. -/
theorem open_before (move : Move g g') (old : n < g.guards.length)
    (opened : g'.guards[n]? = some ⟨true, true⟩) : g.guards[n]? = some ⟨true, true⟩ := by
  cases move with
  | stay => exact opened
  | begin =>
    rw [List.getElem?_append_left old] at opened
    exact opened
  | close _ _ =>
    rw [List.getElem?_set] at opened
    split at opened
    · split at opened
      · cases opened
      · cases opened
    · exact opened
  | add => exact opened
  | write => exact opened

/-- As long as the outermost guard stays open, every move can be undone. -/
theorem move (h : Since base g) (coherent : g.Coherent) (mine : g.guards[n]? = some ⟨true, true⟩)
    (move : Move g g') (still : g'.guards[n]? = some ⟨true, true⟩) : Since base g' := by
  have inside := coherent.depth_pos mine
  cases move with
  | stay => exact h
  | begin =>
    rw [Store.openTransaction_nested inside]
    exact ⟨h.sequence, h.baseLength, h.restored⟩
  | @close i outermost opened success =>
    -- the guard that was closed is another one, so it is not outermost
    have other : i ≠ n := by
      rintro rfl
      have bound := (List.getElem?_eq_some_iff.mp opened).1
      rw [List.getElem?_set_self bound] at still
      cases still
    cases outermost with
    | true => exact absurd (coherent.single i n opened mine) other
    | false => exact ⟨h.sequence, h.baseLength, h.restored⟩
  | add =>
    refine ⟨h.sequence.trans (List.prefix_append _ _), h.baseLength, ?_⟩
    have same : (g.store.ledger.register.add .empty g.store.config.reservedNames).contents
        = g.store.ledger.register.contents := by
      funext id
      rw [Register.contents, Register.cell_add]
      split
      · next new =>
        rw [new]
        simp [Register.contents, Register.cell, Register.nextId]
      · rfl
    have undone := Ledger.contents_undo_congr g.store.ledger.writes same
    exact undone.trans h.restored
  | write fact property value =>
    rw [handle]
    rcases g.store.write_journal ⟨fact⟩ property value with same | ⟨p, change, added, same⟩
    · rw [same]
      exact h
    · rw [same]
      have entered : (g.store.written ⟨fact⟩ p).ledger.record ⟨fact⟩ change =
          { g.store.ledger with
            register := g.store.ledger.register.replace ⟨fact⟩ p
            writes := (⟨fact⟩, change) :: g.store.ledger.writes } := by
        unfold Ledger.record
        exact if_neg inside
      rw [entered]
      refine ⟨h.sequence, h.baseLength, ?_⟩
      have undone := Ledger.undo_replace (coherent.sound.solid ⟨fact⟩) added 0
        g.store.ledger.writes
      exact (congrArg Register.contents undone).trans h.restored

/-- Closing the outermost guard without success gives back what there was. -/
theorem rollBack (h : Since base g) : base.SameFacts (g.store.closeTransaction true false) := by
  refine ⟨?_, h.restored⟩
  show g.store.ledger.sequence.take g.store.ledger.baseLength = base.ledger.sequence
  rw [h.baseLength]
  exact (List.prefix_iff_eq_take.mp h.sequence).symm

/-- As long as the guard of an outermost transaction is open, the journal is worth something. -/
theorem after (coherent : g.Coherent) (steps : List GuardStep)
    (opened : (after steps (g.step .begin).2).guards[g.guards.length]? = some ⟨true, true⟩) :
    Since g.store (Guarded.after steps (g.step .begin).2) := by
  have new : (g.step .begin).2.guards = g.guards ++ [⟨g.store.openTransaction.1, true⟩] := rfl
  have first : (g.step .begin).2.guards[g.guards.length]? = some ⟨true, true⟩ →
      Since g.store (g.step .begin).2 := by
    intro outermost
    by_cases closed : g.store.ledger.depth = 0
    · exact start closed
    · rw [new, Store.openTransaction_nested closed, List.getElem?_concat_length] at outermost
      cases outermost
  have kept := after_keeps
    (P := fun g' => g'.Coherent ∧ g.guards.length < g'.guards.length ∧
      (g'.guards[g.guards.length]? = some ⟨true, true⟩ → Since g.store g'))
    (fun g₁ g₂ kept moved => by
      obtain ⟨coherent, long, since⟩ := kept
      refine ⟨coherent.move moved, ?_, fun still => ?_⟩
      · cases moved with
        | begin =>
          rw [List.length_append]
          omega
        | close =>
          rw [List.length_set]
          exact long
        | _ => exact long
      · have before := open_before moved long still
        exact (since before).move coherent before moved still)
    steps (g.step .begin).2
    ⟨coherent.begin, by rw [new, List.length_append]; exact Nat.lt_succ_self _, first⟩
  exact kept.2.2 opened

end Since

/-- Whatever order guards are closed in, the depth is the number of the open ones, no two of which
are outermost, and the transactions that are counted are the outermost ones whose guards are closed.
Committing, and closing a guard that is not outermost, changes no fact and not the sequence. As long
as an outermost guard is open, rolling it back or dropping it gives the sequence and what every fact
held when it was opened, a fact that was made since then being empty, also if other guards are open.
-/
theorem any_order (before : List GuardStep) :
    let g := after before empty
    g.store.depth = g.openGuards ∧
    (∀ i j : Nat, g.guards[i]? = some ⟨true, true⟩ → g.guards[j]? = some ⟨true, true⟩ → i = j) ∧
    g.store.ledger.committed + g.store.ledger.rolledBack = g.settledGuards ∧
    (∀ i, g.store.SameFacts (g.step (.commit i)).2.store) ∧
    (∀ i : Nat, g.guards[i]? = some ⟨false, true⟩ →
      g.store.SameFacts (g.step (.rollBack i)).2.store ∧
      g.store.SameFacts (g.step (.drop i)).2.store) ∧
    ∀ during : List GuardStep,
      let later := after during (g.step .begin).2
      later.guards[g.guards.length]? = some ⟨true, true⟩ →
        g.store.SameFacts (later.step (.rollBack g.guards.length)).2.store ∧
        g.store.SameFacts (later.step (.drop g.guards.length)).2.store := by
  intro g
  have coherent : g.Coherent := Coherent.empty.after before
  have unchanged : ∀ (i : Nat) (success : Bool),
      (∀ outermost, g.guards[i]? = some ⟨outermost, true⟩ → success = true ∨ outermost = false) →
        g.store.SameFacts (g.close i success).2.store := by
    intro i success harmless
    rcases g.close_cases i success with ⟨outermost, opened, closed⟩ | same
    · rw [closed]
      exact Store.sameFacts_closeTransaction (harmless outermost opened)
    · rw [same]
      exact ⟨rfl, rfl⟩
  refine ⟨coherent.depth, coherent.single, coherent.settled, ?_, ?_, ?_⟩
  · intro i
    exact unchanged i true fun _ _ => .inl rfl
  · intro i inner
    have harmless : ∀ outermost, g.guards[i]? = some ⟨outermost, true⟩ →
        false = true ∨ outermost = false := by
      intro outermost opened
      rw [inner] at opened
      cases opened
      exact .inr rfl
    exact ⟨unchanged i false harmless, unchanged i false harmless⟩
  · intro during later opened
    have since : Since g.store later := Since.after coherent during opened
    have closed : (later.close g.guards.length false).2.store =
        later.store.closeTransaction true false := by
      unfold close
      rw [opened]
    have restored := since.rollBack
    rw [← closed] at restored
    exact ⟨restored, restored⟩

/-- A fact with a value is there when a transaction is opened. The guard of a transaction inside is
still open when the outermost one is rolled back, with a second value and a second fact. -/
theorem any_order_outlived :
    let g := after [.add, .set 0 "x" (.int 1)] empty
    let later := after [.set 0 "x" (.int 2), .begin, .add, .set 1 "y" (.int 3)] (g.step .begin).2
    later.guards = [⟨true, true⟩, ⟨false, true⟩] ∧
      later.facts = [⟨[("x", [.int 1, .int 2])]⟩, ⟨[("y", [.int 3])]⟩] ∧
      (later.step (.rollBack 0)).2.store.ledger.sequence = [⟨0⟩] ∧
      (later.step (.rollBack 0)).2.store.properties ⟨0⟩ = ⟨[("x", [.int 1])]⟩ ∧
      (later.step (.rollBack 0)).2.store.depth = 1 := by
  intro g later
  have opened : later.guards[g.guards.length]? = some ⟨true, true⟩ := by decide
  obtain ⟨-, -, -, -, -, restores⟩ := any_order [.add, .set 0 "x" (.int 1)]
  obtain ⟨sequence, properties⟩ := (restores _ opened).1
  refine ⟨by decide, by decide, ?_, ?_, by decide⟩
  · exact sequence
  · have held := congrFun properties ⟨0⟩
    exact held

end Session.Guarded

end Annals
