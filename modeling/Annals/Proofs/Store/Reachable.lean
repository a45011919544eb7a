import Annals.Proofs.Outcome
import Annals.Proofs.Store.Frame
import Annals.Store.Content

/-!
# The states of a store

`Store.Reachable` holds of every state that a store can get into, by any operations in any order,
with transactions that may be opened and closed in any order as well. Two things are said about
every single step. What writing a checked value and undoing a write keep of one fact
(`Cell.Stable`) is kept of every fact by every step (`stable_step`). And a step makes facts but
unmakes none, and puts only new facts into the sequence (`Step.grows`).

`Store.Sound` is what the other proofs about stores need: no history is empty, and the sequence
names only facts that were made. `Store.Listed` says more about the sequence: it names every fact
once, and its facts refuse the names that the store reserves.
-/

set_option autoImplicit false

namespace Annals

namespace Store

/-- One thing that can happen to a store. -/
inductive Step : Store → Store → Prop where
  | insert (s : Store) : Step s s.insert.2
  | makeFree (s : Store) {pairs : FactMap} {p : Properties}
    (made : Properties.ofPairs [] pairs = .ok p) : Step s (s.withLedger (s.ledger.makeFree p).2)
  | write (s : Store) (h : Handle) (name : String) (value : Value) : Step s (s.write h name value).2
  | replaceWith (s : Store) (maps : List FactMap) : Step s (s.replaceWith maps).2
  | openTransaction (s : Store) : Step s s.openTransaction.2
  | closeTransaction (s : Store) (outermost success : Bool) :
    Step s (s.closeTransaction outermost success)
  | watches (s : Store) (watches : List Watch) : Step s { s with watches := watches }
  | report (s : Store) (events : List Event) : Step s { s with events := events }

/-- The states that a store can get into. -/
inductive Reachable : Store → Prop where
  | create (config : Config) (registry : Registry) : Reachable (.create config registry)
  | step {s s' : Store} (before : Reachable s) (step : Step s s') : Reachable s'

/-- What every state of a store has in common. -/
structure Sound (s : Store) : Prop where
  solid : ∀ id, (s.properties id).Solid
  made : ∀ id ∈ s.ledger.sequence, id.index < s.ledger.register.cells.size

end Store

/-- What is so of a fact without properties, and stays so by writing and by undoing. -/
structure Cell.Stable (P : Cell → Prop) : Prop where
  new : ∀ reserved, P ⟨.empty, reserved⟩
  /-- A value is only added after the check of the name and the value. -/
  append : ∀ {cell : Cell} {name : String} {value : Value}, P cell →
    Properties.check cell.reserved name value = .ok () →
      P { cell with properties := (cell.properties.append name value).1 }
  truncate : ∀ {cell : Cell} (change : Change), P cell →
    P { cell with properties := cell.properties.truncate change }

namespace Properties

/-- The same for what is so of the properties, whatever names the fact refuses. -/
structure Stable (P : Properties → Prop) : Prop where
  empty : P .empty
  append : ∀ {p : Properties} {reserved : List String} {name : String} {value : Value},
    P p → check reserved name value = .ok () → P (p.append name value).1
  truncate : ∀ {p : Properties} (change : Change), P p → P (p.truncate change)

theorem Stable.cells {P : Properties → Prop} (stable : Stable P) :
    Cell.Stable fun cell => P cell.properties where
  new := fun _ => stable.empty
  append := fun before checked => stable.append before checked
  truncate := fun change before => stable.truncate change before

theorem stable_solid : Stable Solid where
  empty := solid_empty
  append := fun solid _ => solid_append solid _ _
  truncate := fun change solid => solid_truncate solid change

/-- What every step of a fold keeps, the fold keeps if it succeeds. -/
theorem foldlM_keeps {α : Type} (Invariant : Properties → Prop)
    {f : Properties → α → Except PropertyFault Properties}
    (step : ∀ p x p', Invariant p → f p x = .ok p' → Invariant p') (xs : List α) :
    ∀ p p', Invariant p → xs.foldlM f p = .ok p' → Invariant p' := by
  induction xs with
  | nil =>
    intro p p' kept ended
    have same : p = p' := Except.ok.inj ended
    rw [← same]
    exact kept
  | cons x rest ih =>
    intro p p' kept ended
    rw [List.foldlM_cons] at ended
    obtain ⟨next, first, later⟩ := bind_eq_ok.mp ended
    exact ih next p' (step p x next kept first) later

end Properties

namespace Cell.Stable

variable {P : Cell → Prop} {p p' : Properties} {reserved : List String}

theorem set (stable : Stable P) (before : P ⟨p, reserved⟩) {name : String} {value : Value}
    (written : p.set reserved name value = .ok p') : P ⟨p', reserved⟩ := by
  obtain ⟨_, checked, ended⟩ := bind_eq_ok.mp written
  cases ended
  exact stable.append before checked

theorem ofPairs (stable : Stable P) {pairs : List (String × List Value)}
    (made : Properties.ofPairs reserved pairs = .ok p) : P ⟨p, reserved⟩ := by
  refine Properties.foldlM_keeps (fun p => P ⟨p, reserved⟩)
    (fun p pair p' before written => ?_) pairs Properties.empty p (stable.new reserved) made
  obtain ⟨name, values⟩ := pair
  have written : p.setAll reserved name values = .ok p' := written
  unfold Properties.setAll at written
  split at written
  · cases written
  · exact Properties.foldlM_keeps (fun p => P ⟨p, reserved⟩)
      (fun _ _ _ before written => stable.set before written) _ p p' before written

end Cell.Stable

namespace Ledger

/-- Undoing writes changes a fact in the same way wherever it holds the same. -/
theorem undo_congr (writes : List (FactId × Change)) {r r' : Register} {id : FactId}
    (same : r.cell id = r'.cell id) : (undo r writes).cell id = (undo r' writes).cell id := by
  induction writes generalizing r r' with
  | nil => exact same
  | cons entry rest ih =>
    obtain ⟨other, change⟩ := entry
    apply ih
    simp only [Register.cell_revert, Register.contents]
    split
    · next here => rw [← here, same]
    · exact same

end Ledger

namespace Register

/-- What adding several facts makes of the cells. -/
theorem addAll_eq (reserved : List String) (facts : List Properties) (r : Register) :
    facts.foldl (fun r p => r.add p reserved) r
      = ⟨r.cells ++ (facts.map fun p => (⟨p, reserved⟩ : Cell)).toArray⟩ := by
  induction facts generalizing r with
  | nil => simp
  | cons p rest ih =>
    rw [List.foldl_cons, ih]
    simp [add]

/-- Adding several facts makes that many. -/
theorem size_addAll (reserved : List String) (facts : List Properties) (r : Register) :
    (facts.foldl (fun r p => r.add p reserved) r).cells.size = r.cells.size + facts.length := by
  simp [addAll_eq]

/-- Every fact of a register is in another one, where it refuses the same names. -/
structure Extends (r r' : Register) : Prop where
  size : r.cells.size ≤ r'.cells.size
  reserved : ∀ id, id.index < r.cells.size → (r'.cell id).reserved = (r.cell id).reserved

theorem Extends.refl (r : Register) : r.Extends r := ⟨Nat.le_refl _, fun _ _ => rfl⟩

theorem Extends.trans {r r' r'' : Register} (first : r.Extends r') (second : r'.Extends r'') :
    r.Extends r'' := by
  refine ⟨Nat.le_trans first.size second.size, fun id old => ?_⟩
  rw [second.reserved id (Nat.lt_of_lt_of_le old first.size), first.reserved id old]

theorem extends_replace (r : Register) (id : FactId) (p : Properties) :
    r.Extends (r.replace id p) := by
  refine ⟨Nat.le_of_eq (size_replace r id p).symm, fun other _ => ?_⟩
  rw [cell_replace]
  split
  · next here => rw [here.1]
  · rfl

theorem extends_revert (r : Register) (id : FactId) (change : Change) :
    r.Extends (r.revert id change) := r.extends_replace id _

theorem extends_undo (writes : List (FactId × Change)) (r : Register) :
    r.Extends (Ledger.undo r writes) := by
  induction writes generalizing r with
  | nil => exact .refl r
  | cons entry rest ih => exact (r.extends_revert entry.1 entry.2).trans (ih _)

theorem extends_add (r : Register) (p : Properties) (reserved : List String) :
    r.Extends (r.add p reserved) := by
  refine ⟨by simp, fun id old => ?_⟩
  rw [cell_add, if_neg]
  rintro rfl
  exact Nat.lt_irrefl _ old

theorem extends_addAll (reserved : List String) (facts : List Properties) (r : Register) :
    r.Extends (facts.foldl (fun r p => r.add p reserved) r) := by
  induction facts generalizing r with
  | nil => exact .refl r
  | cons p rest ih => exact (r.extends_add p reserved).trans (ih _)

end Register

namespace Cell.Stable

variable {P : Cell → Prop} {r : Register} {id : FactId} {p : Properties}

theorem replace (before : ∀ id, P (r.cell id)) (new : P ⟨p, (r.cell id).reserved⟩) :
    ∀ other, P ((r.replace id p).cell other) := by
  intro other
  rw [Register.cell_replace]
  split
  · exact new
  · exact before other

theorem revert (stable : Stable P) (before : ∀ id, P (r.cell id)) (id : FactId)
    (change : Change) : ∀ other, P ((r.revert id change).cell other) :=
  replace before (stable.truncate change (before id))

theorem add (before : ∀ id, P (r.cell id)) {reserved : List String} (new : P ⟨p, reserved⟩) :
    ∀ other, P ((r.add p reserved).cell other) := by
  intro other
  rw [Register.cell_add]
  split
  · exact new
  · exact before other

theorem addAll {reserved : List String} (facts : List Properties)
    (new : ∀ p ∈ facts, P ⟨p, reserved⟩) {r : Register} (before : ∀ id, P (r.cell id)) :
    ∀ id, P ((facts.foldl (fun r p => r.add p reserved) r).cell id) := by
  induction facts generalizing r with
  | nil => exact before
  | cons p rest ih =>
    exact ih (fun q mem => new q (List.mem_cons_of_mem _ mem))
      (add before (new p List.mem_cons_self))

theorem undo (stable : Stable P) (writes : List (FactId × Change)) {r : Register}
    (before : ∀ id, P (r.cell id)) : ∀ id, P ((Ledger.undo r writes).cell id) := by
  induction writes generalizing r with
  | nil => exact before
  | cons entry rest ih => exact ih (stable.revert before entry.1 entry.2)

end Cell.Stable

namespace Store

variable {P : Cell → Prop} {s s' : Store}

theorem Heard.properties {id : FactId} {change : Change} {times : Nat}
    (heard : Heard id change times s s') : s'.properties = s.properties := by
  unfold Store.properties
  rw [heard.ledger]

/-- Whatever a write does to a store, it keeps what is stable, whoever listens. -/
theorem stable_write (stable : Cell.Stable P) (before : ∀ id, P (s.ledger.register.cell id))
    (h : Handle) (name : String) (value : Value) :
    ∀ id, P ((s.write h name value).2.ledger.register.cell id) := by
  cases checked : Properties.check (s.ledger.register.cell h.id).reserved name value with
  | error fault =>
    rw [write_refused checked]
    exact before
  | ok _ =>
    rcases s.write_cases h name value with same | ⟨p, change, added, ended⟩
    · rw [same]
      exact before
    · have new : P ⟨p, (s.ledger.register.cell h.id).reserved⟩ := by
        have grown := stable.append (before h.id) checked
        have same : (s.ledger.register.cell h.id).properties = s.properties h.id := rfl
        rw [same, added] at grown
        exact grown
      obtain ⟨times, heard⟩ := (s.written h.id p).notify_heard h.id change h.listeners
      have after : ∀ id, P (((s.written h.id p).notify h.id change h.listeners).2.ledger.register
          |>.cell id) := by
        rw [heard.ledger]
        exact Cell.Stable.replace before new
      rcases ended with ⟨-, same⟩ | ⟨e, -, -, same⟩
      · rw [same]
        exact after
      · rw [same]
        exact stable.revert after h.id change

theorem factsOf_made {reserved : List String} {maps : List FactMap} {facts : List Properties}
    (stable : Cell.Stable P) (made : factsOf reserved maps = .ok facts) :
    ∀ p ∈ facts, P ⟨p, reserved⟩ := by
  intro p mem
  obtain ⟨_, -, reads⟩ := exists_of_mapM made p mem
  exact stable.ofPairs reads

/-- Nothing that happens to a store takes away what is stable. -/
theorem stable_step (stable : Cell.Stable P) (before : ∀ id, P (s.ledger.register.cell id))
    (step : Step s s') : ∀ id, P (s'.ledger.register.cell id) := by
  cases step with
  | insert => exact Cell.Stable.add before (stable.new _)
  | makeFree made => exact Cell.Stable.add before (stable.ofPairs made)
  | write h name value => exact stable_write stable before h name value
  | replaceWith maps =>
    unfold Store.replaceWith
    cases made : factsOf s.config.reservedNames maps with
    | error fault => exact before
    | ok facts => exact Cell.Stable.addAll facts (factsOf_made stable made) before
  | openTransaction =>
    by_cases closed : s.ledger.depth = 0
    · rw [openTransaction_outermost closed]
      exact before
    · rw [openTransaction_nested closed]
      exact before
  | closeTransaction outermost success =>
    unfold Store.closeTransaction
    cases outermost with
    | false => exact before
    | true =>
      cases success with
      | true => exact before
      | false => exact stable.undo _ before
  | watches watches => exact before
  | report events => exact before

theorem stable_create (stable : Cell.Stable P) (config : Config) (registry : Registry) :
    ∀ id, P ((create config registry).ledger.register.cell id) := fun _ => stable.new []

/-- What is stable is so of every fact of a store, in every state that the store can get into. -/
theorem Reachable.stable {P : Properties → Prop} (stable : Properties.Stable P)
    (reachable : s.Reachable) : ∀ id, P (s.properties id) := by
  induction reachable with
  | create config registry => exact stable_create stable.cells config registry
  | step before step ih => exact stable_step stable.cells ih step

/-! ### The sequence -/

/-- What every step does to a store: the facts stay, and behind those that are left of the sequence
come facts that were not there before. -/
structure Grows (s s' : Store) : Prop where
  config : s'.config = s.config
  register : s.ledger.register.Extends s'.ledger.register
  sequence : ∃ kept new, s'.ledger.sequence = kept ++ new ∧ kept.Sublist s.ledger.sequence ∧
    new.Nodup ∧ ∀ id ∈ new, s.ledger.register.cells.size ≤ id.index ∧
      id.index < s'.ledger.register.cells.size ∧
      (s'.ledger.register.cell id).reserved = s.config.reservedNames

/-- A step that puts nothing into the sequence. -/
theorem Grows.of_kept (config : s'.config = s.config)
    (register : s.ledger.register.Extends s'.ledger.register)
    (kept : s'.ledger.sequence.Sublist s.ledger.sequence) : s.Grows s' :=
  ⟨config, register, _, [], (List.append_nil _).symm, kept, List.nodup_nil,
    fun _ mem => absurd mem List.not_mem_nil⟩

theorem OnlyReports.grows (h : OnlyReports s s') : s.Grows s' := by
  obtain ⟨events, rfl⟩ := h
  exact .of_kept rfl (.refl _) (List.Sublist.refl _)

theorem grows_insert (s : Store) : s.Grows s.insert.2 := by
  refine ⟨rfl, Register.extends_add _ _ _, s.ledger.sequence, [s.ledger.register.nextId], rfl,
    List.Sublist.refl _, List.pairwise_singleton _ _, ?_⟩
  intro id mem
  rw [List.mem_singleton.mp mem]
  refine ⟨Nat.le_refl _, ?_, ?_⟩
  · show _ < (s.ledger.register.add _ _).cells.size
    rw [Register.size_add]
    exact Nat.lt_succ_self _
  · show ((s.ledger.register.add _ _).cell _).reserved = _
    rw [Register.cell_add, if_pos rfl]

/-- A write keeps the sequence and makes no fact. -/
theorem write_made (s : Store) (h : Handle) (name : String) (value : Value) :
    (s.write h name value).2.ledger.sequence = s.ledger.sequence
      ∧ (s.write h name value).2.ledger.register.cells.size = s.ledger.register.cells.size := by
  rcases s.write_cases h name value with same | ⟨p, change, added, ended⟩
  · rw [same]
    exact ⟨rfl, rfl⟩
  · obtain ⟨times, heard⟩ := (s.written h.id p).notify_heard h.id change h.listeners
    rcases ended with ⟨-, same⟩ | ⟨e, -, -, same⟩
    · rw [same, heard.ledger]
      exact ⟨rfl, Register.size_replace _ _ _⟩
    · rw [same, heard.ledger]
      exact ⟨rfl, (Register.size_revert _ _ _).trans (Register.size_replace _ _ _)⟩

theorem grows_write (s : Store) (h : Handle) (name : String) (value : Value) :
    s.Grows (s.write h name value).2 := by
  have sequence : (s.write h name value).2.ledger.sequence.Sublist s.ledger.sequence := by
    simp only [s.write_made h name value, List.Sublist.refl]
  rcases s.write_cases h name value with same | ⟨p, change, added, ended⟩
  · rw [same]
    exact OnlyReports.grows (.refl s)
  · obtain ⟨times, heard⟩ := (s.written h.id p).notify_heard h.id change h.listeners
    have written : s.ledger.register.Extends (s.written h.id p).ledger.register :=
      Register.extends_replace _ _ _
    rcases ended with ⟨-, same⟩ | ⟨e, -, -, same⟩
    · refine .of_kept ?_ ?_ sequence
      · rw [same, heard.config]
        rfl
      · rw [same, heard.ledger]
        exact written
    · refine .of_kept ?_ ?_ sequence
      · rw [same]
        exact heard.config
      · rw [same, heard.ledger]
        exact written.trans (Register.extends_revert _ _ _)

theorem grows_replaceWith (s : Store) (maps : List FactMap) :
    s.Grows (s.replaceWith maps).2 := by
  unfold Store.replaceWith
  cases factsOf s.config.reservedNames maps with
  | error fault => exact OnlyReports.grows (.refl s)
  | ok facts =>
    refine ⟨rfl, Register.extends_addAll _ _ _, [], _, rfl, List.nil_sublist _, ?_, ?_⟩
    · refine List.Pairwise.map _ (fun i j apart same => apart ?_) List.nodup_range
      exact Nat.add_left_cancel (congrArg FactId.index same)
    · intro id mem
      obtain ⟨i, bound, rfl⟩ := List.mem_map.mp mem
      have short := List.mem_range.mp bound
      refine ⟨Nat.le_add_right _ _, ?_, ?_⟩
      · simp only [withLedger, Ledger.replaceAll, Register.size_addAll]
        exact Nat.add_lt_add_left short _
      · simp [withLedger, report, Ledger.replaceAll, Register.addAll_eq, Register.cell,
          Array.getD_eq_getD_getElem?, short]

theorem Step.grows (step : Step s s') : s.Grows s' := by
  cases step with
  | insert => exact s.grows_insert
  | makeFree made => exact .of_kept rfl (Register.extends_add _ _ _) (List.Sublist.refl _)
  | write h name value => exact s.grows_write h name value
  | replaceWith maps => exact s.grows_replaceWith maps
  | openTransaction =>
    by_cases closed : s.ledger.depth = 0
    · rw [openTransaction_outermost closed]
      exact .of_kept rfl (.refl _) (List.Sublist.refl _)
    · rw [openTransaction_nested closed]
      exact .of_kept rfl (.refl _) (List.Sublist.refl _)
  | closeTransaction outermost success =>
    unfold Store.closeTransaction
    cases outermost with
    | false => exact .of_kept rfl (.refl _) (List.Sublist.refl _)
    | true =>
      cases success with
      | true => exact .of_kept rfl (.refl _) (List.Sublist.refl _)
      | false => exact .of_kept rfl (Register.extends_undo _ _) (List.take_sublist _ _)
  | watches watches => exact .of_kept rfl (.refl _) (List.Sublist.refl _)
  | report events => exact OnlyReports.grows ⟨events, rfl⟩

/-- The sequence of a store names every fact once, only facts that were made, and only facts that
refuse the names that the store reserves. -/
structure Listed (s : Store) : Prop where
  distinct : s.ledger.sequence.Nodup
  made : ∀ id ∈ s.ledger.sequence, id.index < s.ledger.register.cells.size
  reserved : ∀ id ∈ s.ledger.sequence,
    (s.ledger.register.cell id).reserved = s.config.reservedNames

/-- What the sequence names was made before the step, or is made by it. -/
theorem Grows.made (grows : s.Grows s')
    (made : ∀ id ∈ s.ledger.sequence, id.index < s.ledger.register.cells.size) :
    ∀ id ∈ s'.ledger.sequence, id.index < s'.ledger.register.cells.size := by
  obtain ⟨kept, new, sequence, older, -, fresh⟩ := grows.sequence
  intro id mem
  rw [sequence] at mem
  rcases List.mem_append.mp mem with old | young
  · exact Nat.lt_of_lt_of_le (made id (older.subset old)) grows.register.size
  · exact (fresh id young).2.1

theorem Listed.grow (listed : s.Listed) (grows : s.Grows s') : s'.Listed := by
  obtain ⟨kept, new, sequence, older, once, fresh⟩ := grows.sequence
  refine ⟨?_, grows.made listed.made, ?_⟩
  · rw [sequence]
    refine List.nodup_append.mpr ⟨listed.distinct.sublist older, once, ?_⟩
    rintro old mem _ young rfl
    have before := listed.made old (older.subset mem)
    exact Nat.lt_irrefl _ (Nat.lt_of_lt_of_le before (fresh old young).1)
  · intro id mem
    rw [sequence] at mem
    rw [grows.config]
    rcases List.mem_append.mp mem with old | young
    · have listedBefore := older.subset old
      rw [grows.register.reserved id (listed.made id listedBefore), listed.reserved id listedBefore]
    · exact (fresh id young).2.2

theorem listed_create (config : Config) (registry : Registry) : (create config registry).Listed :=
  ⟨List.nodup_nil, fun _ mem => absurd mem List.not_mem_nil,
    fun _ mem => absurd mem List.not_mem_nil⟩

theorem Reachable.listed (reachable : s.Reachable) : s.Listed := by
  induction reachable with
  | create config registry => exact listed_create config registry
  | step before step ih => exact ih.grow step.grows

/-! ### Soundness -/

/-- Whatever the listeners do, no history gets empty and the sequence stays. -/
theorem Sound.heard {id : FactId} {change : Change} {times : Nat} (sound : s.Sound)
    (heard : Heard id change times s s') : s'.Sound := by
  constructor
  · rw [heard.properties]
    exact sound.solid
  · rw [heard.ledger]
    exact sound.made

/-- Nothing that happens to a store makes it unsound. -/
theorem Sound.step (sound : s.Sound) (step : Step s s') : s'.Sound :=
  ⟨stable_step Properties.stable_solid.cells sound.solid step, step.grows.made sound.made⟩

/-- A write keeps a store sound, whoever listens. -/
theorem Sound.write (sound : s.Sound) (h : Handle) (name : String) (value : Value) :
    (s.write h name value).2.Sound := sound.step (.write s h name value)

/-- Every state that a store can get into is sound. -/
theorem Reachable.sound (reachable : s.Reachable) : s.Sound := by
  induction reachable with
  | create config registry =>
    exact ⟨fun id => Properties.solid_empty, fun id mem => by cases mem⟩
  | step before step ih => exact ih.step step

end Store

end Annals
