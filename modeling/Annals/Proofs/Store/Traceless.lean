import Annals.Proofs.Fact.Orderly

/-!
# What a write leaves behind

A write is made before anybody hears of it. When a listener then refuses it, listeners before that
one may have entered it into the journal, remembered the fact, or checked a rule on what the fact
held in the meantime. All the same a write that fails leaves every fact as it was, and a write that
succeeds only makes one history of one fact longer, if it does that.

* `Properties.Continues` relates what a fact holds before and after a write that succeeds, and
  `Properties.append_continues` is the reason why.
* `Store.write_error` and `Store.write_ok` say what a write does to the register in either case.
* `Store.write_traceless` is the result, for handles with any listeners.
-/

set_option autoImplicit false

namespace Annals

namespace Properties

variable {entries : List (String × List Value)} {p : Properties} {name other : String}
variable {value : Value}

/-- What a fact holds after a value was written to a property of it, given what it held before. -/
structure Continues (p : Properties) (name : String) (value : Value) (p' : Properties) : Prop where
  /-- The value that was written, or one that is the same, is in the history of the property. -/
  held : ∃ history, p'.get? name = some history ∧ ∃ v ∈ history, v.same value = true
  /-- Histories begin as they were. -/
  kept : ∀ other history, p.get? other = some history →
    ∃ later, p'.get? other = some later ∧ history <+: later
  others : ∀ other, other ≠ name → p'.get? other = p.get? other
  /-- A property that is new comes behind all the others. -/
  names : p.names <+: p'.names

theorem lookup_mapHistory (name other : String) (f : List Value → List Value)
    (entries : List (String × List Value)) :
    (mapHistory name f entries).lookup other
      = if other = name then (entries.lookup other).map f else entries.lookup other := by
  induction entries with
  | nil => simp [mapHistory]
  | cons entry rest ih =>
    obtain ⟨key, history⟩ := entry
    by_cases here : key = name
    · subst here
      by_cases same : other = key
      · simp [mapHistory, same]
      · simp [mapHistory, List.lookup_cons, same, beq_false_of_ne same]
    · by_cases same : other = key
      · subst same
        simp [mapHistory, here]
      · simp only [mapHistory, if_neg here, List.lookup_cons, beq_false_of_ne same, ih]

theorem get?_concat (absent : p.get? name = none) (history : List Value) (other : String) :
    get? ⟨p.entries ++ [(name, history)]⟩ other
      = if other = name then some history else p.get? other := by
  unfold get? at absent ⊢
  by_cases same : other = name
  · rw [List.lookup_append, same, absent, Option.none_or, List.lookup_cons_self, if_pos rfl]
  · simp [List.lookup_append, List.lookup_cons, same, beq_false_of_ne same]

/-- Adding a value that may be held continues what a fact holds. -/
theorem append_continues (storable : checkValue name value = .ok ()) (p : Properties) :
    p.Continues name value (p.append name value).1 := by
  have self := same_self storable
  cases found : p.get? name with
  | none =>
    rw [append_begin found]
    refine ⟨⟨[value], ?_, value, List.mem_cons_self, self⟩, ?_, ?_, ?_⟩
    · rw [get?_concat found, if_pos rfl]
    · intro other history before
      have apart : other ≠ name := by
        rintro rfl
        rw [found] at before
        cases before
      exact ⟨history, by rw [get?_concat found, if_neg apart, before], List.prefix_refl history⟩
    · intro other apart
      rw [get?_concat found, if_neg apart]
    · simp [names]
  | some history =>
    cases held : holds history value with
    | true =>
      obtain ⟨v, mem, same⟩ := List.any_eq_true.mp held
      rw [append_held found held]
      exact ⟨⟨history, found, v, mem, same⟩, fun _ history before =>
        ⟨history, before, List.prefix_refl history⟩, fun _ _ => rfl, List.prefix_refl _⟩
    | false =>
      rw [append_extend found held]
      have now : ∀ other, get? ⟨mapHistory name (· ++ [value]) p.entries⟩ other
          = if other = name then (p.get? other).map (· ++ [value]) else p.get? other :=
        fun other => lookup_mapHistory name other _ p.entries
      refine ⟨⟨history ++ [value], ?_, value, ?_, self⟩, ?_, ?_, ?_⟩
      · rw [now, if_pos rfl, found, Option.map_some]
      · exact List.mem_append_right _ List.mem_cons_self
      · intro other before found
        by_cases same : other = name
        · exact ⟨before ++ [value], by rw [now, if_pos same, found, Option.map_some],
            List.prefix_append before [value]⟩
        · exact ⟨before, by rw [now, if_neg same, found], List.prefix_refl before⟩
      · intro other apart
        rw [now, if_neg apart]
      · simp only [names, names_mapHistory, List.prefix_refl]

end Properties

namespace Store

variable {s : Store} {h : Handle} {name : String} {value : Value}

/-- Whatever was done before a write failed, nothing of it is left in the register. -/
theorem write_error (sound : s.Sound) {e : Error} (failed : (s.write h name value).1 = .error e) :
    (s.write h name value).2.ledger.register = s.ledger.register := by
  rcases s.write_cases h name value with same | ⟨p, change, added, ended⟩
  · rw [same]
  · obtain ⟨times, heard⟩ := (s.written h.id p).notify_heard h.id change h.listeners
    rcases ended with ⟨content, same⟩ | ⟨_, -, -, same⟩
    · rw [same, content] at failed
      cases failed
    · rw [same, heard.ledger]
      exact Register.revert_replace (sound.solid h.id) added

/-- A write that succeeds was allowed, and adds its value to the history, unless that holds it. -/
theorem write_ok (ended : (s.write h name value).1 = .ok ()) :
    Properties.check (s.ledger.register.cell h.id).reserved name value = .ok () ∧
      (s.write h name value).2.ledger.register
        = s.ledger.register.replace h.id ((s.properties h.id).append name value).1 := by
  cases checked : Properties.check (s.ledger.register.cell h.id).reserved name value with
  | error fault =>
    simp only [write, checked] at ended
    cases ended
  | ok _ =>
    refine ⟨rfl, ?_⟩
    cases added : (s.properties h.id).append name value with
    | mk p change =>
      have cell : (s.ledger.register.cell h.id).properties.append name value = (p, change) := added
      cases change with
      | none =>
        simp only [write, checked, cell, Properties.append_none added]
        exact (Register.replace_contents _ _).symm
      | some change =>
        obtain ⟨times, heard⟩ := (s.written h.id p).notify_heard h.id change h.listeners
        unfold written at heard
        simp only [write, checked, cell] at ended ⊢
        split at ended
        · next after content =>
          simp only [content] at heard ⊢
          rw [heard.ledger]
          rfl
        · cases ended

/-- Whoever listens to a handle, and whether a transaction is open or not: a write that fails, for
whatever reason, leaves the properties of every fact as they were, with their order and all of
their histories. A write that succeeds continues what its fact held, and leaves the other facts
as they were. -/
theorem write_traceless (reachable : s.Reachable) (h : Handle)
    (made : h.id.index < s.ledger.register.cells.size) (name : String) (value : Value) :
    (∀ e, (s.write h name value).1 = .error e →
        ∀ id, (s.write h name value).2.properties id = s.properties id)
      ∧ ((s.write h name value).1 = .ok () →
        (s.properties h.id).Continues name value ((s.write h name value).2.properties h.id)
          ∧ ∀ id, id ≠ h.id → (s.write h name value).2.properties id = s.properties id) := by
  refine ⟨?_, ?_⟩
  · intro e failed id
    unfold properties
    rw [write_error reachable.sound failed]
  · intro ended
    obtain ⟨checked, register⟩ := write_ok ended
    have cells : ∀ id, (s.write h name value).2.properties id =
        if id = h.id then ((s.properties h.id).append name value).1 else s.properties id := by
      intro id
      unfold properties Register.contents
      rw [register, Register.cell_replace]
      by_cases here : id = h.id
      · rw [if_pos ⟨here, made⟩, if_pos here]
        rfl
      · rw [if_neg (not_and_of_not_left _ here), if_neg here]
    refine ⟨?_, ?_⟩
    · rw [cells, if_pos rfl]
      exact Properties.append_continues (Properties.check_ok_iff.mp checked).2 _
    · intro id other
      rw [cells, if_neg other]

/-- A store with a fact that holds a `b`, in the middle of a transaction. -/
def midway : Store :=
  let made := (create .standard .empty).insert
  (made.2.openTransaction.2.write made.1 "b" (.int 1)).2

theorem midway_reachable : midway.Reachable :=
  .step (.step (.step (.create .standard .empty) (.insert _)) (.openTransaction _)) (.write _ _ _ _)

/-- A handle of that fact that does not let it have an `a`, by a rule, or a `c`, by a refusal. -/
def overseen : Handle :=
  ⟨⟨0⟩, [.journal, .rule ⟨.node .absent [.symbol "a"], none⟩ 0, .refusal (.toNames ["c"])]⟩

/-- A write that breaks the rule, one that is refused after it was entered into the journal, and one
to a name that is none, all leave the fact as it was; another one continues it. -/
theorem write_traceless_overseen :
    (∀ name ∈ ["a", "c", "not a name"], (midway.write overseen name (.int 2)).1.isOk = false
        ∧ (midway.write overseen name (.int 2)).2.properties ⟨0⟩ = ⟨[("b", [.int 1])]⟩)
      ∧ (midway.write overseen "c" (.int 2)).2.ledger.writes = [(⟨0⟩, ⟨"c", 0⟩), (⟨0⟩, ⟨"b", 0⟩)]
      ∧ (midway.write overseen "b" (.int 2)).1 = .ok ()
      ∧ (midway.properties ⟨0⟩).Continues "b" (.int 2)
        ((midway.write overseen "b" (.int 2)).2.properties ⟨0⟩) := by
  have made : overseen.id.index < midway.ledger.register.cells.size := by decide +kernel
  have result := write_traceless midway_reachable overseen made
  have before : midway.properties ⟨0⟩ = ⟨[("b", [.int 1])]⟩ := by decide +kernel
  have accepted : (midway.write overseen "b" (.int 2)).1 = .ok () := rfl
  refine ⟨?_, by decide +kernel, accepted, ((result "b" (.int 2)).2 accepted).1⟩
  intro name mem
  have refused : ∀ name ∈ ["a", "c", "not a name"],
      (midway.write overseen name (.int 2)).1.isOk = false := by
    decide +kernel
  refine ⟨refused name mem, ?_⟩
  cases failed : (midway.write overseen name (.int 2)).1 with
  | error e => rw [(result name (.int 2)).1 e failed, before]
  | ok _ =>
    have not_ok := refused name mem
    rw [failed] at not_ok
    cases not_ok

end Store

end Annals
