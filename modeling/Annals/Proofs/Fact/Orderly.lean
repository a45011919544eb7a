import Annals.Proofs.Store.Reachable

/-!
# Properties that can be written anew

The properties of every fact of a store can be written to an empty fact, value by value, with all
the checks of a write, and that gives the same properties in the same order: names are distinct and
allowed, no history is empty, and no history holds a value twice. `Properties.Orderly` says so, and
is kept by checked writes and by undoing them (`Properties.stable_orderly`).

`Properties.ofPairs_entries` is the result.
-/

set_option autoImplicit false

namespace Annals.Properties

/-- The history of a property as checked writes leave it. -/
structure Written (name : String) (history : List Value) : Prop where
  wellFormed : isPropertyName name = true
  free : name ∉ reservedNames
  nonempty : history ≠ []
  checked : ∀ value ∈ history, checkValue name value = .ok ()
  /-- No value is the same as an earlier one. -/
  distinct : history.Pairwise fun earlier later => earlier.same later = false

/-- The properties of a fact as checked writes leave them. -/
structure Orderly (p : Properties) : Prop where
  names : p.names.Nodup
  written : ∀ entry ∈ p.entries, Written entry.1 entry.2

section Checks

variable {reserved : List String} {name : String} {value : Value}

theorem check_ok_iff : check reserved name value = .ok () ↔
    (isPropertyName name = true ∧ name ∉ reservedNames ∧ name ∉ reserved)
      ∧ checkValue name value = .ok () := by
  unfold check checkName
  by_cases wellFormed : isPropertyName name = true
  · by_cases kept : name ∈ reservedNames ∨ name ∈ reserved
    · simp only [wellFormed, kept, if_true, Bool.not_true, Bool.false_eq_true, if_false]
      constructor
      · intro ok
        cases ok
      · rintro ⟨⟨-, free, allowed⟩, -⟩
        exact absurd kept (not_or.mpr ⟨free, allowed⟩)
    · simp only [wellFormed, kept, Bool.not_true, Bool.false_eq_true, if_false, true_and]
      exact ⟨fun ok => ⟨not_or.mp kept, ok⟩, fun ok => ok.2⟩
  · simp only [wellFormed, Bool.not_false, if_true, Bool.false_eq_true, false_and, iff_false]
    intro ok
    cases ok

/-- What is refused as a value: an empty text and a number that is none. -/
theorem checkValue_ok_iff : checkValue name value = .ok () ↔
    value ≠ .str "" ∧ ∀ x, value = .float x → x.isNaN = false := by
  cases value with
  | int n => simp [checkValue]
  | time t => simp [checkValue]
  | float x => cases nan : x.isNaN <;> simp [checkValue, nan]
  | str s =>
    by_cases none : s = ""
    · simp [checkValue, none]
    · simp [checkValue, none]

/-- A value that may be held is the same as itself. -/
theorem same_self (storable : checkValue name value = .ok ()) : value.same value = true := by
  have number := (checkValue_ok_iff.mp storable).2
  cases value with
  | int n => simp [Value.same]
  | str s => simp [Value.same]
  | time t => simp [Value.same]
  | float x => simp [Value.same, Binary64.equals, Binary64.compare?, number x rfl]

theorem holds_eq_false {history : List Value} :
    holds history value = false ↔ ∀ earlier ∈ history, earlier.same value = false := by
  simp only [holds, List.any_eq_false, Bool.not_eq_true]

theorem Written.begin (checked : check reserved name value = .ok ()) : Written name [value] := by
  obtain ⟨⟨wellFormed, free, -⟩, valid⟩ := check_ok_iff.mp checked
  refine ⟨wellFormed, free, List.cons_ne_nil _ _, ?_, List.pairwise_singleton _ _⟩
  intro other mem
  rw [List.mem_singleton.mp mem]
  exact valid

theorem Written.extend {history : List Value} (written : Written name history)
    (checked : check reserved name value = .ok ()) (new : holds history value = false) :
    Written name (history ++ [value]) := by
  refine ⟨written.wellFormed, written.free, List.append_ne_nil_of_left_ne_nil written.nonempty _,
    ?_, ?_⟩
  · intro other mem
    rcases List.mem_append.mp mem with older | last
    · exact written.checked other older
    · rw [List.mem_singleton.mp last]
      exact (check_ok_iff.mp checked).2
  · refine List.pairwise_append.mpr ⟨written.distinct, List.pairwise_singleton _ _, ?_⟩
    intro earlier mem later last
    rw [List.mem_singleton.mp last]
    exact holds_eq_false.mp new earlier mem

theorem Written.cut {history : List Value} (written : Written name history) {count : Nat}
    (some : count ≠ 0) : Written name (history.take count) := by
  refine ⟨written.wellFormed, written.free, ?_, ?_, ?_⟩
  · intro none
    rcases List.take_eq_nil_iff.mp none with zero | empty
    · exact some zero
    · exact written.nonempty empty
  · intro value mem
    exact written.checked value (List.mem_of_mem_take mem)
  · exact written.distinct.sublist (List.take_sublist count history)

end Checks

section Invariant

variable {entries : List (String × List Value)} {p : Properties}

theorem names_mapHistory (name : String) (f : List Value → List Value) :
    (mapHistory name f entries).map Prod.fst = entries.map Prod.fst := by
  induction entries with
  | nil => rfl
  | cons entry rest ih =>
    obtain ⟨key, history⟩ := entry
    unfold mapHistory
    split
    · rfl
    · rw [List.map_cons, List.map_cons, ih]

theorem dropName_sublist (name : String) (entries : List (String × List Value)) :
    (dropName name entries).Sublist entries := by
  induction entries with
  | nil => exact List.Sublist.refl _
  | cons entry rest ih =>
    obtain ⟨key, history⟩ := entry
    unfold dropName
    split
    · exact List.sublist_cons_self _ _
    · exact ih.cons_cons _

theorem not_mem_names {name : String} (absent : p.get? name = none) : name ∉ p.names := by
  intro mem
  obtain ⟨entry, isEntry, rfl⟩ := List.mem_map.mp mem
  have other := List.lookup_eq_none_iff.mp absent entry isEntry
  simp at other

theorem append_begin {name : String} (absent : p.get? name = none) (value : Value) :
    p.append name value = (⟨p.entries ++ [(name, [value])]⟩, some ⟨name, 0⟩) := by
  simp only [Properties.append, absent]

theorem append_held {name : String} {history : List Value} {value : Value}
    (found : p.get? name = some history) (held : holds history value = true) :
    p.append name value = (p, none) := by
  simp only [Properties.append, found, held, if_true]

theorem append_extend {name : String} {history : List Value} {value : Value}
    (found : p.get? name = some history) (new : holds history value = false) :
    p.append name value
      = (⟨mapHistory name (· ++ [value]) p.entries⟩, some ⟨name, history.length⟩) := by
  simp only [Properties.append, found, new, Bool.false_eq_true, if_false]

theorem Orderly.append (orderly : p.Orderly) {reserved : List String} {name : String}
    {value : Value} (checked : check reserved name value = .ok ()) :
    (p.append name value).1.Orderly := by
  cases found : p.get? name with
  | none =>
    rw [append_begin found]
    refine ⟨?_, ?_⟩
    · simp only [Properties.names, List.map_append, List.map_cons, List.map_nil]
      refine List.nodup_append.mpr ⟨orderly.names, List.pairwise_singleton _ _, ?_⟩
      rintro other mem _ last rfl
      rw [List.mem_singleton.mp last] at mem
      exact not_mem_names found mem
    · intro entry mem
      rcases List.mem_append.mp mem with older | new
      · exact orderly.written entry older
      · rw [List.mem_singleton.mp new]
        exact .begin checked
  | some history =>
    cases held : holds history value with
    | true =>
      rw [append_held found held]
      exact orderly
    | false =>
      rw [append_extend found held]
      refine ⟨?_, ?_⟩
      · simp only [Properties.names, names_mapHistory]
        exact orderly.names
      · intro entry mem
        rcases mem_mapHistory mem with older | ⟨h, same, rfl⟩
        · exact orderly.written entry older
        · have here : h = history := Option.some.inj (same.symm.trans found)
          rw [here]
          exact (orderly.written _ (mem_of_lookup found)).extend checked held

theorem Orderly.truncate (orderly : p.Orderly) (change : Change) :
    (p.truncate change).Orderly := by
  unfold Properties.truncate
  by_cases first : change.priorLength = 0
  · rw [if_pos first]
    have shorter := dropName_sublist change.name p.entries
    exact ⟨orderly.names.sublist (shorter.map Prod.fst),
      fun entry mem => orderly.written entry (shorter.mem mem)⟩
  · rw [if_neg first]
    refine ⟨?_, ?_⟩
    · simp only [Properties.names, names_mapHistory]
      exact orderly.names
    · intro entry mem
      rcases mem_mapHistory mem with older | ⟨h, found, rfl⟩
      · exact orderly.written entry older
      · exact (orderly.written _ (mem_of_lookup found)).cut first

theorem stable_orderly : Stable Orderly where
  empty := ⟨List.nodup_nil, fun entry mem => by cases mem⟩
  append := fun orderly checked => orderly.append checked
  truncate := fun change orderly => orderly.truncate change

end Invariant

section Anew

variable {reserved : List String} {name : String} {before : List (String × List Value)}

theorem lookup_last (absent : before.lookup name = none) (history : List Value) :
    (before ++ [(name, history)]).lookup name = some history := by
  rw [List.lookup_append, absent, Option.none_or, List.lookup_cons_self]

theorem mapHistory_last (absent : before.lookup name = none) (history : List Value)
    (f : List Value → List Value) :
    mapHistory name f (before ++ [(name, history)]) = before ++ [(name, f history)] := by
  induction before with
  | nil => simp only [List.nil_append, mapHistory, if_true]
  | cons entry rest ih =>
    obtain ⟨key, h⟩ := entry
    obtain ⟨other, later⟩ := lookup_cons_eq_none absent
    simp only [List.cons_append, mapHistory, if_neg other, ih later]

/-- Writing the rest of the history of the last property completes it. -/
theorem foldlM_set_last (absent : before.lookup name = none) (allowed : name ∉ reserved)
    {done rest : List Value} (written : Written name (done ++ rest)) :
    rest.foldlM (fun p value => set p reserved name value) ⟨before ++ [(name, done)]⟩
      = .ok ⟨before ++ [(name, done ++ rest)]⟩ := by
  induction rest generalizing done with
  | nil =>
    rw [List.append_nil]
    rfl
  | cons value rest ih =>
    have checked : check reserved name value = .ok () :=
      check_ok_iff.mpr ⟨⟨written.wellFormed, written.free, allowed⟩,
        written.checked value (List.mem_append_right _ List.mem_cons_self)⟩
    have new : holds done value = false := by
      refine holds_eq_false.mpr fun earlier mem => ?_
      exact (List.pairwise_append.mp written.distinct).2.2 earlier mem value List.mem_cons_self
    have first : set ⟨before ++ [(name, done)]⟩ reserved name value
        = .ok ⟨before ++ [(name, done ++ [value])]⟩ := by
      have added := append_extend (p := ⟨before ++ [(name, done)]⟩) (lookup_last absent done) new
      rw [set, checked, added, mapHistory_last absent]
      rfl
    rw [List.append_cons done value rest] at written ⊢
    rw [List.foldlM_cons, first]
    exact ih written

/-- Writing a property that is not there yet with a whole history adds just that. -/
theorem setAll_new (absent : before.lookup name = none) (allowed : name ∉ reserved)
    {history : List Value} (written : Written name history) :
    setAll ⟨before⟩ reserved name history = .ok ⟨before ++ [(name, history)]⟩ := by
  obtain ⟨value, rest, rfl⟩ := List.exists_cons_of_ne_nil written.nonempty
  have checked : check reserved name value = .ok () :=
    check_ok_iff.mpr ⟨⟨written.wellFormed, written.free, allowed⟩,
      written.checked value List.mem_cons_self⟩
  have first : set ⟨before⟩ reserved name value = .ok ⟨before ++ [(name, [value])]⟩ := by
    rw [set, checked, append_begin absent]
    rfl
  have some : ¬(value :: rest).isEmpty = true := Bool.false_ne_true
  rw [setAll, if_neg some, List.foldlM_cons, first]
  exact foldlM_set_last absent allowed written

/-- Properties of a store can be written to an empty fact, in their order, wherever their names are
not reserved, and that gives the same properties. -/
theorem ofPairs_entries {p : Properties} (orderly : p.Orderly)
    (allowed : ∀ name ∈ p.names, name ∉ reserved) : ofPairs reserved p.entries = .ok p := by
  -- the entries after `before` are written to a fact that has those of `before`
  have rest : ∀ rest before : List (String × List Value), before ++ rest = p.entries →
      rest.foldlM (fun (p : Properties) entry => p.setAll reserved entry.1 entry.2)
        ⟨before⟩ = .ok p := by
    intro rest
    induction rest with
    | nil =>
      intro before same
      rw [List.append_nil] at same
      rw [same]
      rfl
    | cons entry rest ih =>
      intro before same
      obtain ⟨name, history⟩ := entry
      have isEntry : (name, history) ∈ p.entries := by
        rw [← same]
        exact List.mem_append_right _ List.mem_cons_self
      have absent : before.lookup name = none := by
        refine List.lookup_eq_none_iff.mpr fun other mem => ?_
        have names := orderly.names
        rw [Properties.names, ← same, List.map_append, List.map_cons] at names
        have apart := (List.nodup_append.mp names).2.2 other.1 (List.mem_map_of_mem mem) name
          List.mem_cons_self
        simpa using Ne.symm apart
      have written := setAll_new absent (allowed name (List.mem_map_of_mem isEntry))
        (orderly.written (name, history) isEntry)
      simp only [List.foldlM_cons, written]
      exact ih (before ++ [(name, history)]) (by rw [List.append_assoc]; exact same)
  exact rest p.entries [] rfl

end Anew

end Annals.Properties
