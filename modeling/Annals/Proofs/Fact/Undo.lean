import Annals.Fact.Register

/-!
# An addition is undone exactly

An addition to a history is recorded as the name of the property and the length of the history
before. That is enough to undo it, and also to undo nothing where the addition is gone already, as
long as no history is empty: `truncate_append` and `truncate_before` say so for the properties of
a fact, and `Register.revert_replace` and `Register.revert_before` lift it to registers.
-/

set_option autoImplicit false

namespace Annals

namespace Properties

variable {entries : List (String × List Value)} {name : String} {history : List Value}
variable {p p' : Properties} {value : Value} {change : Change}

def Solid (p : Properties) : Prop := ∀ entry ∈ p.entries, entry.2 ≠ []

theorem solid_empty : empty.Solid := by
  intro entry mem
  cases mem

theorem mem_of_lookup (found : entries.lookup name = some history) : (name, history) ∈ entries := by
  obtain ⟨before, after, same, _⟩ := List.lookup_eq_some_iff.mp found
  rw [same]
  exact List.mem_append_right _ List.mem_cons_self

theorem lookup_cons_eq_none {key : String}
    (absent : List.lookup name ((key, history) :: entries) = none) :
    key ≠ name ∧ entries.lookup name = none := by
  have other : key ≠ name := by
    intro same
    simp [same] at absent
  exact ⟨other, by simpa [List.lookup_cons, beq_false_of_ne (Ne.symm other)] using absent⟩

/-- Dropping the property that was added last leaves those before it. -/
theorem dropName_append (absent : entries.lookup name = none) :
    dropName name (entries ++ [(name, history)]) = entries := by
  induction entries with
  | nil => simp [dropName]
  | cons entry rest ih =>
    obtain ⟨key, h⟩ := entry
    obtain ⟨other, later⟩ := lookup_cons_eq_none absent
    simp only [List.cons_append, dropName, if_neg other, ih later]

/-- Dropping a property that is not there changes nothing. -/
theorem dropName_absent (absent : entries.lookup name = none) :
    dropName name entries = entries := by
  induction entries with
  | nil => rfl
  | cons entry rest ih =>
    obtain ⟨key, h⟩ := entry
    obtain ⟨other, later⟩ := lookup_cons_eq_none absent
    simp only [dropName, if_neg other, ih later]

/-- Two changes of one history are one change. -/
theorem mapHistory_mapHistory (f g : List Value → List Value) :
    mapHistory name g (mapHistory name f entries) = mapHistory name (fun h => g (f h)) entries := by
  induction entries with
  | nil => rfl
  | cons entry rest ih =>
    obtain ⟨key, h⟩ := entry
    by_cases same : key = name
    · simp only [mapHistory, if_pos same]
    · simp only [mapHistory, if_neg same, ih]

/-- A change that leaves the history of a property as it is leaves everything as it is. -/
theorem mapHistory_same {f : List Value → List Value} (found : entries.lookup name = some history)
    (same : f history = history) : mapHistory name f entries = entries := by
  induction entries with
  | nil => rfl
  | cons entry rest ih =>
    obtain ⟨key, h⟩ := entry
    by_cases here : key = name
    · have this : h = history := by simpa [List.lookup_cons, here] using found
      simp only [mapHistory, if_pos here, this, same]
    · have later : rest.lookup name = some history := by
        simpa [List.lookup_cons, beq_false_of_ne (Ne.symm here)] using found
      simp only [mapHistory, if_neg here, ih later]

/-- An addition either begins a property, or it makes an existing history longer. -/
theorem append_cases (added : p.append name value = (p', some change)) :
    (p.get? name = none ∧ change = ⟨name, 0⟩ ∧ p' = ⟨p.entries ++ [(name, [value])]⟩) ∨
    ∃ history, p.get? name = some history ∧ change = ⟨name, history.length⟩ ∧
      p' = ⟨mapHistory name (· ++ [value]) p.entries⟩ := by
  unfold append at added
  cases found : p.get? name with
  | none =>
    simp only [found, Prod.mk.injEq, Option.some.injEq] at added
    exact .inl ⟨rfl, added.2.symm, added.1.symm⟩
  | some history =>
    simp only [found] at added
    split at added
    · cases added
    · simp only [Prod.mk.injEq, Option.some.injEq] at added
      exact .inr ⟨history, rfl, added.2.symm, added.1.symm⟩

/-- A value that a history holds already is not added. -/
theorem append_none (added : p.append name value = (p', none)) : p' = p := by
  unfold append at added
  split at added
  · cases added
  · split at added
    · simp only [Prod.mk.injEq, and_true] at added
      exact added.symm
    · cases added

/-- Undoing an addition gives what was there before. -/
theorem truncate_append (solid : p.Solid) (added : p.append name value = (p', some change)) :
    p'.truncate change = p := by
  rcases append_cases added with ⟨absent, rfl, rfl⟩ | ⟨history, found, rfl, rfl⟩
  · simp only [truncate, if_true, dropName_append absent]
  · have long : history.length ≠ 0 := by
      intro zero
      exact solid _ (mem_of_lookup found) (List.length_eq_zero_iff.mp zero)
    have back : mapHistory name (fun h => (h ++ [value]).take history.length) p.entries =
        p.entries := mapHistory_same found List.take_left
    simp only [truncate, if_neg long, mapHistory_mapHistory, back]

/-- Undoing an addition that is gone already changes nothing. -/
theorem truncate_before (solid : p.Solid) (added : p.append name value = (p', some change)) :
    p.truncate change = p := by
  rcases append_cases added with ⟨absent, rfl, -⟩ | ⟨history, found, rfl, -⟩
  · simp only [truncate, if_true, dropName_absent absent]
  · have long : history.length ≠ 0 := by
      intro zero
      exact solid _ (mem_of_lookup found) (List.length_eq_zero_iff.mp zero)
    simp only [truncate, if_neg long, mapHistory_same found List.take_length]

/-- An entry after a change of one history was there before, or it is the changed one. -/
theorem mem_mapHistory {f : List Value → List Value} {entry : String × List Value}
    (mem : entry ∈ mapHistory name f entries) :
    entry ∈ entries ∨ ∃ h, entries.lookup name = some h ∧ entry = (name, f h) := by
  induction entries with
  | nil => cases mem
  | cons first rest ih =>
    obtain ⟨key, h⟩ := first
    simp only [mapHistory] at mem
    split at mem
    · next here =>
      rcases List.mem_cons.mp mem with rfl | mem
      · exact .inr ⟨h, by rw [here, List.lookup_cons_self], by rw [here]⟩
      · exact .inl (List.mem_cons_of_mem _ mem)
    · next other =>
      rcases List.mem_cons.mp mem with rfl | mem
      · exact .inl List.mem_cons_self
      · rcases ih mem with older | ⟨h', found, same⟩
        · exact .inl (List.mem_cons_of_mem _ older)
        · refine .inr ⟨h', ?_, same⟩
          simpa [List.lookup_cons, beq_false_of_ne (Ne.symm other)] using found

/-- What is left after dropping a property was there before. -/
theorem mem_dropName {entry : String × List Value} (mem : entry ∈ dropName name entries) :
    entry ∈ entries := by
  induction entries with
  | nil => cases mem
  | cons first rest ih =>
    obtain ⟨key, h⟩ := first
    simp only [dropName] at mem
    split at mem
    · exact List.mem_cons_of_mem _ mem
    · rcases List.mem_cons.mp mem with rfl | mem
      · exact List.mem_cons_self
      · exact List.mem_cons_of_mem _ (ih mem)

/-- Additions leave no history empty. -/
theorem solid_append (solid : p.Solid) (name : String) (value : Value) :
    (p.append name value).1.Solid := by
  cases added : p.append name value with
  | mk p' change =>
    cases change with
    | none =>
      rw [append_none added]
      exact solid
    | some change =>
      intro entry mem
      rcases append_cases added with ⟨-, -, rfl⟩ | ⟨history, -, -, rfl⟩
      · rcases List.mem_append.mp mem with older | new
        · exact solid entry older
        · rw [List.mem_singleton.mp new]
          exact List.cons_ne_nil _ _
      · rcases mem_mapHistory mem with older | ⟨h, -, rfl⟩
        · exact solid entry older
        · exact List.append_ne_nil_of_right_ne_nil _ (List.cons_ne_nil _ _)

/-- Undoing leaves no history empty. -/
theorem solid_truncate (solid : p.Solid) (change : Change) : (p.truncate change).Solid := by
  intro entry mem
  unfold truncate at mem
  split at mem
  · exact solid entry (mem_dropName mem)
  · next long =>
    rcases mem_mapHistory mem with older | ⟨h, found, rfl⟩
    · exact solid entry older
    · intro cut
      rcases List.take_eq_nil_iff.mp cut with zero | none
      · exact long zero
      · exact solid _ (mem_of_lookup found) none

/-- There is nothing to undo in a fact without properties. -/
theorem truncate_empty (change : Change) : empty.truncate change = empty := by
  unfold truncate
  split
  · rfl
  · rfl

end Properties

namespace Register

variable (r : Register) (id id' : FactId) (p q : Properties) (change : Change)

/-- Replacing the properties of a fact changes that fact and no other; a fact that was never made
stays empty. -/
theorem cell_replace : (r.replace id p).cell id' =
    if id' = id ∧ id.index < r.cells.size then { r.cell id with properties := p }
    else r.cell id' := by
  cases id with
  | mk i =>
    cases id' with
    | mk j =>
      simp only [cell, replace, Array.getD_eq_getD_getElem?, Array.getElem?_modify, FactId.mk.injEq]
      by_cases same : i = j
      · subst same
        by_cases bound : i < r.cells.size
        · simp [bound]
        · simp [bound]
      · simp [same, Ne.symm same]

/-- Undoing an addition changes that fact and no other. -/
theorem cell_revert : (r.revert id change).cell id' =
    if id' = id then { r.cell id with properties := (r.contents id).truncate change }
    else r.cell id' := by
  unfold revert
  rw [cell_replace]
  by_cases same : id' = id
  · subst same
    by_cases bound : id'.index < r.cells.size
    · simp [bound]
    · have vacant : r.cell id' = ⟨.empty, []⟩ := by
        simp [cell, Array.getD_eq_getD_getElem?, bound]
      simp [bound, contents, vacant, Properties.truncate_empty]
  · simp [same]

/-- A new fact changes no other. -/
theorem cell_add (reserved : List String) : (r.add p reserved).cell id =
    if id = r.nextId then ⟨p, reserved⟩ else r.cell id := by
  cases id with
  | mk i =>
    simp only [cell, add, nextId, Array.getD_eq_getD_getElem?, Array.getElem?_push, FactId.mk.injEq]
    split
    · rfl
    · rfl

@[simp] theorem size_replace : (r.replace id p).cells.size = r.cells.size := by
  simp [replace]

@[simp] theorem size_revert : (r.revert id change).cells.size = r.cells.size := by
  simp [revert]

@[simp] theorem size_add (reserved : List String) :
    (r.add p reserved).cells.size = r.cells.size + 1 := by
  simp [add]

/-- Of two replacements of the same fact only the second counts. -/
theorem replace_replace : (r.replace id p).replace id q = r.replace id q := by
  simp only [replace, mk.injEq]
  apply Array.ext
  · simp
  · intro i _ _
    by_cases same : id.index = i
    · simp [Array.getElem_modify, same]
    · simp [Array.getElem_modify, same]

/-- Replacing what a fact holds by the same changes nothing. -/
theorem replace_contents : r.replace id (r.contents id) = r := by
  cases r with
  | mk cells =>
    simp only [replace, mk.injEq]
    apply Array.ext
    · simp
    · intro i _ bound
      by_cases same : id.index = i
      · subst same
        simp [Array.getElem_modify, contents, cell, Array.getD_eq_getD_getElem?, bound]
      · simp [Array.getElem_modify, same]

variable {r id p change} {name : String} {value : Value}

/-- Undoing an addition to a fact gives the register before it. -/
theorem revert_replace (solid : (r.contents id).Solid)
    (added : (r.contents id).append name value = (p, some change)) :
    (r.replace id p).revert id change = r := by
  by_cases bound : id.index < r.cells.size
  · have now : (r.replace id p).contents id = p := by
      simp [contents, cell_replace, bound]
    unfold revert
    rw [now, Properties.truncate_append solid added, replace_replace, replace_contents]
  · have unmade : ∀ q, r.replace id q = r := by
      intro q
      simp only [replace, Array.modify, Array.modifyM, dif_neg bound]
      rfl
    unfold revert
    rw [unmade p, unmade]

/-- Undoing an addition that is gone already changes nothing. -/
theorem revert_before (solid : (r.contents id).Solid)
    (added : (r.contents id).append name value = (p, some change)) :
    r.revert id change = r := by
  unfold revert
  rw [Properties.truncate_before solid added, replace_contents]

end Register

end Annals
