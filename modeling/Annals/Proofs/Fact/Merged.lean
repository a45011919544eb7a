import Mathlib.Data.List.Induction
import Annals.Proofs.Fact.Orderly
import Annals.Proofs.Outcome

/-!
# What a fact holds after many writes

Writes to an empty fact leave the names in the order of their first writes, each with the values
that were written to it, without those that are the same as an earlier one. `Properties.ofWrites`
says so without writing anything, and `Properties.append_ofWrites` is the step that shows it.

* `Properties.merged` is the same for names with lists of values, some of which may be repeated.
* `Properties.Admissible` says when a name may be written with a list of values.
* `Properties.ofPairs_eq_ok_iff`: a fact is made of names with values if all are admissible, and
  then it is what they merge into.
-/

set_option autoImplicit false

namespace Annals

theorem Binary64.equals_trans {x y z : Binary64} (first : x.equals y = true)
    (second : y.equals z = true) : x.equals z = true := by
  have keys : ∀ {x y : Binary64}, x.equals y = true ↔
      x.isNaN = false ∧ y.isNaN = false ∧ x.key = y.key := by
    intro x y
    unfold equals compare?
    split
    · next nan =>
      simp only [Bool.or_eq_true] at nan
      rcases nan with nan | nan <;> simp [nan]
    · next numbers =>
      simp only [Bool.or_eq_true, not_or, Bool.not_eq_true] at numbers
      simp [numbers]
  obtain ⟨number, -, same⟩ := keys.mp first
  obtain ⟨-, number', same'⟩ := keys.mp second
  exact keys.mpr ⟨number, number', same.trans same'⟩

/-- What is the same as something that is the same as a third thing is the same as the third. -/
theorem Value.same_trans {u v w : Value} (first : u.same v = true) (second : v.same w = true) :
    u.same w = true := by
  cases u <;> cases v <;> simp only [same, Bool.false_eq_true] at first <;>
    cases w <;> simp only [same, Bool.false_eq_true] at second ⊢
  · exact beq_iff_eq.mpr ((beq_iff_eq.mp first).trans (beq_iff_eq.mp second))
  · exact Binary64.equals_trans first second
  · exact beq_iff_eq.mpr ((beq_iff_eq.mp first).trans (beq_iff_eq.mp second))
  · exact beq_iff_eq.mpr ((beq_iff_eq.mp first).trans (beq_iff_eq.mp second))

theorem eraseDups_concat {α : Type} [BEq α] [LawfulBEq α] (xs : List α) (x : α) :
    (xs ++ [x]).eraseDups = if x ∈ xs then xs.eraseDups else xs.eraseDups ++ [x] := by
  rw [List.eraseDups_append]
  split
  · next mem => simp [List.removeAll, mem]
  · next new => simp [List.removeAll, new, List.eraseDups_cons]

namespace Properties

/-- The values of a list that are not the same as one before them, in the list or in `earlier`. -/
def firstOccurrences (earlier : List Value) : List Value → List Value
  | [] => []
  | v :: rest =>
    if holds earlier v then firstOccurrences (v :: earlier) rest
    else v :: firstOccurrences (v :: earlier) rest

/-- The values that are written to a name, in the order of the writes. -/
def valuesFor (name : String) (writes : List (String × Value)) : List Value :=
  (writes.filter fun write => write.1 = name).map Prod.snd

/-- The names of writes in the order of the first ones, each with the values written to it, without
those that were written before. -/
def ofWrites (writes : List (String × Value)) : Properties :=
  ⟨(writes.map Prod.fst).eraseDups.map fun name =>
    (name, firstOccurrences [] (valuesFor name writes))⟩

/-- Names with lists of values, where a name that is repeated is merged with its first place, and a
value that is repeated is left out. -/
def merged (pairs : List (String × List Value)) : Properties :=
  ⟨(pairs.map Prod.fst).eraseDups.map fun name =>
    (name, firstOccurrences [] ((pairs.filter fun pair => pair.1 = name).flatMap Prod.snd))⟩

section Occurrences

variable {earlier values : List Value} {value : Value}

theorem holds_cons (v : Value) : holds (v :: values) value = (v.same value || holds values value) :=
  rfl

/-- Leaving out repeated values leaves nothing out that is not the same as a value that is kept. -/
theorem holds_firstOccurrences (earlier values : List Value) (value : Value) :
    (holds earlier value || holds (firstOccurrences earlier values) value)
      = (holds earlier value || holds values value) := by
  induction values generalizing earlier with
  | nil => rfl
  | cons v rest ih =>
    have later := ih (v :: earlier)
    rw [holds_cons] at later
    rw [firstOccurrences, holds_cons]
    split
    · next old =>
      cases same : v.same value with
      | false =>
        rw [same] at later
        simpa using later
      | true =>
        -- what is the same as a repeated value is the same as the value that it repeats
        obtain ⟨u, mem, before⟩ := List.any_eq_true.mp old
        have held : holds earlier value = true :=
          List.any_eq_true.mpr ⟨u, mem, Value.same_trans before same⟩
        rw [held, Bool.true_or, Bool.true_or]
    · next new =>
      rw [holds_cons]
      cases same : v.same value with
      | false =>
        rw [same] at later
        simpa using later
      | true => simp

/-- The last value of a list is kept if it is not the same as one before it. -/
theorem firstOccurrences_concat (earlier values : List Value) (value : Value) :
    firstOccurrences earlier (values ++ [value]) =
      if holds earlier value || holds values value then firstOccurrences earlier values
      else firstOccurrences earlier values ++ [value] := by
  induction values generalizing earlier with
  | nil =>
    rw [List.nil_append, firstOccurrences, show holds [] value = false from rfl, Bool.or_false]
    rfl
  | cons v rest ih =>
    have same : (holds (v :: earlier) value || holds rest value)
        = (holds earlier value || holds (v :: rest) value) := by
      rw [holds_cons, holds_cons, ← Bool.or_assoc, Bool.or_comm (v.same value)]
    rw [List.cons_append, firstOccurrences, firstOccurrences, ih, same]
    split
    · rfl
    · split <;> rfl

end Occurrences

section Writes

variable {writes : List (String × Value)} {name : String}

theorem lookup_map_pair (names : List String) (f : String → List Value) :
    (names.map fun key => (key, f key)).lookup name
      = if name ∈ names then some (f name) else none := by
  induction names with
  | nil => rfl
  | cons key rest ih =>
    rw [List.map_cons, List.lookup_cons, ih]
    by_cases same : name = key
    · simp [same]
    · simp [same, beq_false_of_ne same]

/-- Changing the history of one of several distinct names. -/
theorem mapHistory_map_pair {names : List String} (distinct : names.Nodup)
    (f : String → List Value) (g : List Value → List Value) :
    mapHistory name g (names.map fun key => (key, f key))
      = names.map fun key => (key, if key = name then g (f key) else f key) := by
  induction names with
  | nil => rfl
  | cons key rest ih =>
    obtain ⟨apart, distinct⟩ := List.nodup_cons.mp distinct
    rw [List.map_cons, List.map_cons, mapHistory]
    split
    · next here =>
      have others : rest.map (fun key => (key, f key))
          = rest.map fun key => (key, if key = name then g (f key) else f key) := by
        refine List.map_congr_left fun other mem => ?_
        rw [if_neg]
        rintro rfl
        rw [here] at apart
        exact apart mem
      rw [others]
    · rw [ih distinct]

theorem nodup_eraseDups (names : List String) : names.eraseDups.Nodup := by
  induction names using List.reverseRecOn with
  | nil => exact List.nodup_nil
  | append_singleton names name ih =>
    rw [eraseDups_concat]
    split
    · exact ih
    · next new =>
      refine List.nodup_append.mpr ⟨ih, List.pairwise_singleton _ _, ?_⟩
      rintro other mem _ last rfl
      rw [List.mem_singleton.mp last] at mem
      exact new (List.mem_eraseDups.mp mem)

theorem valuesFor_concat (key name : String) (value : Value) :
    valuesFor key (writes ++ [(name, value)])
      = if key = name then valuesFor key writes ++ [value] else valuesFor key writes := by
  unfold valuesFor
  by_cases same : key = name
  · simp [same]
  · simp [same, Ne.symm same]

theorem valuesFor_eq_nil (new : name ∉ writes.map Prod.fst) : valuesFor name writes = [] := by
  refine List.map_eq_nil_iff.mpr (List.filter_eq_nil_iff.mpr fun write mem => ?_)
  simp only [decide_eq_true_eq]
  rintro rfl
  exact new (List.mem_map_of_mem mem)

theorem get?_ofWrites (writes : List (String × Value)) (name : String) :
    (ofWrites writes).get? name = if name ∈ writes.map Prod.fst
      then some (firstOccurrences [] (valuesFor name writes)) else none := by
  simp only [get?, ofWrites, lookup_map_pair, List.mem_eraseDups]

/-- One write more. -/
theorem append_ofWrites (writes : List (String × Value)) (name : String) (value : Value) :
    ((ofWrites writes).append name value).1 = ofWrites (writes ++ [(name, value)]) := by
  have found := get?_ofWrites writes name
  have all : ofWrites (writes ++ [(name, value)])
      = ⟨(if name ∈ writes.map Prod.fst then (writes.map Prod.fst).eraseDups
          else (writes.map Prod.fst).eraseDups ++ [name]).map fun key =>
        (key, firstOccurrences [] (if key = name then valuesFor key writes ++ [value]
          else valuesFor key writes))⟩ := by
    simp only [ofWrites, List.map_append, List.map_cons, List.map_nil, eraseDups_concat,
      valuesFor_concat]
  have held : holds (firstOccurrences [] (valuesFor name writes)) value
      = holds (valuesFor name writes) value := holds_firstOccurrences [] _ value
  rw [all]
  by_cases known : name ∈ writes.map Prod.fst
  · rw [if_pos known] at found ⊢
    cases repeated : holds (valuesFor name writes) value with
    | true =>
      rw [append_held found (held.trans repeated)]
      refine congrArg Properties.mk (List.map_congr_left fun key _ => ?_)
      split
      · next same => rw [same, firstOccurrences_concat, repeated]; rfl
      · rfl
    | false =>
      rw [append_extend found (held.trans repeated)]
      refine congrArg Properties.mk ?_
      rw [ofWrites, mapHistory_map_pair (nodup_eraseDups _)]
      refine List.map_congr_left fun key _ => ?_
      split
      · next same => rw [same, firstOccurrences_concat, repeated]; rfl
      · rfl
  · rw [if_neg known] at found ⊢
    rw [append_begin found]
    refine congrArg Properties.mk ?_
    rw [ofWrites, List.map_append, List.map_cons, List.map_nil, if_pos rfl,
      valuesFor_eq_nil known]
    refine congrArg (· ++ _) (List.map_congr_left fun key mem => ?_)
    rw [if_neg]
    rintro rfl
    exact known (List.mem_eraseDups.mp mem)

/-- Writing to an empty fact. -/
theorem foldl_append_eq (writes : List (String × Value)) :
    writes.foldl (fun p write => (p.append write.1 write.2).1) empty = ofWrites writes := by
  induction writes using List.reverseRecOn with
  | nil => rfl
  | append_singleton writes write ih =>
    rw [List.foldl_append, List.foldl_cons, List.foldl_nil, ih, append_ofWrites]

end Writes

section Pairs

variable {reserved : List String} {name : String} {values : List Value} {p p' : Properties}

/-- Whether a name may be written with a list of values, where `reserved` are the names that a store
refuses. -/
structure Admissible (reserved : List String) (name : String) (values : List Value) : Prop where
  wellFormed : isPropertyName name = true
  free : name ∉ reservedNames ∧ name ∉ reserved
  nonempty : values ≠ []
  noEmptyText : .str "" ∉ values
  noNaN : ∀ x, .float x ∈ values → x.isNaN = false

theorem admissible_iff : Admissible reserved name values ↔
    values ≠ [] ∧ ∀ value ∈ values, check reserved name value = .ok () := by
  simp only [check_ok_iff, checkValue_ok_iff]
  constructor
  · intro admissible
    refine ⟨admissible.nonempty, fun value mem =>
      ⟨⟨admissible.wellFormed, admissible.free⟩, ?_, ?_⟩⟩
    · rintro rfl
      exact admissible.noEmptyText mem
    · rintro x rfl
      exact admissible.noNaN x mem
  · rintro ⟨nonempty, checked⟩
    obtain ⟨value, mem⟩ := List.exists_mem_of_ne_nil values nonempty
    obtain ⟨⟨wellFormed, free⟩, -⟩ := checked value mem
    exact ⟨wellFormed, free, nonempty, fun mem => (checked _ mem).2.1 rfl,
      fun x mem => (checked _ mem).2.2 x rfl⟩

theorem set_eq_ok_iff {value : Value} : p.set reserved name value = .ok p' ↔
    check reserved name value = .ok () ∧ p' = (p.append name value).1 := by
  rw [set, bind_eq_ok]
  constructor
  · rintro ⟨_, checked, same⟩
    exact ⟨checked, (Except.ok.inj same).symm⟩
  · rintro ⟨checked, rfl⟩
    exact ⟨(), checked, rfl⟩

theorem setAll_eq_ok_iff : p.setAll reserved name values = .ok p' ↔
    Admissible reserved name values ∧
      p' = values.foldl (fun p value => (p.append name value).1) p := by
  rw [admissible_iff, setAll]
  by_cases none : values = []
  · simp [none]
  · have step (p : Properties) (value : Value) (p' : Properties) :
        p.set reserved name value = .ok p' ↔
          check reserved name value = .ok () ∧ p' = (p.append name value).1 := set_eq_ok_iff
    rw [if_neg (by simpa using none), foldlM_eq_ok_iff step, and_assoc]
    exact ⟨fun ok => ⟨none, ok⟩, fun ok => ok.2⟩

/-- The writes that names with lists of values stand for. -/
def writesOf (pairs : List (String × List Value)) : List (String × Value) :=
  pairs.flatMap fun pair => pair.2.map fun value => (pair.1, value)

theorem valuesFor_writesOf (name : String) (pairs : List (String × List Value)) :
    valuesFor name (writesOf pairs)
      = (pairs.filter fun pair => pair.1 = name).flatMap Prod.snd := by
  induction pairs with
  | nil => rfl
  | cons pair rest ih =>
    have first : valuesFor name (pair.2.map fun value => (pair.1, value))
        = if pair.1 = name then pair.2 else [] := by
      unfold valuesFor
      by_cases here : pair.1 = name
      · simp [here, List.filter_map, Function.comp_def]
      · simp [here, List.filter_map, Function.comp_def]
    have split : valuesFor name (writesOf (pair :: rest))
        = valuesFor name (pair.2.map fun value => (pair.1, value))
          ++ valuesFor name (writesOf rest) := by
      simp only [valuesFor, writesOf, List.flatMap_cons, List.filter_append, List.map_append]
    rw [split, first, ih, List.filter_cons]
    split <;> simp_all

theorem eraseDups_append_replicate (names : List String) (name : String) (count : Nat) :
    (names ++ List.replicate (count + 1) name).eraseDups = (names ++ [name]).eraseDups := by
  induction count with
  | zero => rfl
  | succ count ih =>
    rw [List.replicate_succ', ← List.append_assoc, eraseDups_concat, if_pos (by simp), ih]

theorem eraseDups_writesOf {pairs : List (String × List Value)}
    (nonempty : ∀ pair ∈ pairs, pair.2 ≠ []) :
    ((writesOf pairs).map Prod.fst).eraseDups = (pairs.map Prod.fst).eraseDups := by
  induction pairs using List.reverseRecOn with
  | nil => rfl
  | append_singleton pairs pair ih =>
    obtain ⟨value, rest, values⟩ := List.exists_cons_of_ne_nil
      (nonempty pair (List.mem_append_right _ List.mem_cons_self))
    have names : (writesOf (pairs ++ [pair])).map Prod.fst
        = (writesOf pairs).map Prod.fst ++ List.replicate (rest.length + 1) pair.1 := by
      simp [writesOf, values, Function.comp_def, List.map_const', List.replicate_succ]
    have known : pair.1 ∈ (writesOf pairs).map Prod.fst ↔ pair.1 ∈ pairs.map Prod.fst := by
      rw [← List.mem_eraseDups, ih fun other mem => nonempty other (List.mem_append_left _ mem),
        List.mem_eraseDups]
    rw [names, eraseDups_append_replicate, eraseDups_concat, List.map_append, List.map_cons,
      List.map_nil, eraseDups_concat,
      ih fun other mem => nonempty other (List.mem_append_left _ mem)]
    simp only [known]

/-- Names with values, none of which is without values, merge into what writing all of them
leaves. -/
theorem merged_eq_ofWrites {pairs : List (String × List Value)}
    (nonempty : ∀ pair ∈ pairs, pair.2 ≠ []) : merged pairs = ofWrites (writesOf pairs) := by
  simp only [merged, ofWrites, eraseDups_writesOf nonempty, valuesFor_writesOf]

/-- A fact is made of names with values exactly if every name may be written with its values, and
then it is what they merge into. -/
theorem ofPairs_eq_ok_iff {pairs : List (String × List Value)} : ofPairs reserved pairs = .ok p ↔
    (∀ pair ∈ pairs, Admissible reserved pair.1 pair.2) ∧ p = merged pairs := by
  have step (p : Properties) (pair : String × List Value) (p' : Properties) :
      p.setAll reserved pair.1 pair.2 = .ok p' ↔ Admissible reserved pair.1 pair.2 ∧
        p' = pair.2.foldl (fun p value => (p.append pair.1 value).1) p := setAll_eq_ok_iff
  refine (foldlM_eq_ok_iff step).trans (and_congr_right fun admissible => ?_)
  have writes : (writesOf pairs).foldl (fun p write => (p.append write.1 write.2).1) empty
      = pairs.foldl (fun p pair =>
          pair.2.foldl (fun p value => (p.append pair.1 value).1) p) empty := by
    simp only [writesOf, List.foldl_flatMap, List.foldl_map]
  rw [← writes, foldl_append_eq, merged_eq_ofWrites fun pair mem => (admissible pair mem).nonempty]

end Pairs

end Properties

end Annals
