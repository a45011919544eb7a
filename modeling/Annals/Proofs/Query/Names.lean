import Annals.Proofs.Fact.Merged
import Annals.Proofs.Query.Literals
import Annals.Proofs.Query.Symbols

/-!
# Symbols of a query and names of properties

Whether a text names a property is decided in two places: a write looks at its characters one by
one, and a query cuts it into segments and tries one form of a word after the other. Both agree on
every text. What a property is called is the one symbol of its name as a query, and a symbol that is
not a parameter is what a property may be called.

* `Token.isSymbolForm_of_ofQuery`: whatever else a query holds, its symbols are of the form of one.
* `Token.isPropertyName_iff` is the agreement on one text.
* `Token.symbols_name_properties` draws the conclusion for the facts of a store and for all queries.
-/

set_option autoImplicit false

namespace Annals

namespace Token

variable {name query : String} {tokens : List Token}

/-- Only a word of the form of a symbol is read as a symbol. -/
theorem isSymbolForm_of_ofWord {chars : List Char} (read : ofWord chars = .ok (.symbol name)) :
    isSymbolForm name.toList = true := by
  unfold ofWord at read
  dsimp only at read
  split at read
  · split at read
    · cases read
    · cases read
  · split at read
    · cases read
    · cases read
  · split at read
    · cases read
    · cases read
  · split at read
    · next form =>
      cases read
      rwa [String.toList_ofList]
    · cases read

theorem isSymbolForm_of_ofSegment {segment : Segment}
    (read : ofSegment segment = .ok (.symbol name)) : isSymbolForm name.toList = true := by
  cases segment with
  | opening => cases read
  | closing => cases read
  | word chars => exact isSymbolForm_of_ofWord read
  | quoted chars => cases read

/-- The symbols of a query are of the form of a symbol. -/
theorem isSymbolForm_of_ofQuery (read : ofQuery query = .ok tokens)
    (mem : .symbol name ∈ tokens) : isSymbolForm name.toList = true := by
  obtain ⟨segments, -, words⟩ := bind_eq_ok.mp read
  obtain ⟨segment, -, reads⟩ := exists_of_mapM words _ mem
  exact isSymbolForm_of_ofSegment reads

/-- A text can name a property exactly if, as a query, it is the one symbol of that name, and the
symbol is no parameter. -/
theorem isPropertyName_iff : isPropertyName name = true ↔
    Term.isParameter name = false ∧ ofQuery name = .ok [.symbol name] := by
  constructor
  · intro named
    refine ⟨isParameter_eq_false named, ?_⟩
    rw [ofQuery_word (legible_of_isPropertyName named).clean, ofWord_of_isPropertyName named]
    rfl
  · rintro ⟨plain, read⟩
    rw [← isSymbolForm_eq plain]
    exact isSymbolForm_of_ofQuery read List.mem_cons_self

end Token

/-- A fact of some store can be given any property whose name is well formed and not reserved. -/
theorem Store.exists_held {name : String} (named : isPropertyName name = true)
    (free : name ∉ reservedNames) :
    ∃ s : Store, s.Reachable ∧ ∃ id, name ∈ (s.properties id).names := by
  have admissible : Properties.Admissible [] name [.int 0] :=
    ⟨named, ⟨free, List.not_mem_nil⟩, by simp, by simp, by simp⟩
  have made : Properties.ofPairs [] [(name, [.int 0])]
      = .ok (Properties.merged [(name, [.int 0])]) := by
    apply Properties.ofPairs_eq_ok_iff.mpr
    simpa using admissible
  refine ⟨_, .step (.create .standard .empty) (.makeFree _ made), ⟨0⟩, ?_⟩
  show name ∈ (Properties.merged [(name, [.int 0])]).names
  simp [Properties.names, Properties.merged, List.eraseDups_cons]

namespace Token

/-- A text can name a property exactly if, as a query, it is the one symbol of that name, and the
symbol is no parameter. So the name of every property that a fact of a store holds is such a symbol,
and every symbol of a query that is no parameter is such a name: unless it is one of the reserved
names, facts can hold a property that is called so. -/
theorem symbols_name_properties (name : String) :
    (isPropertyName name = true ↔
        Term.isParameter name = false ∧ ofQuery name = .ok [.symbol name]) ∧
      (∀ s : Store, s.Reachable → ∀ id, name ∈ (s.properties id).names →
        ofQuery name = .ok [.symbol name]) ∧
      ∀ query tokens, ofQuery query = .ok tokens → .symbol name ∈ tokens →
        Term.isParameter name = false → isPropertyName name = true ∧ (name ∈ reservedNames ∨
          ∃ s : Store, s.Reachable ∧ ∃ id, name ∈ (s.properties id).names) := by
  refine ⟨isPropertyName_iff, ?_, ?_⟩
  · intro s reachable id held
    obtain ⟨entry, mem, rfl⟩ := List.mem_map.mp held
    have written := (reachable.stable Properties.stable_orderly id).written entry mem
    exact (isPropertyName_iff.mp written.wellFormed).2
  · intro query tokens read mem plain
    have named : isPropertyName name = true := by
      rw [← isSymbolForm_eq plain]
      exact isSymbolForm_of_ofQuery read mem
    refine ⟨named, ?_⟩
    by_cases reserved : name ∈ reservedNames
    · exact .inl reserved
    · exact .inr (Store.exists_held named reserved)

/-- A comment, a blank, quotes, a parenthesis, a dollar sign and a letter beyond the lower-case ones
of the ASCII range make something else of a text; an underscore and a digit do not. -/
theorem symbols_name_properties_lookalikes :
    let held := ((Store.create .standard .empty).insert.2.write ⟨⟨0⟩, []⟩ "_x9" (.int 1)).2
    (∀ text ∈ ["a#", " a", "'a'", "a)", "$a", "éa", ""], isPropertyName text = false) ∧
      "_x9" ∈ (held.properties ⟨0⟩).names ∧ ofQuery "_x9" = .ok [.symbol "_x9"] ∧
      ofQuery "(eq class 'a')" = .ok [.opening, .symbol "eq", .symbol "class", .str "a", .closing] ∧
      isPropertyName "class" = true := by
  intro held
  have reachable : held.Reachable :=
    .step (.step (.create .standard .empty) (.insert _)) (.write _ _ _ _)
  have named : "_x9" ∈ (held.properties ⟨0⟩).names := by decide +kernel
  have read : ofQuery "(eq class 'a')"
      = .ok [.opening, .symbol "eq", .symbol "class", .str "a", .closing] := by decide +kernel
  refine ⟨?_, named, (symbols_name_properties "_x9").2.1 held reachable ⟨0⟩ named, read,
    ((symbols_name_properties "class").2.2 _ _ read (by simp) (by decide +kernel)).1⟩
  intro text mem
  have otherwise : ∀ text ∈ ["a#", " a", "'a'", "a)", "$a", "éa", ""],
      ¬(Term.isParameter text = false ∧ ofQuery text = .ok [.symbol text]) := by decide +kernel
  apply Bool.eq_false_iff.mpr
  intro propertyName
  exact otherwise text mem ((symbols_name_properties text).1.mp propertyName)

end Token

end Annals
