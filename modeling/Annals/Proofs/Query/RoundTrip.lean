import Annals.Proofs.Query.Fractions
import Annals.Proofs.Query.Instants
import Annals.Proofs.Query.Reading
import Annals.Proofs.Query.Simplify

/-!
# The canonical text of a term is read back

Whatever a query is, the tokens that are read of it are legible: each of them is read back from
the way it is written. So the text of a term that was read is read as that term, with the same
limit on nesting, and simplifying does not change this.

* `Token.legible_of_ofQuery`: the tokens of every query are legible.
* `Term.ofQuery_text`: the text of a term with legible tokens has these tokens.
* `Term.text_reads_back` is the round trip, with and without simplification.
-/

set_option autoImplicit false

namespace Annals

namespace Token

/-- Every word that is read as a token makes a legible token. -/
theorem legible_of_ofWord {word : List Char} {token : Token} (clean : (Segment.word word).Clean)
    (read : ofWord word = .ok token) : token.Legible := by
  have whole := read
  unfold ofWord at read
  split at read
  · split at read
    · cases read
      exact legible_int _
    · cases read
  · simp only at read
    split at read
    · rename_i finite
      cases read
      exact legible_float finite
    · cases read
  · rename_i fields
    split at read
    · rename_i clock
      cases read
      exact legible_time ⟨Instant.year_of_wordFields? fields, clock⟩
    · cases read
  · split at read
    · cases read
      exact legible_symbol clean whole
    · cases read

/-- The tokens of every query are legible. -/
theorem legible_of_ofQuery {query : String} {tokens : List Token}
    (read : ofQuery query = .ok tokens) : ∀ token ∈ tokens, token.Legible := by
  unfold ofQuery at read
  cases cut : Segment.ofChars query.toList with
  | error fault =>
    rw [cut] at read
    cases read
  | ok segments =>
    rw [cut] at read
    intro token mem
    obtain ⟨segment, isSegment, reads⟩ := exists_of_mapM read token mem
    have clean := Segment.ofChars_clean cut segment isSegment
    cases segment with
    | opening =>
      cases reads
      exact ⟨trivial, rfl⟩
    | closing =>
      cases reads
      exact ⟨trivial, rfl⟩
    | quoted chars =>
      cases reads
      exact legible_str clean
    | word chars => exact legible_of_ofWord clean reads

end Token

namespace Term

/-- The text of a term with legible tokens has these tokens. -/
theorem ofQuery_text {t : Term} (legible : ∀ token ∈ t.tokens, token.Legible) :
    Token.ofQuery t.text = .ok t.tokens := by
  have cut := ofCharsAt_text (fun token mem => (legible token mem).clean) []
  have segments : Segment.ofChars t.text.toList = .ok (t.tokens.map Token.segment) := by
    rw [List.append_nil] at cut
    rw [Segment.ofChars, cut]
    simp only [Segment.ofCharsAt, Segment.flush, Except.map, List.isEmpty_nil, if_true,
      List.append_nil]
  have read : (t.tokens.map Token.segment).mapM Token.ofSegment = .ok t.tokens :=
    mapM_map_eq fun token mem => (legible token mem).reads
  unfold Token.ofQuery
  rw [segments]
  exact read

/-- What the builder of terms reads of a query: a term whose tokens are those of the query. -/
theorem verbatim_ofQuery_iff {limit : Nat} {query : String} {t : Term} {n : Nat} :
    Factory.verbatim.ofQuery limit query = .ok (t, n)
      ↔ Token.ofQuery query = .ok t.tokens ∧ t.depth ≤ limit
        ∧ t.anyOperator Operator.isMisnamed = false ∧ n = t.tokens.length := by
  unfold Factory.ofQuery
  constructor
  · intro read
    split at read
    · cases read
    · rename_i tokens cut
      split at read
      · cases read
      · rename_i node parsed
        cases read
        obtain ⟨same, shallow, named⟩ := (Factory.verbatim_ofTokens_iff limit tokens t).mp parsed
        rw [← same]
        exact ⟨cut, shallow, named, rfl⟩
  · rintro ⟨cut, shallow, named, rfl⟩
    have parsed := (Factory.verbatim_ofTokens_iff limit t.tokens t).mpr ⟨rfl, shallow, named⟩
    rw [cut]
    simp only [parsed]

/-- A query is simplified after it was read. -/
theorem ofQuery_of_verbatim {limit : Nat} {query : String} {t : Term} {n : Nat}
    (read : Factory.verbatim.ofQuery limit query = .ok (t, n)) :
    ofQuery limit query = .ok (t.simplify, n) := by
  obtain ⟨cut, shallow, named, rfl⟩ := verbatim_ofQuery_iff.mp read
  have parsed := (Factory.verbatim_ofTokens_iff limit t.tokens t).mpr ⟨rfl, shallow, named⟩
  unfold ofQuery Factory.ofQuery
  rw [cut]
  simp only [Factory.simplifying_ofTokens, parsed, Except.map]

/-- Whatever query a term was read of, its canonical text is read as that term with the same limit,
and so is the text of the simplified term with simplification. -/
theorem text_reads_back {limit : Nat} {query : String} {t : Term} {n : Nat}
    (read : Factory.verbatim.ofQuery limit query = .ok (t, n)) :
    Factory.verbatim.ofQuery limit t.text = .ok (t, n)
      ∧ ∃ (simple : Term) (count : Nat), ofQuery limit query = .ok (simple, n)
        ∧ ofQuery limit simple.text = .ok (simple, count) := by
  obtain ⟨cut, shallow, named, rfl⟩ := verbatim_ofQuery_iff.mp read
  have legible := Token.legible_of_ofQuery cut
  refine ⟨verbatim_ofQuery_iff.mpr ⟨ofQuery_text legible, shallow, named, rfl⟩, ?_⟩
  -- the simplified term is a part of the term, so that it can be read without simplification
  have contains := contains_simplify t
  have simpleLegible : ∀ token ∈ t.simplify.tokens, token.Legible := by
    intro token mem
    exact legible token (contains.tokens token mem)
  have simple : Factory.verbatim.ofQuery limit t.simplify.text
      = .ok (t.simplify, t.simplify.tokens.length) :=
    verbatim_ofQuery_iff.mpr ⟨ofQuery_text simpleLegible,
      Nat.le_trans contains.shallow shallow, contains.operators _ named, rfl⟩
  have again := ofQuery_of_verbatim simple
  rw [simplify_simplify] at again
  exact ⟨t.simplify, _, ofQuery_of_verbatim read, again⟩

/-- A query with one operand in two spellings, a comment mark in a text and a leap day. -/
theorem text_reads_back_spellings :
    let same : Operand Term := .term (.node .eq [.symbol "a", .literal (.str "#'s")])
    let leap : Instant := ⟨951868799, 0, by decide⟩
    let t : Term := .node .and [same, same, .literal (.time leap)]
    let query := "(and (eq a '#\\'s')(eq a \"#'s\") 2000-02-29T23:59:59Z) # end"
    Factory.verbatim.ofQuery 2 query = .ok (t, 14)
      ∧ Factory.verbatim.ofQuery 2 t.text = .ok (t, 14)
      ∧ ∃ (simple : Term) (count : Nat), ofQuery 2 query = .ok (simple, 14)
        ∧ ofQuery 2 simple.text = .ok (simple, count) := by
  intro same leap t query
  have read : Factory.verbatim.ofQuery 2 query = .ok (t, 14) := by decide +kernel
  exact ⟨read, text_reads_back read⟩

end Term

end Annals
