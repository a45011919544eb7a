import Annals.Proofs.Query.Lexing

/-!
# Queries on several lines

A line end closes whatever may be open at the end of a text that is read as a whole: a word, or a
comment. Only a quoted text goes on over a line end, and a text that ends inside of one is not read
at all. So the tokens of two texts with a line end between them are those of the one and then those
of the other.

* `Segment.ofCharsAt_append` says this of the segments from any place on; the induction is over the
  reader, which may be within a word, a comment or a quoted text.
* `Token.ofQuery_lines` is the result.
-/

set_option autoImplicit false

namespace Annals

namespace Segment

variable {segments : List Segment} {rest : List Char}

/-- A word comes before the segments that follow it, be they few or many. -/
theorem flush_append (pending : List Char) (segments more : List Segment) :
    flush pending (segments ++ more) = flush pending segments ++ more := by
  cases pending with
  | nil => rfl
  | cons c others => rfl

/-- A line end closes a word. -/
theorem ofCharsAt_lineEnd (pending rest : List Char) :
    ofCharsAt (.plain pending) ('\n' :: rest)
      = (ofChars rest).map (flush pending [] ++ ·) := by
  have closes : ofCharsAt (.plain pending) ('\n' :: rest)
      = (ofChars rest).map (flush pending) := rfl
  rw [closes]
  congr 1
  funext more
  rw [← flush_append, List.nil_append]

/-- What is put before the segments of a text is put before those of the text with more behind. -/
theorem map_ahead {f : List Segment → List Segment}
    (ahead : ∀ segments more, f (segments ++ more) = f segments ++ more)
    {here : Except TokenFault (List Segment)} (result : here.map f = .ok segments)
    {whole more : Except TokenFault (List Segment)}
    (read : ∀ after, here = .ok after → whole = more.map (after ++ ·)) :
    whole.map f = more.map (segments ++ ·) := by
  obtain ⟨after, inside, rfl⟩ := map_eq_ok.mp result
  rw [read after inside]
  cases more with
  | error fault => rfl
  | ok segments => exact congrArg Except.ok (ahead after segments)

/-- The segments of a text with a line end and another text behind it are those of the text and then
those of the other. -/
theorem ofCharsAt_append (place : Place) (chars : List Char) :
    ∀ {segments : List Segment}, ofCharsAt place chars = .ok segments →
      ofCharsAt place (chars ++ '\n' :: rest) = (ofChars rest).map (segments ++ ·) := by
  fun_induction ofCharsAt place chars with
  | case1 pending =>
    intro segments result
    cases result
    exact ofCharsAt_lineEnd pending rest
  | case2 pending =>
    intro segments result
    cases result
    exact ofCharsAt_lineEnd pending rest
  | case3 quote content =>
    intro segments result
    cases result
  | case4 pending chars ih =>
    intro segments result
    exact ih result
  | case5 pending c chars notHash isQuote ih =>
    intro segments result
    rw [List.cons_append, ofCharsAt, if_neg notHash, if_pos isQuote]
    exact map_ahead (flush_append pending) result fun _ => ih
  | case6 pending chars _ _ ih =>
    intro segments result
    exact map_ahead (fun segments => flush_append pending (.opening :: segments)) result fun _ => ih
  | case7 pending chars _ _ _ ih =>
    intro segments result
    exact map_ahead (fun segments => flush_append pending (.closing :: segments)) result fun _ => ih
  | case8 pending c chars notHash notQuote notOpening notClosing blank ih =>
    intro segments result
    rw [List.cons_append, ofCharsAt, if_neg notHash, if_neg notQuote, if_neg notOpening,
      if_neg notClosing, if_pos blank]
    exact map_ahead (flush_append pending) result fun _ => ih
  | case9 pending c chars notHash notQuote notOpening notClosing notBlank ih =>
    intro segments result
    rw [List.cons_append, ofCharsAt, if_neg notHash, if_neg notQuote, if_neg notOpening,
      if_neg notClosing, if_neg notBlank]
    exact ih result
  | case10 pending chars ih =>
    intro segments result
    exact map_ahead (flush_append pending) result fun _ => ih
  | case11 pending c chars notEnd ih =>
    intro segments result
    rw [List.cons_append, ofCharsAt, if_neg notEnd]
    exact ih result
  | case12 quote content c chars kept ih =>
    intro segments result
    rw [List.cons_append, ofCharsAt, if_pos kept]
    exact ih result
  | case13 quote content chars _ _ =>
    intro segments result
    cases result
  | case14 content c chars notKept nonempty ih =>
    intro segments result
    rw [List.cons_append, ofCharsAt, if_neg notKept, if_pos rfl, if_neg nonempty]
    exact map_ahead (fun _ _ => rfl) result fun _ => ih
  | case15 quote content c chars notKept notEnd ih =>
    intro segments result
    rw [List.cons_append, ofCharsAt, if_neg notKept, if_neg notEnd]
    exact ih result

theorem ofChars_append {chars : List Char} (read : ofChars chars = .ok segments) :
    ofChars (chars ++ '\n' :: rest) = (ofChars rest).map (segments ++ ·) :=
  ofCharsAt_append (.plain []) chars read

end Segment

namespace Token

/-- Of a text that can be read and any other text, with a line end between them, the tokens are
those of the one and then those of the other; they cannot be read if the other text cannot, and for
the same reason. -/
theorem ofQuery_lines {a : String} {tokens : List Token} (read : ofQuery a = .ok tokens)
    (b : String) : ofQuery (a ++ "\n" ++ b) = (ofQuery b).map (tokens ++ ·) := by
  obtain ⟨segments, cut, words⟩ := bind_eq_ok.mp read
  have chars : (a ++ "\n" ++ b).toList = a.toList ++ '\n' :: b.toList := by
    simp
  unfold ofQuery
  rw [chars, Segment.ofChars_append cut]
  cases Segment.ofChars b.toList with
  | error fault => rfl
  | ok more =>
    show (segments ++ more).mapM ofSegment = (more.mapM ofSegment).map (tokens ++ ·)
    rw [List.mapM_append, words]
    cases more.mapM ofSegment with
    | error fault => rfl
    | ok others => rfl

/-- A comment that holds quotes and parentheses, and a word right before it, both end with the line;
the text on the next two lines goes on over the line end in it. -/
theorem ofQuery_lines_commented :
    let a := "(eq 'a#b' x# it's ("
    let b := "'y\n)' 7)"
    let tokens : List Token := [.opening, .symbol "eq", .str "a#b", .symbol "x"]
    ofQuery a = .ok tokens ∧
      ofQuery (a ++ "\n" ++ b) = .ok (tokens ++ [.str "y\n)", .int 7, .closing]) ∧
      ofQuery (a ++ "\n" ++ "it's") = .error .unclosedText := by
  intro a b tokens
  have read : ofQuery a = .ok tokens := by decide +kernel
  have others : ofQuery b = .ok [.str "y\n)", .int 7, .closing] := by decide +kernel
  have fails : ofQuery "it's" = .error .unclosedText := by decide +kernel
  refine ⟨read, ?_, ?_⟩
  · rw [ofQuery_lines read, others]
    rfl
  · rw [ofQuery_lines read, fails]
    rfl

end Token

end Annals
