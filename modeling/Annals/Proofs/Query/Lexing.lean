import Mathlib.Data.List.Basic
import Annals.Proofs.Outcome

/-!
# Cutting the canonical text of a term

The text of a term is cut back into the segments of its tokens. That needs something of the
tokens: a word must not be empty and must not hold a character that ends it, and a text must not
be empty and must not end in a backslash, because nothing marks a backslash that is meant.

* `Segment.Clean` says this of a segment.
* `Segment.ofChars_clean`: whatever is cut out of a query is clean.
* `Segment.ofCharsAt_text`: the text of a term with clean segments is cut into these segments.
-/

set_option autoImplicit false

namespace Annals

namespace Segment

/-- Whether a character is a part of any word that it stands in. -/
def isWordChar (c : Char) : Bool :=
  c != '#' && !Text.isQuote c && c != '(' && c != ')' && !Text.isBlank c

/-- What is true of every segment of a query. -/
def Clean : Segment → Prop
  | opening => True
  | closing => True
  | word chars => chars ≠ [] ∧ ∀ c ∈ chars, isWordChar c = true
  | quoted chars => chars ≠ [] ∧ chars.getLast? ≠ some Text.backslash

/-- What is true wherever the reader of a query can stand. -/
def Place.Regular : Place → Prop
  | plain pending => ∀ c ∈ pending, isWordChar c = true
  | comment pending => ∀ c ∈ pending, isWordChar c = true
  | inside quote _ => Text.isQuote quote = true

theorem Place.regular_start : (plain []).Regular := by
  intro c mem
  cases mem

theorem clean_flush {pending : List Char} {rest : List Segment}
    (word : ∀ c ∈ pending, isWordChar c = true) (clean : ∀ s ∈ rest, s.Clean) :
    ∀ s ∈ flush pending rest, s.Clean := by
  intro s mem
  cases pending with
  | nil => exact clean s mem
  | cons c others =>
    simp only [flush, List.isEmpty_cons, Bool.false_eq_true, if_false] at mem
    rcases List.mem_cons.mp mem with rfl | mem
    · refine ⟨by simp, ?_⟩
      intro d at_word
      exact word d (List.mem_reverse.mp at_word)
    · exact clean s mem

/-- The segments from any regular place on are clean. -/
theorem ofCharsAt_clean (place : Place) (chars : List Char) :
    ∀ {segments : List Segment}, place.Regular → ofCharsAt place chars = .ok segments →
      ∀ s ∈ segments, s.Clean := by
  fun_induction ofCharsAt place chars with
  | case1 pending =>
    intro segments regular result
    cases result
    exact clean_flush regular (by simp)
  | case2 pending =>
    intro segments regular result
    cases result
    exact clean_flush regular (by simp)
  | case3 quote content =>
    intro segments regular result
    cases result
  | case4 pending rest ih =>
    intro segments regular result
    exact ih regular result
  | case5 pending c rest _ isQuote ih =>
    intro segments regular result
    obtain ⟨after, inside, rfl⟩ := map_eq_ok.mp result
    exact clean_flush regular (ih isQuote inside)
  | case6 pending rest _ _ ih =>
    intro segments regular result
    obtain ⟨after, outside, rfl⟩ := map_eq_ok.mp result
    have clean := ih Place.regular_start outside
    exact clean_flush regular (List.forall_mem_cons.mpr ⟨trivial, clean⟩)
  | case7 pending rest _ _ _ ih =>
    intro segments regular result
    obtain ⟨after, outside, rfl⟩ := map_eq_ok.mp result
    have clean := ih Place.regular_start outside
    exact clean_flush regular (List.forall_mem_cons.mpr ⟨trivial, clean⟩)
  | case8 pending c rest _ _ _ _ blank ih =>
    intro segments regular result
    obtain ⟨after, outside, rfl⟩ := map_eq_ok.mp result
    exact clean_flush regular (ih Place.regular_start outside)
  | case9 pending c rest notHash notQuote notOpening notClosing notBlank ih =>
    intro segments regular result
    refine ih ?_ result
    intro d mem
    rcases List.mem_cons.mp mem with rfl | mem
    · simp [isWordChar, notHash, notQuote, notOpening, notClosing, notBlank]
    · exact regular d mem
  | case10 pending rest ih =>
    intro segments regular result
    obtain ⟨after, outside, rfl⟩ := map_eq_ok.mp result
    exact clean_flush regular (ih Place.regular_start outside)
  | case11 pending c rest _ ih =>
    intro segments regular result
    exact ih regular result
  | case12 quote content c rest _ ih =>
    intro segments regular result
    exact ih regular result
  | case13 quote content rest _ _ =>
    intro segments regular result
    cases result
  | case14 content c rest kept nonempty ih =>
    intro segments regular result
    obtain ⟨after, outside, rfl⟩ := map_eq_ok.mp result
    refine List.forall_mem_cons.mpr ⟨⟨by simpa using nonempty, ?_⟩, ih Place.regular_start outside⟩
    -- the closing quote would have replaced a backslash before it
    simp only [Place.Regular] at regular
    rw [List.getLast?_reverse]
    intro last
    exact kept (by simp [regular, last])
  | case15 quote content c rest _ _ ih =>
    intro segments regular result
    exact ih regular result

theorem ofChars_clean {chars : List Char} {segments : List Segment}
    (result : ofChars chars = .ok segments) : ∀ s ∈ segments, s.Clean :=
  ofCharsAt_clean (.plain []) chars Place.regular_start result

/-- The characters of a word are collected. -/
theorem ofCharsAt_word {chars : List Char} (word : ∀ c ∈ chars, isWordChar c = true)
    (pending rest : List Char) :
    ofCharsAt (.plain pending) (chars ++ rest)
      = ofCharsAt (.plain (chars.reverse ++ pending)) rest := by
  induction chars generalizing pending with
  | nil => rfl
  | cons c others ih =>
    have plain := word c (by simp)
    simp only [isWordChar, Bool.and_eq_true, bne_iff_ne, ne_eq, Bool.not_eq_true'] at plain
    obtain ⟨⟨⟨⟨notHash, notQuote⟩, notOpening⟩, notClosing⟩, notBlank⟩ := plain
    simp only [List.cons_append, ofCharsAt, notHash, notQuote, notOpening, notClosing, notBlank,
      if_false, Bool.false_eq_true]
    rw [ih (fun d mem => word d (List.mem_cons_of_mem c mem)), List.reverse_cons,
      List.append_assoc]
    rfl

/-- Whether the text that follows a word ends it, as a space and a closing parenthesis do. -/
def Stops (rest : List Char) : Prop :=
  ∃ more : List Char, rest = ' ' :: more ∨ rest = ')' :: more

/-- Text that ends a word is read as if no word stood before it, and the word is kept. -/
theorem ofCharsAt_stops {rest : List Char} (stops : Stops rest) (pending : List Char) :
    ofCharsAt (.plain pending) rest = (ofCharsAt (.plain []) rest).map (flush pending) := by
  obtain ⟨more, rfl | rfl⟩ := stops
  · change (ofCharsAt (.plain []) more).map (flush pending)
      = ((ofCharsAt (.plain []) more).map (flush [])).map (flush pending)
    cases ofCharsAt (.plain []) more <;> rfl
  · change (ofCharsAt (.plain []) more).map (fun s => flush pending (.closing :: s))
      = ((ofCharsAt (.plain []) more).map fun s => flush [] (.closing :: s)).map (flush pending)
    cases ofCharsAt (.plain []) more <;> rfl

/-- A word is read as that word. -/
theorem ofCharsAt_alone {chars : List Char} (clean : (Segment.word chars).Clean)
    {rest : List Char} (stops : Stops rest) :
    ofCharsAt (.plain []) (chars ++ rest)
      = (ofCharsAt (.plain []) rest).map (.word chars :: ·) := by
  have some_char : chars.reverse.isEmpty = false := by simpa using clean.1
  rw [ofCharsAt_word clean.2, ofCharsAt_stops stops, List.append_nil]
  congr 1
  funext segments
  simp only [flush, some_char, List.reverse_reverse, Bool.false_eq_true, if_false]

/-- Inside of a text, the characters of a text that is written with backslashes are read as the
characters of that text: every backslash in front of a quote is one that was written. -/
theorem ofCharsAt_escape {quote : Char} (isQuote : Text.isQuote quote = true)
    (chars content rest : List Char) :
    ofCharsAt (.inside quote content) (Text.escapeChars chars ++ rest)
      = ofCharsAt (.inside quote (chars.reverse ++ content)) rest := by
  have other : ∀ c : Char, Text.isQuote c = false → ¬c = quote := by
    intro c no same
    rw [same, isQuote] at no
    cases no
  induction chars generalizing content with
  | nil => rfl
  | cons c others ih =>
    by_cases quoted : Text.isQuote c = true
    · have mark : Text.isQuote Text.backslash = false := by decide
      simp only [Text.escapeChars, quoted, if_true, List.cons_append, ofCharsAt, mark,
        Bool.false_and, Bool.false_eq_true, if_false, other _ mark, List.head?_cons,
        Bool.true_and, beq_self_eq_true, List.tail_cons]
      rw [ih, List.reverse_cons, List.append_assoc]
      rfl
    · simp only [Bool.not_eq_true] at quoted
      simp only [Text.escapeChars, quoted, List.cons_append, ofCharsAt, Bool.false_and,
        Bool.false_eq_true, if_false, other c quoted]
      rw [ih, List.reverse_cons, List.append_assoc]
      rfl

/-- A quoted text is read as that text. -/
theorem ofCharsAt_quoted {chars : List Char} (clean : (Segment.quoted chars).Clean)
    (rest : List Char) :
    ofCharsAt (.plain []) (Text.singleQuote :: (Text.escapeChars chars ++
        Text.singleQuote :: rest))
      = (ofCharsAt (.plain []) rest).map (.quoted chars :: ·) := by
  obtain ⟨nonempty, noBackslash⟩ := clean
  have begins : ofCharsAt (.plain []) (Text.singleQuote :: (Text.escapeChars chars ++
        Text.singleQuote :: rest))
      = (ofCharsAt (.inside Text.singleQuote []) (Text.escapeChars chars ++
        Text.singleQuote :: rest)).map (flush []) := rfl
  have last : (chars.reverse.head? == some Text.backslash) = false := by
    rw [List.head?_reverse]
    exact beq_eq_false_iff_ne.mpr noBackslash
  have some_char : chars.reverse.isEmpty = false := by simpa using nonempty
  rw [begins, ofCharsAt_escape (by decide), List.append_nil]
  simp only [ofCharsAt, last, Bool.and_false, Bool.false_eq_true, if_false, if_true, some_char,
    List.reverse_reverse]
  cases ofCharsAt (.plain []) rest <;> rfl

end Segment

/-- The segment that a token is written as. -/
def Token.segment : Token → Segment
  | opening => .opening
  | closing => .closing
  | int n => .word (toString n.toInt).toList
  | float x => .word x.text.toList
  | str s => .quoted s.toList
  | time t => .word t.text.toList
  | symbol name => .word name.toList

/-- The characters of the text of a text. -/
theorem Value.text_str_toList (s : String) : (Value.text (.str s)).toList
    = Text.singleQuote :: (Text.escapeChars s.toList ++ [Text.singleQuote]) := by
  simp only [Value.text, Text.escape, String.toList_append, String.toList_ofList]
  rfl

/-- The text of a value with a clean segment is cut into that segment. -/
theorem Value.ofCharsAt_text {value : Value} (clean : (Token.ofValue value).segment.Clean)
    {rest : List Char} (stops : Segment.Stops rest) :
    Segment.ofCharsAt (.plain []) (value.text.toList ++ rest)
      = (Segment.ofCharsAt (.plain []) rest).map ((Token.ofValue value).segment :: ·) := by
  cases value with
  | int n => exact Segment.ofCharsAt_alone clean stops
  | float x => exact Segment.ofCharsAt_alone clean stops
  | time t => exact Segment.ofCharsAt_alone clean stops
  | str s =>
    rw [Value.text_str_toList, List.cons_append, List.append_assoc]
    exact Segment.ofCharsAt_quoted clean rest

namespace Term

/-- The characters of the canonical text of a term. -/
theorem text_toList (op : Operator) (operands : List (Operand Term)) :
    (text (.node op operands)).toList
      = '(' :: (op.name.toList ++ ((operandTexts operands).flatMap (fun s => ' ' :: s.toList)
          ++ [')'])) := by
  have spaced : ∀ (s : String) (texts : List String),
      (String.intercalate " " (s :: texts)).toList
        = s.toList ++ texts.flatMap (fun s => ' ' :: s.toList) := by
    intro s texts
    induction texts generalizing s with
    | nil => simp
    | cons other rest ih =>
      rw [String.intercalate_cons_cons, String.toList_append, String.toList_append, ih]
      simp
  simp only [text, String.toList_append, spaced, List.append_assoc]
  rfl

mutual

/-- The text of an operand with clean segments is cut into these segments. -/
theorem ofCharsAt_operandText :
    ∀ {operand : Operand Term}, (∀ token ∈ operandTokens operand, token.segment.Clean) →
      ∀ {rest : List Char}, Segment.Stops rest →
        Segment.ofCharsAt (.plain []) ((operandText operand).toList ++ rest)
          = (Segment.ofCharsAt (.plain []) rest).map
              ((operandTokens operand).map Token.segment ++ ·)
  | .literal value, clean, rest, stops =>
    Value.ofCharsAt_text (clean (.ofValue value) (by simp only [operandTokens, List.mem_singleton]))
      stops
  | .symbol name, clean, rest, stops =>
    Segment.ofCharsAt_alone
      (clean (.symbol name) (by simp only [operandTokens, List.mem_singleton])) stops
  | .term t, clean, rest, _ => ofCharsAt_text clean rest

/-- The texts of operands with clean segments are cut into these segments. -/
theorem ofCharsAt_operandTexts :
    ∀ {operands : List (Operand Term)},
      (∀ token ∈ operandsTokens operands, token.segment.Clean) →
      ∀ rest : List Char,
        Segment.Stops ((operandTexts operands).flatMap (fun s => ' ' :: s.toList) ++ ')' :: rest)
          ∧ Segment.ofCharsAt (.plain [])
              ((operandTexts operands).flatMap (fun s => ' ' :: s.toList) ++ ')' :: rest)
            = (Segment.ofCharsAt (.plain []) (')' :: rest)).map
                ((operandsTokens operands).map Token.segment ++ ·)
  | [], _, rest => by
    refine ⟨⟨rest, Or.inr rfl⟩, ?_⟩
    simp only [operandTexts, operandsTokens, List.flatMap_nil, List.map_nil, List.nil_append]
    cases Segment.ofCharsAt (.plain []) (')' :: rest) <;> rfl
  | operand :: operands, clean, rest => by
    simp only [operandsTokens, List.mem_append] at clean
    obtain ⟨stops, others⟩ :=
      ofCharsAt_operandTexts (fun token mem => clean token (Or.inr mem)) rest
    have first := ofCharsAt_operandText (fun token mem => clean token (Or.inl mem)) stops
    simp only [operandTexts, operandsTokens, List.flatMap_cons, List.map_append,
      List.cons_append, List.append_assoc]
    refine ⟨⟨_, Or.inl rfl⟩, ?_⟩
    change (Segment.ofCharsAt (.plain []) _).map (Segment.flush []) = _
    rw [first, others]
    cases Segment.ofCharsAt (.plain []) (')' :: rest) <;> rfl

/-- The text of a term with clean segments is cut into these segments, whatever follows. -/
theorem ofCharsAt_text :
    ∀ {t : Term}, (∀ token ∈ t.tokens, token.segment.Clean) →
      ∀ rest : List Char,
        Segment.ofCharsAt (.plain []) (t.text.toList ++ rest)
          = (Segment.ofCharsAt (.plain []) rest).map (t.tokens.map Token.segment ++ ·)
  | .node op operands, clean, rest => by
    simp only [tokens, List.mem_cons, List.mem_append] at clean
    obtain ⟨stops, others⟩ := ofCharsAt_operandTexts
      (fun token mem => clean token (Or.inr (Or.inr (Or.inl mem)))) rest
    have name := Segment.ofCharsAt_alone (clean (.symbol op.name) (Or.inr (Or.inl rfl))) stops
    simp only [text_toList, tokens, List.map_cons, List.map_append, List.cons_append,
      List.append_assoc, List.nil_append, List.map_nil]
    change (Segment.ofCharsAt (.plain []) _).map
      (fun s => Segment.flush [] (.opening :: s)) = _
    rw [name, others]
    change ((((Segment.ofCharsAt (.plain []) rest).map
      fun s => Segment.flush [] (.closing :: s)).map _).map _).map _ = _
    cases Segment.ofCharsAt (.plain []) rest <;> rfl

end

end Term

end Annals
