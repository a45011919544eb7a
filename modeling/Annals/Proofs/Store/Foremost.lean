import Annals.Proofs.Eval.Extrema
import Annals.Proofs.Eval.Independence
import Annals.Proofs.Eval.Nesting
import Annals.Proofs.Query.RoundTrip
import Annals.Proofs.Query.Symbols
import Annals.Proofs.Store.Compiled

/-!
# The facts with the greatest value

`(eq p (agg (always) (max p)))` asks a store for the facts that have the greatest value of a
property among their values of it, and the same with `min` for the least. An extremum over mixed
kinds need not be greater than everything else, and the equality of a query is no identity; but
where all values are integers, or all are texts, every two of them can be compared, and only a value
itself is equal to it (`Value.Uniform`). So there is one value at most that comes before all others
(`Value.Foremost`), and it is the one that the extremum gives.

`Query.collect_foremost` says which facts the query finds, and that it does not fail.
-/

set_option autoImplicit false

namespace Annals

namespace Value

/-- Only integers, or only texts. -/
def Uniform (values : List Value) : Prop :=
  (∀ v ∈ values, ∃ n, v = .int n) ∨ ∀ v ∈ values, ∃ t, v = .str t

/-- A value that is better than every other one. -/
def Foremost (wanted : Ordering) (values : List Value) (v : Value) : Prop :=
  ∀ w ∈ values, w = v ∨ v.compare? w = some wanted

instance (wanted : Ordering) (values : List Value) (v : Value) :
    Decidable (v.Foremost wanted values) :=
  inferInstanceAs (Decidable (∀ w ∈ values, w = v ∨ v.compare? w = some wanted))

variable {wanted : Ordering} {values : List Value} {v w : Value}

/-- Integers can be compared with integers and texts with texts, and only the same are equal. -/
theorem Uniform.compare? (uniform : Uniform values) (mem : v ∈ values) (mem' : w ∈ values) :
    ∃ order, v.compare? w = some order ∧ (order = .eq ↔ v = w) := by
  rcases uniform with ints | texts
  · obtain ⟨m, rfl⟩ := ints v mem
    obtain ⟨n, rfl⟩ := ints w mem'
    refine ⟨_, rfl, ?_⟩
    rw [Std.compare_eq_iff_eq, Int64.toInt_inj, Value.int.injEq]
  · obtain ⟨s, rfl⟩ := texts v mem
    obtain ⟨t, rfl⟩ := texts w mem'
    refine ⟨_, rfl, ?_⟩
    unfold compareOfLessAndEq
    split
    · rename_i less
      refine ⟨nofun, fun same => ?_⟩
      cases same
      exact absurd less (String.lt_irrefl s)
    · split
      · rename_i same
        exact ⟨fun _ => by rw [same], fun _ => rfl⟩
      · rename_i other
        exact ⟨nofun, fun same => absurd (Value.str.inj same) other⟩

theorem Uniform.looselyEquals (uniform : Uniform values) (mem : v ∈ values) (mem' : w ∈ values) :
    v.looselyEquals w = true ↔ v = w := by
  obtain ⟨order, ordered, equal⟩ := uniform.compare? mem mem'
  have compared : v.looselyEquals w = (v.compare? w == some .eq) := by
    rcases uniform with ints | texts
    · obtain ⟨m, rfl⟩ := ints v mem
      rfl
    · obtain ⟨s, rfl⟩ := texts v mem
      rfl
  rw [compared, ordered, beq_iff_eq, Option.some_inj, equal]

/-- What no value beats is better than every other one, if all can be compared. -/
theorem IsExtreme.foremost (uniform : Uniform values) (strict : wanted ≠ .eq)
    (extreme : IsExtreme wanted values v) : v.Foremost wanted values := by
  intro w mem
  obtain ⟨order, ordered, equal⟩ := uniform.compare? mem extreme.mem
  by_cases same : w = v
  · exact .inl same
  · right
    have unequal : order ≠ .eq := fun isEq => same (equal.mp isEq)
    have unbeaten : order ≠ wanted := by
      rintro rfl
      exact extreme.unbeaten w mem ordered
    rw [w.compare?_swap v, ordered]
    cases order <;> cases wanted <;> first | rfl | contradiction

/-- No two values are better than each other. -/
theorem Foremost.unique (strict : wanted ≠ .eq) (foremost : v.Foremost wanted values)
    (foremost' : w.Foremost wanted values) (mem : v ∈ values) (mem' : w ∈ values) : v = w := by
  rcases foremost w mem' with same | better
  · exact same.symm
  rcases foremost' v mem with same | better'
  · exact same
  · rw [v.compare?_swap w, better] at better'
    cases wanted with
    | eq => exact absurd rfl strict
    | lt => cases better'
    | gt => cases better'

/-- Being better than every other value is being equal to the best one. -/
theorem IsExtreme.looselyEquals_iff (uniform : Uniform values) (strict : wanted ≠ .eq)
    (best : IsExtreme wanted values w) (mem : v ∈ values) :
    v.looselyEquals w = true ↔ v.Foremost wanted values := by
  rw [uniform.looselyEquals mem best.mem]
  have foremost := best.foremost uniform strict
  constructor
  · rintro rfl
    exact foremost
  · exact fun other => other.unique strict foremost mem best.mem

end Value

/-- Values equal a single one if one of them does. -/
theorem Datum.equals_single (values : List Value) (w : Value) :
    (Datum.ofValues values).equals (.single w) = values.any fun v => v.looselyEquals w := by
  cases values with
  | nil => rfl
  | cons v rest =>
    show ((v :: rest).any fun v => v.looselyEquals w || false) = _
    simp only [Bool.or_false]

namespace Term

/-- The term `(eq p (agg (always) (max p)))`, or with the other extremum. -/
def foremost (op : Operator) (name : String) : Term :=
  .node .eq [.symbol name,
    .term (.node .agg [.term (.node .always []), .term (.node op [.symbol name])])]

variable {op : Operator} {wanted : Ordering} {name : String}

/-- Two operands that give something are compared; nothing equals nothing. -/
theorem given_eq {scene : Scene} {s : Subject} {all : List FactId} {left right : Operand Term}
    {l r : Datum} (first : given scene s all left = .ok l)
    (second : given scene s all right = .ok r) :
    given scene s all (.term (.node .eq [left, right])) = .ok (.bool (l.equals r)) := by
  rw [given, resolve, evaluateWith]
  refine named_eq_ok.mpr ?_
  show Operation.equality s all ⟨left, _⟩ ⟨right, _⟩ = _
  simp only [Operation.equality, resolve_direct, first, second]
  cases l <;> rfl

/-- Over all facts the best value is what an extremum gives. -/
theorem given_foremost_agg (extreme : op.wanted? = some wanted) (scene : Scene) (s : Subject)
    (all : List FactId) :
    given scene s all (.term (.node .agg [.term (.node .always []),
        .term (.node op [.symbol name])]))
      = .ok (((extremum wanted (historyOver scene.contents name all)).map Datum.single).getD
          .nil) := by
  rw [given_selection, selected_always]
  exact named_eq_ok.mpr (meaning_extremum extreme scene name _ all)

/-- A fact has the best value if it is among its values of the property. -/
theorem meaning_foremost (extreme : op.wanted? = some wanted) {scene : Scene} {s : Subject}
    {all : List FactId} {id : FactId} (mem : id ∈ all)
    (lookup : s.lookup scene.contents name = (scene.contents id).get? name)
    (uniform : Value.Uniform (historyOver scene.contents name all)) :
    (foremost op name).meaning scene s all
      = .ok (.bool (decide (∃ v ∈ ((scene.contents id).get? name).getD [],
          v.Foremost wanted (historyOver scene.contents name all)))) := by
  have left : given scene s all (.symbol name)
      = .ok (((scene.contents id).get? name).map Datum.ofValues |>.getD .nil) :=
    congrArg (fun found => Except.ok ((Option.map Datum.ofValues found).getD .nil)) lookup
  refine (given_eq left (given_foremost_agg extreme scene s all)).trans ?_
  refine congrArg (Except.ok ∘ Datum.bool) (Bool.eq_iff_iff.mpr ?_)
  rw [decide_eq_true_iff]
  cases found : (scene.contents id).get? name with
  | none => simp [Datum.equals]
  | some history =>
    have recorded : ∀ v ∈ history, v ∈ historyOver scene.contents name all :=
      fun v held => mem_historyOver.mpr ⟨id, mem, history, found, held⟩
    cases best : extremum wanted (historyOver scene.contents name all) with
    | none =>
      have empty : history = [] := by
        rw [extremum_eq_none_iff.mp best] at recorded
        exact List.eq_nil_iff_forall_not_mem.mpr fun v held => nomatch recorded v held
      rw [empty]
      simp [Datum.ofValues, Datum.equals]
    | some b =>
      have strict := Operator.wanted?_ne_eq extreme
      have isBest := isExtreme_of_extremum strict best
      simp only [Option.map_some, Option.getD_some, Datum.equals_single, List.any_eq_true]
      exact exists_congr fun v => and_congr_right fun held =>
        isBest.looselyEquals_iff uniform strict (recorded v held)

theorem text_foremost (op : Operator) (name : String) : (foremost op name).text
    = "(eq " ++ name ++ " (agg (always) (" ++ op.name ++ " " ++ name ++ ")))" := by
  rw [← String.toList_inj]
  simp [foremost, text, operandTexts, operandText, show Operator.eq.name = "eq" from rfl,
    show Operator.agg.name = "agg" from rfl, show Operator.always.name = "always" from rfl]

theorem legible_foremost (plain : isPropertyName name = true)
    (plain' : isPropertyName op.name = true) :
    ∀ token ∈ (foremost op name).tokens, token.Legible := by
  have same : (foremost op name).tokens = [.opening, .symbol "eq", .symbol name, .opening,
      .symbol "agg", .opening, .symbol "always", .closing, .opening, .symbol op.name,
      .symbol name, .closing, .closing, .closing] := rfl
  have opening : Token.opening.Legible := ⟨trivial, rfl⟩
  have closing : Token.closing.Legible := ⟨trivial, rfl⟩
  have eq : (Token.symbol "eq").Legible := Token.legible_of_isPropertyName (by decide)
  have agg : (Token.symbol "agg").Legible := Token.legible_of_isPropertyName (by decide)
  have always : (Token.symbol "always").Legible := Token.legible_of_isPropertyName (by decide)
  have word := Token.legible_of_isPropertyName plain
  have word' := Token.legible_of_isPropertyName plain'
  rw [same]
  simp only [List.forall_mem_cons]
  exact ⟨opening, eq, word, opening, agg, opening, always, closing, opening, word', word, closing,
    closing, closing, List.forall_mem_nil _⟩

/-- The text is read as the term, if three terms may be nested. -/
theorem ofQuery_foremost (plain : isPropertyName name = true) (extreme : op.wanted? = some wanted)
    {limit : Nat} (deep : 3 ≤ limit) : ∃ n,
      ofQuery limit (foremost op name).text = .ok (foremost op name, n) := by
  have operator : isPropertyName op.name = true ∧ op.isMisnamed = false := by
    cases op <;> first | decide | cases extreme
  have read : Factory.verbatim.ofQuery limit (foremost op name).text
      = .ok (foremost op name, (foremost op name).tokens.length) := by
    refine verbatim_ofQuery_iff.mpr
      ⟨ofQuery_text (legible_foremost plain operator.1), deep, ?_, rfl⟩
    have others : Operator.eq.isMisnamed = false ∧ Operator.agg.isMisnamed = false
        ∧ Operator.always.isMisnamed = false := by decide
    simp [foremost, anyOperator, anyOperatorIn, anyOperatorOf, operator.2, others]
  have whole : (foremost op name).simplify = foremost op name :=
    simplify_other (by rintro (other | other) <;> cases other) _
  exact ⟨_, by rw [ofQuery_of_verbatim read, whole]⟩

end Term

namespace Query

variable {q : Query} {params : Option Params} {s : Store}

theorem identity_subject (id : FactId) : (q.subject params s id).identity = .fact id := by
  cases params <;> rfl

/-- A query finds the facts that its term is true of, if it is true or false of every one. -/
theorem found_eq_filter {chosen : FactId → Bool} {ids : List FactId}
    (decides : ∀ id ∈ ids, q.finds params s id = .ok (chosen id)) :
    q.found params s ids = .ok ((ids.filter chosen).map q.handle) := by
  induction ids with
  | nil => rfl
  | cons id rest ih =>
    obtain ⟨first, others⟩ := List.forall_mem_cons.mp decides
    rw [found, first, ih others]
    cases verdict : chosen id with
    | true => simp only [List.filter_cons_of_pos verdict, List.map_cons, Except.map]
    | false =>
      rw [List.filter_cons_of_neg (by rw [verdict]; exact Bool.false_ne_true)]

end Query

namespace Store

/-- The values of a property in all facts of a store. -/
def recorded (s : Store) (name : String) : List Value :=
  historyOver s.ledger.register.contents name s.ledger.sequence

/-- The query for the greatest or the least value of a property is compiled as it stands, if terms
may be nested as deeply, and it never fails. It finds the facts that have the greatest or the least
value of all that are recorded in the store, in the order of the store, whatever else they have. All
values of the property have to be integers, or all of them texts. -/
theorem collect_foremost (s : Store) {name : String} (plain : isPropertyName name = true)
    {op : Operator} {wanted : Ordering} (extreme : op.wanted? = some wanted)
    (uniform : Value.Uniform (s.recorded name)) :
    let text := "(eq " ++ name ++ " (agg (always) (" ++ op.name ++ " " ++ name ++ ")))"
    (3 ≤ s.config.maxDepth → (s.compile text).1 = .ok ⟨text, .foremost op name, []⟩) ∧
      ∀ q : Query, q.term = .foremost op name → ∀ params, (q.collect params s).1
        = .ok ((s.ledger.sequence.filter fun id => ∃ v ∈ ((s.properties id).get? name).getD [],
          v.Foremost wanted (s.recorded name)).map q.handle) := by
  intro text
  constructor
  · intro deep
    obtain ⟨n, read⟩ := Term.ofQuery_foremost plain extreme deep
    rw [Term.text_foremost] at read
    simp only [compile, readTerm, text, read]
  · intro q term params
    have memoryless : q.term.remembers = false := by
      rw [term]
      cases op <;> first | rfl | cases extreme
    rw [Query.collect_eq_found q memoryless]
    refine Query.found_eq_filter fun id mem => ?_
    have lookup : (q.subject params s id).lookup s.scene.contents name
        = (s.scene.contents id).get? name := by
      rw [Subject.lookup_plain _ (Token.isParameter_eq_false plain), Query.identity_subject]
      rfl
    rw [Query.finds, term, Term.meaning_foremost extreme mem lookup uniform]
    rfl

/-- Four facts, of which three have `x`, with the same greatest value in two of these. -/
def ranked : Store where
  config := .standard
  registry := .empty
  ledger := { Ledger.empty with
    register := ⟨#[⟨⟨[("x", [.int 3, .int 9])]⟩, []⟩, ⟨⟨[("y", [.str "z"])]⟩, []⟩,
      ⟨⟨[("x", [.int 2, .int 4])]⟩, []⟩, ⟨⟨[("x", [.int 9])]⟩, []⟩]⟩
    sequence := [⟨0⟩, ⟨1⟩, ⟨2⟩, ⟨3⟩] }
  watches := []
  events := []

/-- Two facts have the greatest value, one of them as its second value. -/
theorem collect_foremost_ranked :
    let q : Query := ⟨"(eq x (agg (always) (max x)))", .foremost .max "x", []⟩
    isPropertyName "x" = true ∧ Operator.max.wanted? = some .gt ∧
      Value.Uniform (ranked.recorded "x") ∧ 3 ≤ ranked.config.maxDepth ∧
      (ranked.compile "(eq x (agg (always) (max x)))").1 = .ok q ∧
      (q.toList ranked).1 = .ok [⟨⟨0⟩, [.journal]⟩, ⟨⟨3⟩, [.journal]⟩] := by
  intro q
  have uniform : Value.Uniform (ranked.recorded "x") := by
    left
    have recorded : ranked.recorded "x" = [.int 3, .int 9, .int 2, .int 4, .int 9] := by
      decide +kernel
    rw [recorded]
    simp
  obtain ⟨compiles, finds⟩ :=
    collect_foremost ranked (by decide) (rfl : Operator.max.wanted? = some .gt) uniform
  have chosen : (ranked.ledger.sequence.filter fun id =>
      ∃ v ∈ ((ranked.properties id).get? "x").getD [], v.Foremost .gt (ranked.recorded "x"))
      = [⟨0⟩, ⟨3⟩] := by decide +kernel
  refine ⟨by decide, rfl, uniform, by decide, compiles (by decide), ?_⟩
  refine (finds q rfl none).trans ?_
  rw [chosen]
  rfl

end Store

end Annals
