import Annals.Proofs.Eval.Agreement
import Annals.Proofs.Eval.Locality

/-!
# What a term does not depend on

A plain name is looked up in the fact in front of a view, and a name with a dollar sign in the
backing behind it. So a term that mentions no parameter sees nothing of the backing, and a static
term, whose symbols are all parameters, sees nothing of the fact in front. An aggregation picks its
own subjects, but it hands on the backing of the one it is evaluated on; that is why it counts as
static whatever is inside of it, and why the parameters that it mentions still count.

Both are relations between two evaluations of one term that every operator hands on to its operands
(`Term.plain` and `Term.static`). `Term.unmentioned_parameters` and `Term.static_alike` are what
comes of them for terms and for queries.
-/

set_option autoImplicit false

namespace Annals

namespace Subject

variable {contents : Contents} {s s' : Subject} {name : String}

/-- A plain name is looked up in the fact that the subject is, or that stands in front of it. -/
theorem lookup_plain (s : Subject) (plain : Term.isParameter name = false) :
    s.lookup contents name = s.identity.fact?.bind fun id => (contents id).get? name := by
  have unnamed : parameterName? name = none := by
    rw [← Option.not_isSome_iff_eq_none, isSome_parameterName?, plain]
    exact Bool.false_ne_true
  cases s with
  | fact id => rfl
  | view v => simp only [lookup, View.lookup, unnamed, identity]

/-- The name of a parameter is looked up in the backing of the subject. -/
theorem lookup_parameter {backing : Backing} (backed : s.parameters = some backing)
    (backed' : s'.parameters = some backing) (parameter : Term.isParameter name = true) :
    s.lookup contents name = s'.lookup contents name := by
  obtain ⟨named, known⟩ : ∃ named, parameterName? name = some named := by
    rw [← Option.isSome_iff_exists, isSome_parameterName?, parameter]
  cases s with
  | fact id => cases backed
  | view v =>
    cases s' with
    | fact id => cases backed'
    | view v' =>
      have behind : v.backing = v'.backing := Option.some.inj (backed.trans backed'.symm)
      simp only [lookup, View.lookup, known, behind]

end Subject

namespace Term

variable {t : Term}

/-- Evaluations of a term without parameters on two subjects with the same identity. -/
def plain {left right : Scene} (tracing : Bool) (sharing : Sharing)
    (registry : left.registry = right.registry) (contents : left.contents = right.contents) :
    Simulation.sameInPass.Congruence left right ((Memo.strategy tracing).shared sharing)
      ((Memo.strategy tracing).shared sharing) where
  Related t a a' s s' _ := a = a' ∧ t.isAbstract = false ∧ s.identity = s'.identity
  strategies := (Simulation.sameInPass_strategies tracing).shared sharing sharing
  registry := registry
  facts _ id _ := congrFun contents id
  symbols {op operands a a' s s' all} related _ name mem := by
    obtain ⟨-, concrete, identity⟩ := related
    rw [isAbstract, Bool.eq_false_iff, ne_eq, anyAbstract_iff] at concrete
    have plain : isParameter name = false := by
      rw [Bool.eq_false_iff]
      intro parameter
      exact concrete ⟨.symbol name, mem, parameter⟩
    rw [s.lookup_plain plain, s'.lookup_plain plain, identity, contents]
  operands {op operands a a' s s' all} related _ i u found := by
    obtain ⟨rfl, concrete, identity⟩ := related
    rw [isAbstract, Bool.eq_false_iff, ne_eq, anyAbstract_iff] at concrete
    refine ⟨rfl, ?_, identity⟩
    rw [Bool.eq_false_iff]
    intro abstract
    exact concrete ⟨.term u, List.mem_of_getElem? found, abstract⟩
  selector {t rest a a' s s' all} related id _ := by
    obtain ⟨rfl, concrete, -⟩ := related
    rw [isAbstract, anyAbstract, Bool.or_eq_false_iff] at concrete
    refine ⟨rfl, concrete.1, ?_⟩
    rw [Operation.identity_candidate, Operation.identity_candidate]
  body {t u a a' s s' all kept front front'} related _ leads := by
    obtain ⟨rfl, concrete, -⟩ := related
    simp only [isAbstract, anyAbstract, isAbstractOperand, Bool.or_eq_false_iff] at concrete
    refine ⟨rfl, concrete.2.1, ?_⟩
    cases kept with
    | nil => exact leads.1
    | cons id rest => exact leads.1.trans leads.2.symm
  memory {operands a a' s s' all} related d pass := by
    rw [related.1]
  answer {t a a' s s' all x y} related _ _ same := by
    obtain ⟨rfl, -, identity⟩ := related
    refine Simulation.sameInPass_answer tracing ?_ same
    unfold Key.of
    rw [identity]

/-- Evaluations with a digest on two views with the same backing, of a term that is static or sees
the same on both. -/
def static {left right : Scene} (sharing : Sharing) (registry : left.registry = right.registry)
    (contents : left.contents = right.contents) :
    (Simulation.agreeing Eq).Congruence left right (Digested.strategy.shared sharing)
      (Digested.strategy.shared sharing) where
  Related t a a' s s' _ := a = a' ∧
    (∃ backing, s.parameters = some backing ∧ s'.parameters = some backing) ∧
    (t.isStatic = true ∨ ∀ name, s.lookup left.contents name = s'.lookup right.contents name)
  strategies := Simulation.agreeing_strategies sharing sharing
  registry := registry
  facts _ id _ := congrFun contents id
  symbols {op operands a a' s s' all} related notAgg name mem := by
    obtain ⟨-, ⟨backing, backed, backed'⟩, closed | alike⟩ := related
    · simp only [isStatic, Bool.or_eq_true, beq_iff_eq, notAgg, false_or] at closed
      rw [contents]
      exact Subject.lookup_parameter backed backed' (allStatic_iff.mp closed _ mem)
    · exact alike name
  operands {op operands a a' s s' all} related notAgg i u found := by
    obtain ⟨rfl, backed, closed | alike⟩ := related
    · simp only [isStatic, Bool.or_eq_true, beq_iff_eq, notAgg, false_or] at closed
      exact ⟨rfl, backed, .inl (allStatic_iff.mp closed _ (List.mem_of_getElem? found))⟩
    · exact ⟨rfl, backed, .inr alike⟩
  selector {t rest a a' s s' all} related id _ := by
    obtain ⟨rfl, ⟨backing, backed, backed'⟩, -⟩ := related
    rw [backed, backed', contents]
    exact ⟨rfl, ⟨backing, rfl, rfl⟩, .inr fun _ => rfl⟩
  body {t u a a' s s' all kept front front'} related _ leads := by
    obtain ⟨rfl, ⟨backing, backed, backed'⟩, -⟩ := related
    have fronts : front = front' := Simulation.eq_of_leads _ (fun _ _ same => same) leads
    rw [backed, backed', fronts, contents]
    exact ⟨rfl, ⟨backing, rfl, rfl⟩, .inr fun _ => rfl⟩
  memory _ _ _ _ agrees := ⟨rfl, agrees⟩
  answer {t a a' s s' all x y} related _ _ same := by
    obtain ⟨rfl, -⟩ := related
    have matching : Digest.Matching Eq := by
      rintro node _ other _ rfl rfl
      exact Iff.rfl
    exact Simulation.agreeing_answer matching rfl s s' same

/-- A term without parameters does the same in a pass on all subjects with one identity. -/
theorem run_evaluateWith_plain (concrete : t.isAbstract = false) (scene : Scene) (tracing : Bool)
    (sharing : Sharing) (place : Address) {s s' : Subject} (identity : s.identity = s'.identity)
    (all : List FactId) (pass : Pass) :
    (t.evaluateWith scene ((Memo.strategy tracing).shared sharing) place s all).run pass =
      (t.evaluateWith scene ((Memo.strategy tracing).shared sharing) place s' all).run pass :=
  (plain tracing sharing (rfl : scene.registry = _) rfl).evaluateWith_matches t
    ⟨rfl, concrete, identity⟩ pass

theorem run_verdict_plain (concrete : t.isAbstract = false) (scene : Scene) (tracing : Bool)
    (root : Nat) {s s' : Subject} (identity : s.identity = s'.identity) (all : List FactId)
    (pass : Pass) :
    (t.verdict scene tracing root s all).run pass =
      (t.verdict scene tracing root s' all).run pass := by
  have same : (t.evaluate scene tracing root s all).run pass =
      (t.evaluate scene tracing root s' all).run pass :=
    run_evaluateWith_plain concrete scene tracing .none (.root root) identity all pass
  rw [run_verdict, run_verdict, same]

end Term

namespace Scan

variable {scan : Scan}

/-- A scan that sees facts in front of other parameters. -/
def withParams (scan : Scan) (params : Option Params) : Scan := { scan with params := params }

theorem identity_subject (scan : Scan) (id : FactId) : (scan.subject id).identity = .fact id := by
  unfold subject
  cases scan.params with
  | none => rfl
  | some params => rfl

theorem examine_withParams (concrete : scan.query.term.isAbstract = false)
    (params : Option Params) (id : FactId) (s : Store) :
    (scan.withParams params).examine id s =
      ((scan.examine id s).1, (scan.examine id s).2.1.withParams params,
        (scan.examine id s).2.2) := by
  have identity : (scan.subject id).identity = ((scan.withParams params).subject id).identity := by
    rw [identity_subject, identity_subject]
  have same := scan.query.term.run_verdict_plain concrete s.scene s.config.traceEvaluation 0
    identity scan.all scan.pass
  simp only [examine, Store.goOn_apply, same]
  rfl

theorem advance_withParams (ids : List FactId) (concrete : scan.query.term.isAbstract = false)
    (params : Option Params) (s : Store) :
    advance ids (scan.withParams params) s =
      ((advance ids scan s).1, (advance ids scan s).2.1.withParams params,
        (advance ids scan s).2.2) := by
  induction ids generalizing scan s with
  | nil => rfl
  | cons id rest ih =>
    have query : (scan.examine id s).2.1.query = scan.query := rfl
    simp only [advance, examine_withParams concrete]
    rcases examined : scan.examine id s with ⟨found, next, s'⟩
    rw [examined] at query
    cases found with
    | error e => rfl
    | ok b =>
      cases b with
      | true => rfl
      | false => exact ih (by rw [query]; exact concrete) s'

theorem next_withParams (concrete : scan.query.term.isAbstract = false) (params : Option Params)
    (s : Store) :
    (scan.withParams params).next s =
      ((scan.next s).1, (scan.next s).2.1.withParams params, (scan.next s).2.2) := by
  have ended : (scan.withParams params).ended = scan.ended := rfl
  unfold next
  rw [ended]
  split
  · rfl
  · exact advance_withParams _ concrete params s

theorem items_withParams (count : Nat) (concrete : scan.query.term.isAbstract = false)
    (params : Option Params) (s : Store) :
    (scan.withParams params).items count s =
      ((scan.items count s).1, (scan.items count s).2.1.withParams params,
        (scan.items count s).2.2) := by
  induction count generalizing scan s with
  | zero => rfl
  | succ count ih =>
    have query := scan.query_next s
    simp only [items, next_withParams concrete]
    rcases taken : scan.next s with ⟨found, next, s'⟩
    rw [taken] at query
    cases found with
    | none => rfl
    | some item => simp only [ih (by rw [query]; exact concrete)]

end Scan

namespace Query

/-- A query without parameters finds the same whatever parameters the facts are seen with. -/
theorem collect_plain {q : Query} (concrete : q.term.isAbstract = false)
    (params params' : Option Params) (s : Store) : q.collect params s = q.collect params' s := by
  have start : Scan.start q params s = (Scan.start q params' s).withParams params := rfl
  have started : (Scan.start q params' s).query.term.isAbstract = false := concrete
  unfold collect
  rw [start, Scan.items_withParams _ started]

end Query

namespace Term

/-- Parameters do not matter to a term that mentions none. On a fact by itself and on the fact in
front of any backing it gives the same result or failure in every pass, and leaves the same pass,
wherever it stands and whatever nodes it shares. So a query whose term mentions no parameter finds
the same facts with parameters and without, whether or not the facts are seen in front of them. -/
theorem unmentioned_parameters (t : Term) (concrete : t.isAbstract = false) :
    (∀ (scene : Scene) (tracing : Bool) (sharing : Sharing) (place : Address) (id : FactId)
        (backing : Backing) (all : List FactId) (pass : Pass),
      (t.evaluateWith scene ((Memo.strategy tracing).shared sharing) place (.fact id) all).run
          pass =
        (t.evaluateWith scene ((Memo.strategy tracing).shared sharing) place
          (.view ⟨.fact id, backing⟩) all).run pass) ∧
    ∀ q : Query, q.term = t → ∀ (params : Params) (s : Store),
      q.each params s = q.toList s ∧ q.collect (some params) s = q.toList s := by
  refine ⟨?_, ?_⟩
  · intro scene tracing sharing place id backing all pass
    have identity : (Subject.fact id).identity = (Subject.view ⟨.fact id, backing⟩).identity := rfl
    exact run_evaluateWith_plain concrete scene tracing sharing place identity all pass
  · rintro q rfl params s
    refine ⟨?_, q.collect_plain concrete (some params) none s⟩
    rw [Query.each, concrete]
    rfl

open Session.Bench (pair greatest)

/-- Which of two facts has the greatest `x`, asked with a parameter of that name; and whether a fact
has it or less, where the greatest `x` is one node. -/
theorem unmentioned_parameters_greatest :
    let backing : Backing := .params (.ofPairs [("x", .int 7)])
    let q : Query := ⟨"(eq x (agg (exists x) (max x)))", greatest, []⟩
    let s : Store := { Store.create .standard .empty with
      ledger := { Ledger.empty with register := pair.register, sequence := [⟨0⟩, ⟨1⟩] } }
    let g := TermGraph.ofNode Node.made_rivals 1 (by decide)
    g.term.isAbstract = false ∧ greatest.isAbstract = false ∧
      ((g.evaluateWith pair.scene (Memo.strategy false) (.view ⟨.fact ⟨1⟩, backing⟩)
        [⟨0⟩, ⟨1⟩]).run (.start 0)).1 = .ok (.bool true) ∧
      (q.each (.ofPairs [("x", .int 7)]) s).1.map (List.map Handle.id) = .ok [⟨1⟩] := by
  intro backing q s g
  have concrete : g.term.isAbstract = false := by decide
  have concrete' : greatest.isAbstract = false := by decide
  refine ⟨concrete, concrete', ?_, ?_⟩
  · rw [TermGraph.evaluateWith, ← (unmentioned_parameters g.term concrete).1]
    decide +kernel
  · rw [((unmentioned_parameters greatest concrete').2 q rfl _ s).1]
    decide +kernel

/-- A static term gives the same on all views with one backing, in passes of their own. -/
theorem result_static {g : TermGraph} (memoryless : g.term.remembers = false)
    (closed : g.term.isStatic = true) (scene : Scene) (tracing : Bool) (vacant vacant' : Nat)
    (front front' : Identity) (backing : Backing) (all : List FactId) :
    g.result scene tracing vacant (.view ⟨front, backing⟩) all =
      g.result scene tracing vacant' (.view ⟨front', backing⟩) all := by
  have same : (Simulation.agreeing Eq).Matches
      (g.evaluateWith scene Digested.strategy (.view ⟨front, backing⟩) all)
      (g.evaluateWith scene Digested.strategy (.view ⟨front', backing⟩) all) :=
    (static g.sharing (rfl : scene.registry = _) rfl).evaluateWith_matches g.term
      ⟨rfl, ⟨backing, rfl, rfl⟩, .inl closed⟩
  have agrees : Digest.empty.Agrees Eq .empty := fun _ _ _ => rfl
  rw [g.result_eq_digested memoryless scene tracing vacant (by intro bare; cases bare),
    g.result_eq_digested memoryless scene tracing vacant' (by intro bare; cases bare)]
  exact (same .empty .empty agrees).1

/-- A static term does not depend on the subject, whatever nodes it shares. In passes of their own
it gives the same result or the same failure on all views with one backing, whichever fact they have
in front, or none. So what a query gives for its parameters alone is what its term gives on any fact
in front of them. -/
theorem static_alike (t : Term) (memoryless : t.remembers = false) (closed : t.isStatic = true) :
    (∀ g : TermGraph, g.term = t → ∀ (scene : Scene) (tracing : Bool) (vacant vacant' : Nat)
        (front front' : Identity) (backing : Backing) (all : List FactId),
      g.result scene tracing vacant (.view ⟨front, backing⟩) all =
        g.result scene tracing vacant' (.view ⟨front', backing⟩) all) ∧
    ∀ q : Query, q.term = t → ∀ (params : Params) (s : Store) (id : FactId),
      (q.one params s).1 =
        ((t.evaluate s.scene s.config.traceEvaluation 0 (.view ⟨.fact id, .params params⟩)
          s.ledger.sequence).run (.start 0)).1.mapError q.wrap := by
  refine ⟨?_, ?_⟩
  · rintro g rfl scene tracing vacant vacant' front front' backing all
    exact result_static memoryless closed scene tracing vacant vacant' front front' backing all
  rintro q rfl params s id
  have alike : ∀ vacant vacant' front front',
      ((q.term.evaluate s.scene s.config.traceEvaluation 0 (.view ⟨front, .params params⟩)
          s.ledger.sequence).run (.start vacant)).1 =
        ((q.term.evaluate s.scene s.config.traceEvaluation 0 (.view ⟨front', .params params⟩)
          s.ledger.sequence).run (.start vacant')).1 := by
    intro vacant vacant' front front'
    rw [← TermGraph.result_unshared, ← TermGraph.result_unshared]
    exact result_static memoryless closed _ _ vacant vacant' front front' _ _
  rw [alike 0 1 (.fact id) (.vacant 0)]
  simp only [Query.one, closed, Store.goOn_apply]
  cases ((q.term.evaluate s.scene s.config.traceEvaluation 0 (.view ⟨.vacant 0, .params params⟩)
    s.ledger.sequence).run (.start 1)).1 with
  | ok d => rfl
  | error e => rfl

/-- The term `(and (gt (count) 1) (agg (exists y) (gt (count) 1)))` with the terms in it, where
there is one node for `(count)`. -/
def countings : List Node :=
  let counted : Node := .mk 0 .count []
  let many : Node := .mk 1 .gt [.term counted, .literal (.int 1)]
  let selected : Node := .mk 2 .gt [.term counted, .literal (.int 1)]
  let selector : Node := .mk 3 .present [.symbol "y"]
  let selection : Node := .mk 4 .agg [.term selector, .term selected]
  [.mk 5 .and [.term many, .term selection], selection, selector, selected, many, counted]

theorem made_countings : Node.Made 6 countings := by
  refine .new (.new (.new (.new (.new (.new .none ?_) ?_) ?_) ?_) ?_) ?_ <;> simp

/-- Of two facts none has `y`, and still they are counted as two, because they were counted before
they were selected. It is the same without a fact in front. -/
theorem static_alike_counting :
    let g := TermGraph.ofNode made_countings 0 (by decide)
    let backing : Backing := .params .empty
    g.term.remembers = false ∧ g.term.isStatic = true ∧
      g.result pair.scene false 0 (.view ⟨.fact ⟨1⟩, backing⟩) [⟨0⟩, ⟨1⟩] = .ok (.bool true) := by
  intro g backing
  have memoryless : g.term.remembers = false := by decide
  have closed : g.term.isStatic = true := by decide
  refine ⟨memoryless, closed, ?_⟩
  rw [(static_alike g.term memoryless closed).1 g rfl pair.scene false 0 1 _ (.vacant 0)]
  decide +kernel

end Term

end Annals
