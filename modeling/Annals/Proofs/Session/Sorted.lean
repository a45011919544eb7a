import Annals.Proofs.Eval.Calls
import Annals.Proofs.Eval.Sorts
import Annals.Proofs.Eval.Transparency
import Annals.Proofs.Query.RoundTrip
import Annals.Proofs.Store.Frame

/-!
# Passes and queries over well-sorted terms

Whoever evaluates only well-sorted terms gets an answer every time. For a pass this is an invariant
of its kept results, which every call keeps (`Call.answer_sorted`). A scan is a pass over
one term, so that a query with a condition never fails, whatever is written to the store while it
is on its way. Compiling a query simplifies its term, which leaves a condition a condition
(`Term.simplify_wellSorted`).
-/

set_option autoImplicit false

namespace Annals

namespace Call

open Session (PassAnswer)

/-- A call about a well-sorted term, where a number stands for one term throughout the pass. -/
def WellSorted (terms : Nat → Option Term) (call : Call) : Prop :=
  terms call.root = some call.term ∧ ∃ kind, call.term.WellSorted kind

/-- What the answer to a call is if no term fails: a result is of the kind of the term, and a
condition is true or false. -/
def Receives (answer : Except Error PassAnswer) (call : Call) : Prop :=
  match call.question with
  | .result => ∃ d, answer = .ok (.result d) ∧ ∀ kind, call.term.WellSorted kind → d.OfKind kind
  | .test | .verdict => call.term.WellSorted .truth → ∃ b, answer = .ok (.flag b)

variable {sharing : Sharing} {terms : Nat → Option Term} {tracing : Bool} {pass : Pass}

/-- A call about a well-sorted term is answered, and the pass goes on with results of the right
kinds. -/
theorem answer_sorted (fits : sharing.Fits terms) (call : Call) (rules : call.WellSorted terms)
    (sorted : pass.Sorted sharing terms) :
    let after := (call.answer ((Memo.strategy tracing).shared sharing)).run pass
    call.Receives after.1 ∧ after.2.Sorted sharing terms := by
  obtain ⟨d, next, run, given, kept⟩ := Term.root_ensures fits call.scene tracing rules.1 rules.2
    call.subject call.all pass sorted
  dsimp only
  rw [answer, Memo.run_bind_outcome, run]
  refine ⟨?_, kept⟩
  unfold Receives
  cases call.question with
  | result => exact ⟨d, rfl, given⟩
  | test =>
    intro condition
    obtain ⟨b, truth⟩ := Datum.truth_of_kind (given .truth condition)
    refine ⟨b, ?_⟩
    show (withinTerm call.term d.truth).map PassAnswer.flag = _
    rw [truth]
    rfl
  | verdict =>
    intro condition
    obtain ⟨b, decision⟩ := Datum.decision_of_kind (given .truth condition)
    refine ⟨b, ?_⟩
    show (withinTerm call.term d.decision).map PassAnswer.flag = _
    rw [decision]
    rfl

theorem answers_sorted (fits : sharing.Fits terms) (calls : List Call)
    (rules : ∀ call ∈ calls, call.WellSorted terms) (sorted : pass.Sorted sharing terms) :
    List.Forall₂ Call.Receives (answers ((Memo.strategy tracing).shared sharing) calls pass).1
      calls := by
  induction calls generalizing pass with
  | nil => exact .nil
  | cons call rest ih =>
    obtain ⟨received, kept⟩ := call.answer_sorted fits (rules call List.mem_cons_self) sorted
    exact .cons received (ih (fun later mem => rules later (List.mem_cons_of_mem call mem)) kept)

end Call

namespace Scan

/-- A verdict on a result. -/
theorem run_verdict_ok {scene : Scene} {tracing : Bool} {t : Term} {root : Nat} {subject : Subject}
    {all : List FactId} {pass next : Pass} {d : Datum}
    (result : (t.evaluate scene tracing root subject all).run pass = (.ok d, next)) :
    (t.verdict scene tracing root subject all).run pass = (withinTerm t d.decision, next) := by
  rw [Term.run_verdict, result]
  rfl

/-- A scan of a query that began on some store, and went on over stores that need not have anything
to do with each other. -/
inductive Began (query : Query) : Scan → Prop
  | start (params : Option Params) (s : Store) : Began query (.start query params s)
  | next {scan : Scan} (s : Store) : Began query scan → Began query (scan.next s).2.1

/-- A scan of a query with a condition, whose pass keeps results of the right kinds. -/
structure Sorted (scan : Scan) : Prop where
  condition : scan.query.term.WellSorted .truth
  pass : scan.pass.Sorted .none fun _ => some scan.query.term

variable {scan : Scan}

theorem Sorted.start {query : Query} (condition : query.term.WellSorted .truth)
    (params : Option Params) (s : Store) : (start query params s).Sorted :=
  ⟨condition, Pass.sorted_of_fresh rfl⟩

theorem Sorted.examine (sorted : scan.Sorted) (id : FactId) (s : Store) :
    (∃ found, (scan.examine id s).1 = .ok found) ∧ (scan.examine id s).2.1.Sorted := by
  obtain ⟨d, next, run, given, kept⟩ := Term.evaluate_ensures
    (fun _ => some scan.query.term) s.scene s.config.traceEvaluation 0 rfl
    ⟨.truth, sorted.condition⟩ (scan.subject id) scan.all scan.pass sorted.pass
  obtain ⟨found, same⟩ := d.decision_of_kind (given .truth sorted.condition)
  simp only [Scan.examine, Store.goOn_apply, run_verdict_ok run, same]
  exact ⟨⟨found, rfl⟩, sorted.condition, kept⟩

theorem Sorted.advance (ids : List FactId) (sorted : scan.Sorted) (s : Store) :
    (∀ e, (advance ids scan s).1 ≠ some (.error e)) ∧ (advance ids scan s).2.1.Sorted := by
  induction ids generalizing scan s with
  | nil =>
    refine ⟨fun e failed => ?_, sorted.condition, sorted.pass⟩
    cases failed
  | cons id rest ih =>
    obtain ⟨⟨found, examined⟩, next⟩ := sorted.examine id s
    rcases step : scan.examine id s with ⟨_, after, s'⟩
    rw [step] at examined next
    obtain rfl := examined
    cases found with
    | true =>
      simp only [Scan.advance, step]
      exact ⟨fun e => by simp, next.condition, next.pass⟩
    | false =>
      simp only [Scan.advance, step]
      exact ih next s'

theorem Sorted.next (sorted : scan.Sorted) (s : Store) :
    (∀ e, (scan.next s).1 ≠ some (.error e)) ∧ (scan.next s).2.1.Sorted := by
  unfold Scan.next
  split
  · refine ⟨fun e failed => ?_, sorted⟩
    cases failed
  · exact sorted.advance _ s

theorem Began.sorted {query : Query} (condition : query.term.WellSorted .truth)
    (began : Began query scan) : scan.Sorted := by
  induction began with
  | start params s => exact .start condition params s
  | next s _ ih => exact (ih.next s).2

/-- All that a scan with a condition comes up with are facts. -/
theorem Sorted.items (count : Nat) (sorted : scan.Sorted) (s : Store) :
    ∃ handles : List Handle, (scan.items count s).1 = handles.map .ok := by
  induction count generalizing scan s with
  | zero => exact ⟨[], rfl⟩
  | succ count ih =>
    obtain ⟨noError, next⟩ := sorted.next s
    rcases step : scan.next s with ⟨item, after, s'⟩
    rw [step] at noError next
    match item with
    | none =>
      simp only [Scan.items, step]
      exact ⟨[], rfl⟩
    | some (.error e) => exact absurd rfl (noError e)
    | some (.ok handle) =>
      obtain ⟨handles, rest⟩ := ih next s'
      simp only [Scan.items, step, rest]
      exact ⟨handle :: handles, rfl⟩

end Scan

namespace Query

variable {q : Query}

theorem collect_of_condition (condition : q.term.WellSorted .truth) (params : Option Params)
    (s : Store) : ∃ handles, (q.collect params s).1 = .ok handles := by
  obtain ⟨handles, found⟩ := (Scan.Sorted.start condition params s).items (Scan.enough s) s
  refine ⟨handles, ?_⟩
  simp only [collect, found]
  exact mapM_map_eq fun _ _ => rfl

/-- A condition that needs no fact is true or false over all facts. -/
theorem one_of_condition (condition : q.term.WellSorted .truth) (static : q.term.isStatic = true)
    (params : Params) (s : Store) : ∃ b, (q.one params s).1 = .ok (.bool b) := by
  obtain ⟨d, next, run, given, -⟩ := Term.evaluate_ensures (fun _ => some q.term) s.scene
    s.config.traceEvaluation 0 rfl ⟨.truth, condition⟩ (.view ⟨.vacant 0, .params params⟩)
    s.ledger.sequence (.start 1) (Pass.sorted_of_fresh rfl)
  obtain ⟨b, rfl⟩ := given .truth condition
  refine ⟨b, ?_⟩
  simp only [one, static, Store.goOn_apply, run]
  rfl

end Query

/-- What is joined are conditions. -/
theorem Operand.WellSorted.of_joins {op : Operator} {operands : List (Operand Term)} {kind : Kind}
    (rules : WellSorted kind (.term (.node op operands))) (joins : Term.Joins op) :
    kind = .truth ∧ ∀ b ∈ operands, b.WellSorted .truth := by
  rcases joins with rfl | rfl
  · cases rules with
    | and rules => exact ⟨rfl, rules⟩
  · cases rules with
    | or rules => exact ⟨rfl, rules⟩

theorem Operand.WellSorted.joined {op : Operator} {operands : List (Operand Term)}
    (joins : Term.Joins op) (rules : ∀ b ∈ operands, b.WellSorted .truth) :
    WellSorted .truth (.term (.node op operands)) := by
  rcases joins with rfl | rfl
  · exact .and rules
  · exact .or rules

namespace Term

mutual

/-- A simplified term gives results of the same kind. -/
theorem simplify_wellSorted : ∀ (t : Term) {kind : Kind}, t.WellSorted kind →
    t.simplify.WellSorted kind
  | .node op operands, kind, rules => by
    by_cases joins : Joins op
    · obtain ⟨rfl, conditions⟩ := rules.of_joins joins
      have left : ∀ b ∈ firstOccurrences [] (simplifyOperands operands), b.WellSorted .truth := by
        intro b mem
        exact simplifyOperands_wellSorted operands conditions b (firstOccurrences_subset [] _ b mem)
      rw [simplify_joins joins]
      -- a term that stands for the conjunction or disjunction is one of the conditions in it
      rcases collapse_cases op (firstOccurrences [] (simplifyOperands operands)) with
        ⟨t, single, collapsed⟩ | node
      · rw [collapsed]
        exact left (.term t) (by rw [single]; exact List.mem_cons_self)
      · rw [node]
        exact .joined joins left
    · rw [simplify_other joins]
      exact rules

theorem simplifyOperands_wellSorted : ∀ (operands : List (Operand Term)) {kind : Kind},
    (∀ b ∈ operands, b.WellSorted kind) → ∀ b ∈ simplifyOperands operands, b.WellSorted kind
  | [], _, _ => by
    intro b mem
    cases mem
  | operand :: rest, kind, rules => by
    intro b mem
    rcases List.mem_cons.mp mem with rfl | mem
    · exact simplifyOperand_wellSorted operand (rules operand List.mem_cons_self)
    · exact simplifyOperands_wellSorted rest
        (fun c later => rules c (List.mem_cons_of_mem operand later)) b mem

theorem simplifyOperand_wellSorted : ∀ (operand : Operand Term) {kind : Kind},
    operand.WellSorted kind → (simplifyOperand operand).WellSorted kind
  | .literal _, _, rules => rules
  | .symbol _, _, rules => rules
  | .term t, _, rules => simplify_wellSorted t rules

end

/-- Well-sorted terms never fail. Whatever nodes the terms share that are called in a pass which
evaluates no others, in whatever order and on whatever subjects and facts: every result is of the
kind of its term, and every condition is true or false. So a query whose term is a condition never
fails: no scan of it does, whatever is written to the store on its way. And the term that a query is
compiled to is a condition if the one that it is read as is a condition. -/
theorem wellSorted_never_fails :
    (∀ (sharing : Sharing) (terms : Nat → Option Term), sharing.Fits terms →
      ∀ (tracing : Bool) (pass : Pass) (calls : List Call), pass.results = [] →
        (∀ call ∈ calls, call.WellSorted terms) →
        List.Forall₂ Call.Receives
          (Call.answers ((Memo.strategy tracing).shared sharing) calls pass).1 calls) ∧
    (∀ q : Query, q.term.WellSorted .truth →
      (∀ scan, Scan.Began q scan → ∀ s e, (scan.next s).1 ≠ some (.error e)) ∧
      (∀ params s, ∃ handles, (q.collect params s).1 = .ok handles) ∧
      (q.term.isStatic = true → ∀ params s, ∃ b, (q.one params s).1 = .ok (.bool b))) ∧
    ∀ (s : Store) (text : String) (t : Term) (tokens : Nat),
      Factory.verbatim.ofQuery s.config.maxDepth text = .ok (t, tokens) → t.WellSorted .truth →
      ∃ q, (s.compile text).1 = .ok q ∧ q.term.WellSorted .truth := by
  refine ⟨?_, ?_, ?_⟩
  · intro sharing terms fits tracing pass calls fresh rules
    exact Call.answers_sorted fits calls rules (Pass.sorted_of_fresh fresh)
  · intro q condition
    refine ⟨?_, q.collect_of_condition condition, q.one_of_condition condition⟩
    intro scan began s
    exact ((began.sorted condition).next s).1
  · intro s text t tokens read condition
    refine ⟨⟨text, t.simplify, []⟩, ?_, simplify_wellSorted t condition⟩
    simp only [Store.compile, Store.readTerm, ofQuery_of_verbatim read]

open Session.Bench (pair)

/-- The term that `x` equals the greatest `x`. -/
theorem wellSorted_equal :
    (Term.node .eq [.symbol "x", .term (.node .max [.symbol "x"])]).WellSorted .truth :=
  .eq .symbol .max

/-- Whether `x` is one of the greatest or less, asked of two facts, and then the first part of it
asked by itself, where the greatest `x` is one node; and the same condition as a query. -/
theorem wellSorted_never_fails_rivals :
    let call (root : Nat) (id : FactId) (question : Question) : Call :=
      ⟨⟨root, Node.rivals[root]!.term, .fact id, [⟨0⟩, ⟨1⟩]⟩, question, pair.scene⟩
    let calls := [call 1 ⟨0⟩ .test, call 1 ⟨1⟩ .result, call 3 ⟨0⟩ .verdict]
    let sharing : Sharing := .ofNodes Node.made_rivals
    let s := Store.create .standard .empty
    let equal : Term := .node .eq [.symbol "x", .term (.node .max [.symbol "x"])]
    let text := "(and (eq x (max x)))"
    sharing.Fits (Sharing.termsOf Node.rivals) ∧
      (∀ call ∈ calls, call.WellSorted (Sharing.termsOf Node.rivals)) ∧
      List.Forall₂ Call.Receives
        (Call.answers ((Memo.strategy false).shared sharing) calls (.start 0)).1 calls ∧
      Scan.Began ⟨text, equal, []⟩ (.start ⟨text, equal, []⟩ none s) ∧
      (∀ s e, ((Scan.start ⟨text, equal, []⟩ none s).next s).1 ≠ some (.error e)) ∧
      Factory.verbatim.ofQuery s.config.maxDepth text = .ok (.node .and [.term equal], 11) ∧
      ∃ q, (s.compile text).1 = .ok q ∧ q.term.WellSorted .truth := by
  intro call calls sharing s equal text
  have fits : sharing.Fits (Sharing.termsOf Node.rivals) := Sharing.fits_ofNodes Node.made_rivals
  have rivalry : Node.rivals[1]!.term.WellSorted .truth := by
    refine .or fun b mem => ?_
    rcases List.mem_cons.mp mem with rfl | mem
    · exact wellSorted_equal
    · rw [List.mem_singleton.mp mem]
      exact .lt .symbol .max
  have rules : ∀ call ∈ calls, call.WellSorted (Sharing.termsOf Node.rivals) := by
    intro call mem
    simp only [calls, List.mem_cons, List.not_mem_nil, or_false] at mem
    rcases mem with rfl | rfl | rfl
    · exact ⟨rfl, .truth, rivalry⟩
    · exact ⟨rfl, .truth, rivalry⟩
    · exact ⟨rfl, .truth, wellSorted_equal⟩
  have read : Factory.verbatim.ofQuery s.config.maxDepth text
      = .ok (.node .and [.term equal], 11) := by decide +kernel
  refine ⟨fits, rules, wellSorted_never_fails.1 sharing _ fits false _ calls rfl rules,
    .start none s, ?_, read, ?_⟩
  · intro s
    exact (wellSorted_never_fails.2.1 ⟨text, equal, []⟩ wellSorted_equal).1 _ (.start none s) s
  · refine wellSorted_never_fails.2.2 s text _ 11 read (.and ?_)
    intro b mem
    rw [List.mem_singleton.mp mem]
    exact wellSorted_equal

end Term

end Annals
