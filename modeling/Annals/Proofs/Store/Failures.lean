import Annals.Proofs.Eval.Blame
import Annals.Proofs.Outcome
import Annals.Proofs.Store.Frame

/-!
# Failures of queries

A scan asks for the verdict of its term on one fact after the other, and a static query asks for its
result once. What they fail with is what that call has failed with, in one wrapper that names the
query.

* `Scan.Passes` says that a scan goes past facts that the query rejects, and `Scan.Fails` that the
  verdict on the fact after them fails, because of a term in the run of that call.
* `Scan.next_fails` says so of the next item of a scan, and `Scan.items_fails` of the first failure
  among several items.
* `Store.failures_named` is the sum, with the calls themselves: where only the operators of the
  catalogue are defined, every failure names the term that is to blame for it, and names it once.
-/

set_option autoImplicit false

namespace Annals

theorem Memo.run_map_error {α β : Type} {f : α → β} {a : Memo α} {pass : Pass} {e : Error}
    (failed : (a.run pass).1 = .error e) : ((f <$> a).run pass).1 = .error e := by
  rw [map_eq_pure_bind, run_bind]
  rcases ended : a.run pass with ⟨result, next⟩
  rw [ended] at failed
  obtain rfl : result = .error e := failed
  rfl

namespace Call

/-- Where no nodes are shared, what is asked for fails because of a term. -/
theorem faulty_of_ask (call : Call) (registry : call.scene.registry = .empty) {tracing : Bool}
    {pass : Pass} {e : Error} (failed : ((call.ask tracing).run pass).1 = .error e) :
    call.Faulty tracing .none pass e := by
  have answered : (call.answer ((Memo.strategy tracing).shared .none)).run pass
      = (.error e, ((call.ask tracing).run pass).2) := by
    rw [answer_eq_ask]
    exact Prod.ext failed rfl
  exact call.answer_faulty registry answered

end Call

namespace Scan

/-- The call that a scan makes about a fact. -/
def call (scan : Scan) (s : Store) (id : FactId) : Call :=
  ⟨⟨0, scan.query.term, scan.subject id, scan.all⟩, .verdict, s.scene⟩

/-- A scan examines some facts, which the query rejects. -/
inductive Passes : Scan → Store → List FactId → Scan → Store → Prop
  | none (scan : Scan) (s : Store) : Passes scan s [] scan s
  | reject {scan next after : Scan} {s s' s'' : Store} {id : FactId} {rest : List FactId}
    (examined : scan.examine id s = (.ok false, next, s')) (later : Passes next s' rest after s'') :
    Passes scan s (id :: rest) after s''

/-- A scan fails on one of several facts, after those before it were rejected: the verdict on it
fails, and the failure is handed on in one wrapper that names the query. -/
def FailsIn (scan : Scan) (s : Store) (ids : List FactId) (e : Error) : Prop :=
  ∃ before id rest last s' cause, ids = before ++ id :: rest ∧ scan.Passes s before last s' ∧
    (last.examine id s').1 = .error cause ∧
    (last.call s' id).Faulty s'.config.traceEvaluation .none last.pass cause ∧
    e = .query cause scan.query.text scan.query.term.text

/-- The next item of a scan is a failure on a fact that the store holds. -/
def Fails (scan : Scan) (s : Store) (e : Error) : Prop :=
  scan.FailsIn s (s.ledger.sequence.drop scan.position) e

variable {s : Store} {scan : Scan} {e : Error}

theorem examine_faulty (registry : s.registry = .empty) (id : FactId)
    (failed : (scan.examine id s).1 = .error e) :
    (scan.call s id).Faulty s.config.traceEvaluation .none scan.pass e :=
  (scan.call s id).faulty_of_ask registry (Memo.run_map_error failed)

theorem advance_fails (registry : s.registry = .empty) (ids : List FactId)
    (failed : (advance ids scan s).1 = some (.error e)) : scan.FailsIn s ids e := by
  induction ids generalizing scan s with
  | nil => cases failed
  | cons id rest ih =>
    have query : (scan.examine id s).2.1.query = scan.query := rfl
    have reports := scan.examine_onlyReports id s
    rcases examined : scan.examine id s with ⟨found, next, s'⟩
    rw [examined] at query reports
    simp only [advance, examined] at failed
    cases found with
    | error cause =>
      obtain rfl := Except.error.inj (Option.some.inj failed)
      have ended : (scan.examine id s).1 = .error cause := congrArg Prod.fst examined
      refine ⟨[], id, rest, scan, s, cause, rfl, .none scan s, ended,
        examine_faulty registry id ended, ?_⟩
      rw [← query]
      rfl
    | ok b =>
      cases b with
      | true => cases failed
      | false =>
        obtain ⟨before, other, later, last, s'', cause, rfl, passes, ended, faulty, wrapped⟩ :=
          ih (reports.registry.trans registry) failed
        rw [query] at wrapped
        exact ⟨id :: before, other, later, last, s'', cause, rfl, .reject examined passes, ended,
          faulty, wrapped⟩

/-- The failure that ends a scan. -/
theorem next_fails (registry : s.registry = .empty) (failed : (scan.next s).1 = some (.error e)) :
    scan.Fails s e := by
  unfold next at failed
  split at failed
  · cases failed
  · exact advance_fails registry _ failed

/-- The first failure among the items of a scan is the next item after some that are found. -/
theorem items_fails (registry : s.registry = .empty) (count : Nat)
    (failed : (scan.items count s).1.mapM id = .error e) :
    ∃ before, ∃ handles : List Handle, ∃ last s',
      scan.items before s = (handles.map .ok, last, s') ∧ last.query = scan.query ∧
      s'.registry = .empty ∧ (last.next s').1 = some (.error e) := by
  induction count generalizing scan s with
  | zero => cases failed
  | succ count ih =>
    have query := scan.query_next s
    have reports := scan.next_onlyReports s
    rcases taken : scan.next s with ⟨item, next, s'⟩
    rw [taken] at query reports
    simp only [items, taken] at failed
    cases item with
    | none => cases failed
    | some item =>
      rw [List.mapM_cons] at failed
      cases item with
      | error cause =>
        obtain rfl := Except.error.inj failed
        exact ⟨0, [], scan, s, rfl, rfl, registry, congrArg Prod.fst taken⟩
      | ok h =>
        have failed : (next.items count s').1.mapM id = .error e := by
          cases others : (next.items count s').1.mapM id with
          | error cause =>
            rw [others] at failed
            exact congrArg _ (Except.error.inj failed)
          | ok found =>
            rw [others] at failed
            cases failed
        obtain ⟨before, handles, last, s'', items, same, empty, ended⟩ :=
          ih (reports.registry.trans registry) failed
        refine ⟨before + 1, h :: handles, last, s'', ?_, same.trans query, empty, ended⟩
        rw [Scan.items, taken]
        dsimp only
        rw [items]
        rfl

end Scan

namespace Query

/-- The call that a static query makes. -/
def call (q : Query) (params : Params) (s : Store) : Call :=
  ⟨⟨0, q.term, .view ⟨.vacant 0, .params params⟩, s.ledger.sequence⟩, .result, s.scene⟩

variable {s : Store} {q : Query} {e : Error}

/-- A static query fails with what its call fails with, in one wrapper that names the query. -/
theorem one_fails (registry : s.registry = .empty) (static : q.term.isStatic = true)
    (params : Params) (failed : (q.one params s).1 = .error e) :
    ∃ cause, e = .query cause q.text q.term.text ∧
      (q.call params s).Faulty s.config.traceEvaluation .none (.start 1) cause := by
  simp only [one, static, Store.goOn_apply, Bool.not_true, Bool.false_eq_true, if_false] at failed
  split at failed
  · cases failed
  · next cause ended =>
    obtain rfl := Except.error.inj failed
    exact ⟨cause, rfl, (q.call params s).faulty_of_ask registry (Memo.run_map_error ended)⟩

end Query

namespace Store

/-- Where only the operators of the catalogue are defined, a failure names the term that is to blame
for it, and names it once.

* A trail can be left without any difference to the result of an evaluation or to the pass. Whatever
  nodes are shared, a call fails because of the last term in the trail of its evaluation, the term
  itself or one that is nested in it: on the subject, the facts and the pass that it was given in
  this run its operator is not defined, or a check of its own has failed, or its selector has given
  what is no truth value. Or the result is not the truth value that the call asks for. The calls
  where no nodes are shared are evaluations, tests and verdicts.
* A scan fails because the call about the first fact that is not rejected fails, and wraps that
  failure once; so does a query that collects what its scan finds, at the first failure.
* A query that is evaluated alone wraps the failure of its call once, and fails by itself if it is
  not static. -/
theorem failures_named :
    (∀ (tracing : Bool) (call : Call),
      call.answer ((Memo.strategy tracing).shared .none) = call.ask tracing) ∧
    (∀ (tracing : Bool) (sharing : Sharing) (call : Call) (pass : Pass),
      let told := (call.term.evaluateWith call.scene ((Trailed.strategy tracing).shared sharing)
        (.root call.root) call.subject call.all).run (pass, [])
      (told.1, told.2.1) = (call.term.evaluateWith call.scene
        ((Memo.strategy tracing).shared sharing) (.root call.root) call.subject call.all).run pass ∧
      (call.scene.registry = .empty → ∀ e next,
        (call.answer ((Memo.strategy tracing).shared sharing)).run pass = (.error e, next) →
          call.Faulty tracing sharing pass e)) ∧
    ∀ s : Store, s.registry = .empty →
      (∀ (scan : Scan) (e : Error), (scan.next s).1 = some (.error e) → scan.Fails s e) ∧
      (∀ (q : Query) (params : Option Params) (e : Error), (q.collect params s).1 = .error e →
        ∃ count, ∃ handles : List Handle, ∃ last s',
          (Scan.start q params s).items count s = (handles.map .ok, last, s') ∧
          last.query = q ∧ (last.next s').1 = some (.error e) ∧ last.Fails s' e) ∧
      ∀ (q : Query) (params : Params) (e : Error), (q.one params s).1 = .error e →
        if q.term.isStatic then ∃ cause, e = .query cause q.text q.term.text ∧
          (q.call params s).Faulty s.config.traceEvaluation .none (.start 1) cause
        else e = .query (.type (.staticExpected q.term.text)) q.text q.term.text := by
  refine ⟨fun tracing call => call.answer_eq_ask tracing, ?_, ?_⟩
  · intro tracing sharing call pass
    refine ⟨call.term.run_trailed _ _ _ _ _ _ pass [], fun registry e next failed => ?_⟩
    exact call.answer_faulty registry failed
  · intro s registry
    refine ⟨fun scan e => Scan.next_fails registry, fun q params e failed => ?_,
      fun q params e failed => ?_⟩
    · obtain ⟨count, handles, last, s', items, query, empty, ended⟩ :=
        Scan.items_fails registry (Scan.enough s) failed
      exact ⟨count, handles, last, s', items, query, ended, Scan.next_fails empty ended⟩
    · split
      · next static => exact Query.one_fails registry static params failed
      · next dynamic =>
        simp only [Query.one, dynamic] at failed
        exact (Except.error.inj failed).symm

/-- The greatest `x` is no truth value, so that `(not (max x))` fails, whatever else shares the node
of `(max x)`, and in an `and` it is to blame, not the `and`. A term that reads a property cannot be
evaluated alone. -/
theorem failures_named_not :
    let first := (create .standard .empty).insert
    let s := (first.2.write first.1 "x" (.int 1)).2
    let inner := Node.rivals[0]!.term
    let cause : Error := .evaluation (.type (.booleanExpected "Integer")) "(not (max x))"
    let call : Call := ⟨⟨0, inner, .fact ⟨0⟩, [⟨0⟩]⟩, .test, s.scene⟩
    let q : Query := ⟨"(and (not (max x)))", .node .and [.term inner], []⟩
    let reading : Query := ⟨"(exists x)", .node .present [.symbol "x"], []⟩
    call.Faulty false (.ofNodes Node.made_rivals) (.start 0) cause ∧
    ((q.toList s).1 = .error (.query cause q.text q.term.text) ∧ ∃ (v : Visit) (next : Pass),
      v.term = inner ∧ v.subject = .fact ⟨0⟩ ∧
        v.Blamed s.scene false .none ((Address.root 0).operand 0) [⟨0⟩] next cause) ∧
    (reading.one .empty s).1 = .error
      (.query (.type (.staticExpected "(exists x)")) "(exists x)" "(exists x)") := by
  intro first s inner cause call q reading
  obtain ⟨-, calls, queries⟩ := failures_named
  have alone : (reading.one .empty s).1 = .error
      (.query (.type (.staticExpected "(exists x)")) "(exists x)" "(exists x)") := by decide +kernel
  have found : (q.toList s).1 = .error (.query cause q.text q.term.text) := by rfl
  have missed : ((Scan.start q none s).next s).1
      = some (.error (.query cause q.text q.term.text)) := by rfl
  have answered : ((call.answer ((Memo.strategy false).shared (.ofNodes Node.made_rivals))).run
      (.start 0)).1 = .error cause := by
    rfl
  refine ⟨(calls false _ call (.start 0)).2 rfl cause _ (Prod.ext answered rfl), ⟨found, ?_⟩, alone⟩
  obtain ⟨before, id, rest, scan, s', cause', ids, passes, -, faulty, wrapped⟩ :=
    (queries s rfl).1 (.start q none s) _ missed
  obtain rfl : cause = cause' := (Error.query.inj wrapped).1
  have ids : [⟨0⟩] = before ++ id :: rest := ids
  -- the scan fails on the only fact, so that it has gone past none
  cases before with
  | cons other before =>
    have length := congrArg List.length ids
    simp at length
  | nil =>
    cases ids
    cases passes
    cases faulty with
    | truth _ next d _ _ given _ =>
      have failed : ((q.term.evaluateWith s.scene ((Memo.strategy false).shared .none) (.root 0)
          (.fact ⟨0⟩) [⟨0⟩]).run (.start 0)).1 = .error cause := by
        rfl
      cases failed.symm.trans (congrArg Prod.fst given)
    | evaluation next trail failed fails =>
      let seen : List Visit → List (Term × Subject) := List.map fun v => (v.term, v.subject)
      have visits : seen ((q.term.evaluateWith s.scene ((Trailed.strategy false).shared .none)
          (.root 0) (.fact ⟨0⟩) [⟨0⟩]).run (.start 0, [])).2.2
            = [(q.term, .fact ⟨0⟩), (inner, .fact ⟨0⟩)] := by
        rfl
      have trail : seen trail = [(q.term, .fact ⟨0⟩), (inner, .fact ⟨0⟩)] :=
        (congrArg (fun told => seen told.2.2) failed).symm.trans visits
      -- the trail goes from the query to the only operand, and ends there
      cases fails with
      | itself => cases congrArg List.length trail
      | @inside _ u _ _ kept _ _ outer _ i isTerm isNode found handed fails =>
        have operand : i = 0 ∧ u = inner := by
          cases i with
          | zero => exact ⟨rfl, (Operand.term.inj (Option.some.inj found)).symm⟩
          | succ i => cases found
        obtain ⟨rfl, rfl⟩ := operand
        have facts : kept = [⟨0⟩] := by
          cases handed with
          | operand => rfl
        subst facts
        cases fails with
        | inside _ _ _ _ deeper =>
          have length := congrArg List.length trail
          cases deeper with
          | itself => cases length
          | inside => cases length
        | @itself _ _ _ _ _ v isTerm isNode blamed =>
          have last : (v.term, v.subject) = (inner, .fact ⟨0⟩) :=
            (List.cons.inj (List.cons.inj trail).2).1
          exact ⟨v, next, isTerm, congrArg Prod.snd last, blamed⟩

end Store

end Annals
