import Annals.Proofs.Eval.Calls
import Annals.Proofs.Eval.Raises

/-!
# Which term is to blame for a failure

A failure is named once, by the innermost term that failed. To say which term that is in the run at
hand, an evaluation can leave a trail where it fails: every evaluation that was under way is noted
as a visit of a term, with the pass in which it was begun. The last one in the trail is the
innermost.

* `Trailed.strategy` is the evaluation that leaves a trail; `Term.trailed` shows that it does with a
  trail what it does without one.
* `Visit.Raises` says that the operator of a visited term raises an error while no evaluation fails
  inside of it, so that the error is its own, and `Visit.Fault` says which errors these are and how
  they are reported. `Visit.Hands` says which facts an operand is evaluated on.
* `Term.Fails` puts a trail together from these: the visits follow the operands down to one that is
  to blame on the facts that it was handed, and the passes and subjects are those of the run.
* `Term.evaluateWith_fails` is the induction: an evaluation that fails leaves such a trail.
* `Call.answer_faulty` says so of calls, which may also miss a truth value at the term itself.
-/

set_option autoImplicit false

namespace Annals

/-- An evaluation of a term for a node on a subject, begun in a pass. -/
structure Visit where
  term : Term
  node : Address
  subject : Subject
  pass : Pass

/-- A computation in a pass that notes the evaluations that fail in it, the outermost first. -/
abbrev Trailed := ExceptT Error (StateM (Pass × List Visit))

namespace Trailed

/-- No evaluation has failed. -/
abbrev NoTrail (s : Pass × List Visit) : Prop := s.2 = []

/-- Something that is done in the pass and leaves the trail alone. -/
def within {α : Type} (action : Memo α) : Trailed α := fun s =>
  let (result, pass) := action.run s.1
  (result, pass, s.2)

/-- What a visit ends with is kept, unless it fails. Then it is noted. -/
def settle (tracing : Bool) (v : Visit) :
    Except Error Datum × Pass × List Visit → Except Error Datum × Pass × List Visit
  | (.ok d, pass, trail) =>
    let told := if tracing then pass.reported (.termEvaluated v.term d) else pass
    (.ok d, told.keep (Key.of v.term v.node v.subject) d, trail)
  | (.error e, pass, trail) => (.error e, pass, v :: trail)

/-- The evaluation that keeps results and leaves a trail where it fails. -/
def strategy (tracing : Bool) : Strategy Trailed where
  answer t node subject action := fun s =>
    match s.1.results.lookup (Key.of t node subject) with
    | some d => (.ok d, s.1.hit, s.2)
    | none => settle tracing ⟨t, node, subject, s.1⟩ (action.run (s.1.missed, s.2))
  exchange node operand := within ((Memo.strategy tracing).exchange node operand)
  report event := within ((Memo.strategy tracing).report event)
  vacant := within (Memo.strategy tracing).vacant

theorem strategy_steady (tracing : Bool) (sharing : Sharing) :
    ((strategy tracing).shared sharing).Steady NoTrail where
  exchange _ _ _ noTrail := ⟨_, _, rfl, noTrail⟩
  report _ _ noTrail := ⟨_, _, rfl, noTrail⟩
  vacant _ noTrail := ⟨_, _, rfl, noTrail⟩

section

variable {tracing : Bool} {t : Term} {node : Address} {subject : Subject} {s : Pass × List Visit}
variable (action : Trailed Datum)

theorem run_answer_kept {d : Datum} (found : s.1.results.lookup (Key.of t node subject) = some d) :
    ((strategy tracing).answer t node subject action).run s = (.ok d, s.1.hit, s.2) := by
  unfold strategy ExceptT.run
  simp only [found]

theorem run_answer_new (found : s.1.results.lookup (Key.of t node subject) = none) :
    ((strategy tracing).answer t node subject action).run s =
      settle tracing ⟨t, node, subject, s.1⟩ (action.run (s.1.missed, s.2)) := by
  unfold strategy ExceptT.run
  simp only [found]

variable {action}

/-- What was given is kept. -/
theorem kept_of_answer {d : Datum} {next : Pass × List Visit}
    (given : ((strategy tracing).answer t node subject action).run s = (.ok d, next)) :
    next.1.results.lookup (Key.of t node subject) = some d := by
  cases found : s.1.results.lookup (Key.of t node subject) with
  | some kept =>
    rw [run_answer_kept action found] at given
    cases given
    exact found
  | none =>
    rw [run_answer_new action found] at given
    rcases ended : action.run (s.1.missed, s.2) with ⟨result, pass, trail⟩
    rw [ended] at given
    cases result with
    | error e => cases given
    | ok d' =>
      cases given
      exact List.lookup_cons_self

/-- What is evaluated anew fails with what its action fails with, and its visit is noted first. -/
theorem answer_raises {P : Error → Pass × List Visit → Prop}
    (raises : ∀ pass : Pass, Memo.RaisesFrom NoTrail
      (fun e s => P e (s.1, ⟨t, node, subject, pass⟩ :: s.2)) action (pass.missed, [])) :
    Memo.Raises NoTrail P ((strategy tracing).answer t node subject action) := by
  rintro ⟨pass, _⟩ rfl
  cases found : pass.results.lookup (Key.of t node subject) with
  | some kept => exact .of_ok (run_answer_kept action found) rfl
  | none =>
    have run : ((strategy tracing).answer t node subject action).run (pass, [])
        = settle tracing ⟨t, node, subject, pass⟩ (action.run (pass.missed, [])) :=
      run_answer_new action found
    have raises := raises pass
    rcases ended : action.run (pass.missed, []) with ⟨result, next, trail⟩
    rw [ended] at run
    cases result with
    | ok d =>
      obtain rfl : trail = [] := raises.ok d _ ended
      exact .of_ok run rfl
    | error e => exact .of_error run (raises.error e _ ended)

end

end Trailed

/-! ### Evaluations with and without a trail -/

namespace Simulation

/-- Computations with a trail and without one. -/
def trailed : Simulation Trailed Memo :=
  .between (fun s pass => s.1 = pass) Eq

variable {tracing : Bool} {sharing : Sharing}

theorem trailed_answer {t : Term} {node : Address} {subject : Subject} {x : Trailed Datum}
    {y : Memo Datum} (same : trailed.Matches x y) :
    trailed.Matches ((Trailed.strategy tracing).answer t node subject x)
      ((Memo.strategy tracing).answer t node subject y) := by
  rintro ⟨pass, trail⟩ _ rfl
  rw [Memo.run_answer]
  cases found : pass.results.lookup (Key.of t node subject) with
  | some d =>
    rw [Trailed.run_answer_kept x found]
    exact ⟨rfl, rfl⟩
  | none =>
    rw [Trailed.run_answer_new x found]
    have along : (x.run (pass.missed, trail)).1 = (y.run pass.missed).1
        ∧ (x.run (pass.missed, trail)).2.1 = (y.run pass.missed).2 := same _ _ rfl
    rcases ended : x.run (pass.missed, trail) with ⟨result, next, later⟩
    rcases ended' : y.run pass.missed with ⟨result', next'⟩
    rw [ended, ended'] at along
    obtain ⟨rfl, rfl⟩ := along
    cases result with
    | ok d => exact ⟨rfl, rfl⟩
    | error e => exact ⟨rfl, rfl⟩

theorem trailed_strategies : trailed.StrategiesMatch ((Trailed.strategy tracing).shared sharing)
    ((Memo.strategy tracing).shared sharing) := by
  refine ⟨?_, ?_⟩
  · rintro event s _ rfl
    exact ⟨rfl, rfl⟩
  · rintro f g same s _ rfl
    rw [Memo.run_bind, Memo.run_bind]
    exact same _ _ rfl (s.1.tookVacant, s.2) s.1.tookVacant rfl

end Simulation

namespace Term

/-- The evaluation of a term with and without a trail. -/
def trailed {left right : Scene} (tracing : Bool) (sharing : Sharing)
    (registry : left.registry = right.registry) (contents : left.contents = right.contents) :
    Simulation.trailed.Congruence left right ((Trailed.strategy tracing).shared sharing)
      ((Memo.strategy tracing).shared sharing) :=
  .alongside registry contents (fun _ _ same => same) Simulation.trailed_strategies
    (fun _ _ _ _ same => same ▸ ⟨rfl, rfl⟩) fun _ same => Simulation.trailed_answer same

/-- An evaluation with a trail gives what it gives without one and leaves the same pass. -/
theorem run_trailed (scene : Scene) (tracing : Bool) (sharing : Sharing) (t : Term)
    (address : Address) (subject : Subject) (all : List FactId) (pass : Pass)
    (trail : List Visit) :
    let told := (t.evaluateWith scene ((Trailed.strategy tracing).shared sharing) address subject
      all).run (pass, trail)
    (told.1, told.2.1) = (t.evaluateWith scene ((Memo.strategy tracing).shared sharing) address
      subject all).run pass := by
  have same : Simulation.trailed.Matches
      (t.evaluateWith scene ((Trailed.strategy tracing).shared sharing) address subject all)
      (t.evaluateWith scene ((Memo.strategy tracing).shared sharing) address subject all) :=
    (trailed tracing sharing (rfl : scene.registry = _) rfl).evaluateWith_matches t
      (And.intro rfl rfl)
  obtain ⟨result, left⟩ := same (pass, trail) pass rfl
  exact Prod.ext result left

end Term

/-! ### Who is to blame -/

namespace Visit

section

variable (scene : Scene) (tracing : Bool) (sharing : Sharing)

/-- What the operator of a visited term does, in an evaluation that leaves a trail. -/
def operation (v : Visit) (address : Address) (all : List FactId) : Trailed Datum :=
  let strategy := (Trailed.strategy tracing).shared sharing
  Operation.perform scene strategy v.subject all v.term address
    (Term.arguments scene strategy address 0 v.term.operands)

/-- The operator of a visited term raises an error by itself: begun in the pass of the visit, it
fails while no evaluation in it fails, and leaves a pass. -/
def Raises (v : Visit) (address : Address) (all : List FactId) (cause : Error) (next : Pass) :
    Prop :=
  (v.operation scene tracing sharing address all).run (v.pass.missed, []) = (.error cause, next, [])

/-- What the operator of a visited term may raise by itself, and what is reported then: a check of
its own has failed, the operator is not defined, or the selector of the term has given a result on
one of the facts, which the pass keeps and which is no truth value. The selector is named then. -/
inductive Fault (v : Visit) (address : Address) (all : List FactId) (next : Pass) :
    Error → Error → Prop
  | check {cause : Error} (plain : cause.Plain) :
    Fault v address all next cause (.evaluation cause v.term.text)
  | undefined {name : String} (op : v.term.op = .custom name) :
    Fault v address all next (.undefinedOperator name v.term.text)
      (.undefinedOperator name v.term.text)
  | selector {cause : Error} {u : Term} {body : Operand Term} {id : FactId} {d : Datum}
    (isAgg : v.term = .node .agg [.term u, body]) (mem : id ∈ all)
    (given : next.results.lookup (Key.of u (sharing.node (address.operand 0))
      (Operation.candidate v.subject.parameters id)) = some d)
    (plain : cause.Plain) (unfit : d.truth = .error cause) :
    Fault v address all next (.evaluation cause u.text) (.evaluation cause u.text)

/-- A visited term is to blame for an error: its own operator has raised what is reported. -/
def Blamed (v : Visit) (address : Address) (all : List FactId) (next : Pass) (e : Error) : Prop :=
  ∃ cause, v.Raises scene tracing sharing address all cause next ∧
    v.Fault sharing address all next cause e

/-- The facts that the operator of a visited term hands to an operand: those at hand, or to the body
of an aggregation those that the selector has kept of them. -/
inductive Hands (v : Visit) (address : Address) (all : List FactId) : Nat → List FactId → Prop
  | operand (i : Nat) (first : v.term.op = .agg → i = 0) : Hands v address all i all
  | body {u : Term} {b : Operand Term} {kept : List FactId} {next : Pass}
    (isAgg : v.term = .node .agg [.term u, b])
    (selected : (Operation.select all ⟨.term u, Term.resolve scene
      ((Trailed.strategy tracing).shared sharing) (.term u) (address.operand 0)⟩ u
        v.subject.parameters all).run (v.pass.missed, []) = (.ok kept, next, [])) :
    Hands v address all 1 kept

end

variable {scene : Scene} {tracing : Bool} {sharing : Sharing} {v : Visit} {address : Address}
variable {all : List FactId} {next : Pass} {cause e : Error}

/-- What is reported is what was raised, with the text of the term, and terms around it leave it as
it is. -/
theorem Fault.within (fault : v.Fault sharing address all next cause e) :
    cause.within v.term.text = e ∧ ∀ text, e.within text = e := by
  cases fault with
  | check plain => exact ⟨plain.within _, fun _ => rfl⟩
  | undefined op => exact ⟨rfl, fun _ => rfl⟩
  | selector isAgg mem given plain unfit => exact ⟨rfl, fun _ => rfl⟩

end Visit

/-- A term at a place fails on some facts and leaves a trail that begins with a visit of it: that
visit is to blame, or an operand fails on the facts that it is handed. -/
inductive Term.Fails (scene : Scene) (tracing : Bool) (sharing : Sharing) :
    Term → Address → List FactId → Error → Pass → List Visit → Prop
  | itself {t : Term} {address : Address} {all : List FactId} {e : Error} {next : Pass} {v : Visit}
    (isTerm : v.term = t) (isNode : v.node = sharing.node address)
    (blamed : v.Blamed scene tracing sharing address all next e) :
    Fails scene tracing sharing t address all e next [v]
  | inside {t u : Term} {address : Address} {all kept : List FactId} {e : Error} {next : Pass}
    {v : Visit} {trail : List Visit} {i : Nat}
    (isTerm : v.term = t) (isNode : v.node = sharing.node address)
    (found : t.operands[i]? = some (.term u))
    (handed : v.Hands scene tracing sharing address all i kept)
    (fails : Fails scene tracing sharing u (address.operand i) kept e next trail) :
    Fails scene tracing sharing t address all e next (v :: trail)

/-- Terms around a term that fails leave the failure as it is. -/
theorem Term.Fails.within {scene : Scene} {tracing : Bool} {sharing : Sharing} {t : Term}
    {address : Address} {all : List FactId} {e : Error} {next : Pass} {trail : List Visit}
    (fails : t.Fails scene tracing sharing address all e next trail) (text : String) :
    e.within text = e := by
  induction fails with
  | itself isTerm isNode blamed =>
    obtain ⟨cause, -, fault⟩ := blamed
    exact fault.within.2 text
  | inside isTerm isNode found handed fails ih => exact ih

/-! ### Every failure has a term to blame -/

section

open Memo (RaisesFrom)
open Trailed (NoTrail)

variable (scene : Scene) (tracing : Bool) (sharing : Sharing)

/-- An operand fails because it is a term that does. -/
def Operand.Fails (operand : Operand Term) (address : Address) (all : List FactId) (e : Error)
    (s : Pass × List Visit) : Prop :=
  ∃ u, operand = .term u ∧ u.Fails scene tracing sharing address all e s.1 s.2

/-- Wherever an operand is evaluated without a trail, it fails because it is a term that does. -/
def Operand.FailsAsTerm (operand : Operand Term) : Prop :=
  ∀ address subject all, Memo.Raises NoTrail
    (operand.Fails scene tracing sharing address all)
    (Term.resolve scene ((Trailed.strategy tracing).shared sharing) operand address subject all)

/-- The operator of a visited term fails: by itself, or because an operand does. -/
inductive Visit.Failing (v : Visit) (address : Address) (all : List FactId) (e : Error)
    (s : Pass × List Visit) : Prop
  | itself {reported : Error} (noTrail : NoTrail s)
    (fault : v.Fault sharing address all s.1 e reported)
  | inside {i : Nat} {operand : Operand Term} {kept : List FactId}
    (found : v.term.operands[i]? = some operand)
    (handed : v.Hands scene tracing sharing address all i kept)
    (fails : operand.Fails scene tracing sharing (address.operand i) kept e s)

variable {scene tracing sharing}

namespace Visit

/-- An aggregation fails by itself, or because its selector does on a fact, or its body on the facts
that are kept. -/
theorem aggregation_fails {v : Visit} {x y : Operand Term} (isAgg : v.term = .node .agg [x, y])
    (address : Address) (all : List FactId) (selector : x.FailsAsTerm scene tracing sharing)
    (body : y.FailsAsTerm scene tracing sharing) :
    let strategy := (Trailed.strategy tracing).shared sharing
    RaisesFrom NoTrail (v.Failing scene tracing sharing address all)
      (Operation.aggregation strategy v.subject all
        ⟨x, Term.resolve scene strategy x (address.operand 0)⟩
        ⟨y, Term.resolve scene strategy y (address.operand 1)⟩) (v.pass.missed, []) := by
  obtain ⟨t, node, subject, pass⟩ := v
  obtain rfl : t = .node .agg [x, y] := isAgg
  refine Operation.aggregation_raises (fun e plain next noTrail => .itself noTrail (.check plain))
    (Trailed.strategy_steady tracing sharing) rfl ?_ ?_ ?_
  · intro id
    exact (selector _ _ all).imp fun e s => .inside rfl (.operand 0 fun _ => rfl)
  · intro u isTerm id mem s d next cause given noTrail unfit
    obtain rfl : x = .term u := isTerm
    have plain := Datum.plain_of_truth unfit
    have kept : next.1.results.lookup (Key.of u (sharing.node (address.operand 0))
        (Operation.candidate subject.parameters id)) = some d := by
      cases u with
      | node op operands => exact Trailed.kept_of_answer given
    rw [plain.within]
    exact .itself noTrail (.selector rfl mem kept plain unfit)
  · rintro u kept ⟨next, _⟩ isTerm selected rfl other
    obtain rfl : x = .term u := isTerm
    exact (body _ other kept).imp fun e s => .inside rfl (.body rfl selected)

/-- The operator of a visited term fails by itself, or because an operand does. -/
theorem operation_fails (registry : scene.registry = .empty) (v : Visit) (address : Address)
    (all : List FactId)
    (values : ∀ operand ∈ v.term.operands, operand.FailsAsTerm scene tracing sharing) :
    RaisesFrom NoTrail (v.Failing scene tracing sharing address all)
      (v.operation scene tracing sharing address all) (v.pass.missed, []) := by
  have plain : ∀ e : Error, e.Plain → ∀ next : Pass × List Visit, NoTrail next →
      v.Failing scene tracing sharing address all e next :=
    fun e plain next noTrail => .itself noTrail (.check plain)
  by_cases isAgg : v.term.op = .agg
  · obtain ⟨⟨op, operands⟩, node, subject, pass⟩ := v
    obtain rfl : op = .agg := isAgg
    have arity : ∀ given : Nat, Memo.Raises NoTrail _
        (throw (.arity Operator.agg.name 2 given) : Trailed Datum) :=
      fun given => .throw (plain _ trivial)
    rcases operands with _ | ⟨x, _ | ⟨y, _ | ⟨z, rest⟩⟩⟩
    · exact arity _ _ rfl
    · exact arity _ _ rfl
    · exact aggregation_fails rfl address all (values x List.mem_cons_self)
        (values y (List.mem_cons_of_mem x List.mem_cons_self))
    · exact arity _ _ rfl
  · refine Operation.perform_raises plain registry (Trailed.strategy_steady tracing sharing) v.term
      address isAgg ?_ ?_ _ rfl
    · intro a mem
      obtain ⟨i, found, value⟩ := Term.mem_arguments mem
      rw [value, Nat.zero_add]
      exact (values a.operand (List.mem_of_getElem? found) _ _ all).imp fun e s =>
        .inside found (.operand i fun single => absurd single isAgg)
    · intro name next op noTrail
      exact .itself noTrail (.undefined op)

end Visit

namespace Term

/-- A visit whose operator fails by itself is to blame, and one whose operand fails is around the
one that is. -/
theorem named_fails {v : Visit} {address : Address} {all : List FactId}
    (isNode : v.node = sharing.node address)
    (performs : RaisesFrom NoTrail (v.Failing scene tracing sharing address all)
      (v.operation scene tracing sharing address all) (v.pass.missed, [])) :
    RaisesFrom NoTrail (fun e s => v.term.Fails scene tracing sharing address all e s.1 (v :: s.2))
      (named v.term (v.operation scene tracing sharing address all)) (v.pass.missed, []) := by
  rcases ended : (v.operation scene tracing sharing address all).run (v.pass.missed, [])
    with ⟨result, next, trail⟩
  have run := Memo.run_named (v.pass.missed, []) v.term
    (v.operation scene tracing sharing address all)
  rw [ended] at run
  cases result with
  | ok d => exact .of_ok run (performs.ok d _ ended)
  | error cause =>
    refine .of_error run ?_
    cases performs.error cause _ ended with
    | itself noTrail fault =>
      obtain rfl : trail = [] := noTrail
      rw [fault.within.1]
      exact .itself rfl isNode ⟨cause, ended, fault⟩
    | inside found handed fails =>
      obtain ⟨u, rfl, fails⟩ := fails
      rw [fails.within]
      exact .inside rfl isNode found handed fails

mutual

/-- An evaluation that fails leaves a trail to the term that is to blame. -/
theorem evaluateWith_fails (registry : scene.registry = .empty) (t : Term) (address : Address)
    (subject : Subject) (all : List FactId) :
    Memo.Raises NoTrail (fun e s => t.Fails scene tracing sharing address all e s.1 s.2)
      (t.evaluateWith scene ((Trailed.strategy tracing).shared sharing) address subject all) :=
  match t with
  | .node op operands => by
    refine Trailed.answer_raises fun pass => ?_
    let v : Visit := ⟨.node op operands, sharing.node address, subject, pass⟩
    exact named_fails (v := v) rfl
      (v.operation_fails registry address all (operands_failAsTerms registry operands))

/-- Operands fail because they are terms that do. -/
theorem operands_failAsTerms (registry : scene.registry = .empty) (operands : List (Operand Term)) :
    ∀ operand ∈ operands, operand.FailsAsTerm scene tracing sharing :=
  match operands with
  | [] => fun _ mem => absurd mem List.not_mem_nil
  | first :: rest => List.forall_mem_cons.mpr
    ⟨resolve_failsAsTerm registry first, operands_failAsTerms registry rest⟩

/-- An operand fails because it is a term that does. -/
theorem resolve_failsAsTerm (registry : scene.registry = .empty) (operand : Operand Term) :
    operand.FailsAsTerm scene tracing sharing := fun address subject all =>
  match operand with
  | .literal _ => .pure _
  | .symbol _ => .pure _
  | .term t =>
    (evaluateWith_fails registry t address subject all).imp fun _ _ fails => ⟨t, rfl, fails⟩

end

end Term

end

namespace Call

/-- A call fails because the evaluation of its term does, and a term to blame for that is where its
trail ends. Or the result of the evaluation is not the truth value that was asked for. -/
inductive Faulty (tracing : Bool) (sharing : Sharing) (call : Call) (pass : Pass) (e : Error) : Prop
  | evaluation (next : Pass) (trail : List Visit)
    (failed : (call.term.evaluateWith call.scene ((Trailed.strategy tracing).shared sharing)
      (.root call.root) call.subject call.all).run (pass, []) = (.error e, next, trail))
    (fails : call.term.Fails call.scene tracing sharing (.root call.root) call.all e next trail)
  | truth (cause : Error) (next : Pass) (d : Datum) (plain : cause.Plain)
    (reported : e = .evaluation cause call.term.text)
    (given : (call.term.evaluateWith call.scene ((Memo.strategy tracing).shared sharing)
      (.root call.root) call.subject call.all).run pass = (.ok d, next))
    (judged : call.question.judge call.term d = .error e)

/-- What is said of a result that is no truth value is plain. -/
theorem plain_of_judge {t : Term} {d : Datum} {question : Question} {e : Error}
    (judged : question.judge t d = .error e) :
    ∃ cause : Error, cause.Plain ∧ e = .evaluation cause t.text := by
  have missed : ∀ {r : Except Error Bool}, (withinTerm t r).map Session.PassAnswer.flag = .error e →
      ∃ cause, r = .error cause ∧ e = cause.within t.text := by
    intro r failed
    cases r with
    | ok b => cases failed
    | error cause => exact ⟨cause, rfl, (Except.error.inj failed).symm⟩
  cases question with
  | result => cases judged
  | test =>
    obtain ⟨cause, truth, rfl⟩ := missed judged
    have plain := Datum.plain_of_truth truth
    exact ⟨cause, plain, plain.within _⟩
  | verdict =>
    obtain ⟨cause, decision, rfl⟩ := missed judged
    have plain := Datum.plain_of_decision decision
    exact ⟨cause, plain, plain.within _⟩

/-- Whatever nodes a term shares, a call about it fails because of the term or of one that is nested
in it. -/
theorem answer_faulty (call : Call) (registry : call.scene.registry = .empty) {tracing : Bool}
    {sharing : Sharing} {pass next : Pass} {e : Error}
    (failed : (call.answer ((Memo.strategy tracing).shared sharing)).run pass = (.error e, next)) :
    call.Faulty tracing sharing pass e := by
  rw [answer, Memo.run_bind_outcome] at failed
  obtain ⟨judged, rfl⟩ := Prod.mk.inj failed
  have same := call.term.run_trailed call.scene tracing sharing (.root call.root) call.subject
    call.all pass []
  rcases told : (call.term.evaluateWith call.scene ((Trailed.strategy tracing).shared sharing)
    (.root call.root) call.subject call.all).run (pass, []) with ⟨result, next, trail⟩
  rw [told] at same
  rw [← same] at judged
  cases result with
  | ok d =>
    obtain ⟨cause, plain, reported⟩ := plain_of_judge judged
    exact .truth cause next d plain reported same.symm judged
  | error e' =>
    obtain rfl : e' = e := Except.error.inj judged
    have fails := (call.term.evaluateWith_fails registry _ _ _ (pass, []) rfl).error e' _ told
    exact .evaluation next trail told fails

end Call

end Annals
