import Annals.Proofs.Eval.Simulation

/-!
# What operators raise

`Memo.Raises` says of a computation with a state what it may fail with, if it is begun in a state of
some kind, and is closed under the steps that every evaluation is made of. An operator checks the
number of its operands, their sorts and their results, and compiles patterns; what it raises when
one of these checks fails is plain, which means that it says what is wrong and names no term
(`Error.Plain`).

* `Operation.perform_raises` is the sum of all operators but the aggregation: whatever is raised by
  the operands on the subject and the facts at hand is handed on, and everything else is plain, but
  for an operator that is not defined.
* `Operation.aggregation_raises`: the selector is evaluated on every fact and the body on the facts
  that are kept, and a selector that has another result than a truth value is named.
-/

set_option autoImplicit false

namespace Annals

/-- An error that says what is wrong and names no term: a number of operands, a sort, a pattern. -/
def Error.Plain : Error → Prop
  | .arity _ _ _ => True
  | .type _ => True
  | .pattern => True
  | _ => False

/-- A plain error is named by the term that it is reported with. -/
theorem Error.Plain.within {e : Error} (plain : e.Plain) (text : String) :
    e.within text = .evaluation e text := by
  cases e <;> first | rfl | cases plain

namespace Datum

theorem plain_of_truth {d : Datum} {e : Error} (failed : d.truth = .error e) : e.Plain := by
  cases d with
  | nil => cases failed
  | bool b => cases failed
  | values vs =>
    obtain rfl := Except.error.inj failed
    trivial

theorem plain_of_decision {d : Datum} {e : Error} (failed : d.decision = .error e) : e.Plain := by
  cases d with
  | nil =>
    obtain rfl := Except.error.inj failed
    trivial
  | bool b => cases failed
  | values vs => exact plain_of_truth (d := .values vs) failed

theorem plain_of_operands? {d : Datum} {e : Error} (failed : d.operands? = .error e) :
    e.Plain := by
  cases d with
  | nil => cases failed
  | bool b =>
    obtain rfl := Except.error.inj failed
    trivial
  | values vs => cases failed

end Datum

namespace Operand

variable {operand : Operand Term} {e : Error}

theorem plain_of_symbolAt {position : Nat} (failed : operand.symbolAt position = .error e) :
    e.Plain := by
  cases operand with
  | symbol name => cases failed
  | literal v => cases failed; trivial
  | term t => cases failed; trivial

theorem plain_of_extremumSymbol (failed : operand.extremumSymbol = .error e) : e.Plain := by
  cases operand with
  | symbol name => cases failed
  | literal v => cases failed; trivial
  | term t => cases failed; trivial

theorem plain_of_nested (failed : operand.nested = .error e) : e.Plain := by
  cases operand with
  | symbol name => cases failed; trivial
  | literal v => cases failed; trivial
  | term t => cases failed

end Operand

namespace Memo

variable {σ α β : Type}

/-- A computation from a state leaves a state of some kind, or fails with an error of some kind in
the state that it leaves. -/
structure RaisesFrom (Kept : σ → Prop) (P : Error → σ → Prop) (a : ExceptT Error (StateM σ) α)
    (s : σ) : Prop where
  ok : ∀ x next, a.run s = (.ok x, next) → Kept next
  error : ∀ e next, a.run s = (.error e, next) → P e next

/-- What a computation raises from every state of a kind that it keeps. -/
def Raises (Kept : σ → Prop) (P : Error → σ → Prop) (a : ExceptT Error (StateM σ) α) : Prop :=
  ∀ s, Kept s → RaisesFrom Kept P a s

variable {Kept : σ → Prop} {P Q : Error → σ → Prop} {a : ExceptT Error (StateM σ) α}

namespace RaisesFrom

variable {s next : σ}

theorem of_ok {x : α} (run : a.run s = (.ok x, next)) (kept : Kept next) :
    RaisesFrom Kept P a s := by
  refine ⟨fun y later given => ?_, fun e later failed => ?_⟩
  · cases run.symm.trans given
    exact kept
  · cases run.symm.trans failed

theorem of_error {e : Error} (run : a.run s = (.error e, next)) (raised : P e next) :
    RaisesFrom Kept P a s := by
  refine ⟨fun y later given => ?_, fun e later failed => ?_⟩
  · cases run.symm.trans given
  · cases run.symm.trans failed
    exact raised

/-- A failure of the first part is a failure, and the rest goes on from where that part ended. -/
theorem bind {f : α → ExceptT Error (StateM σ) β}
    (first : ∀ e next, a.run s = (.error e, next) → P e next)
    (rest : ∀ x next, a.run s = (.ok x, next) → RaisesFrom Kept P (f x) next) :
    RaisesFrom Kept P (a >>= f) s := by
  rcases ended : a.run s with ⟨result, middle⟩
  cases result with
  | ok x =>
    have same : (a >>= f).run s = (f x).run middle := by rw [run_bind, ended]
    have later := rest x middle ended
    exact ⟨fun y next given => later.ok y next (same.symm.trans given),
      fun e next failed => later.error e next (same.symm.trans failed)⟩
  | error e =>
    have same : (a >>= f).run s = (.error e, middle) := by rw [run_bind, ended]
    exact .of_error same (first e middle ended)

end RaisesFrom

namespace Raises

theorem pure (x : α) : Raises Kept P (pure x) :=
  fun _ kept => .of_ok rfl kept

theorem throw {e : Error} (raised : ∀ next, Kept next → P e next) :
    Raises Kept P (throw e : ExceptT Error (StateM σ) α) :=
  fun s kept => .of_error rfl (raised s kept)

theorem bind {f : α → ExceptT Error (StateM σ) β} (first : Raises Kept P a)
    (rest : ∀ x, Raises Kept P (f x)) : Raises Kept P (a >>= f) :=
  fun s kept => .bind (first s kept).error fun x next given =>
    rest x next ((first s kept).ok x next given)

theorem outcome {r : Except Error α} (raised : ∀ e, r = .error e → ∀ next, Kept next → P e next) :
    Raises Kept P (Operation.outcome r) := by
  cases r with
  | ok x => exact .pure x
  | error e => exact .throw (raised e rfl)

/-- What does not fail at all raises nothing of any kind. -/
theorem never (steady : ∀ s, Kept s → ∃ x next, a.run s = (.ok x, next) ∧ Kept next) :
    Raises Kept P a := by
  intro s kept
  obtain ⟨x, next, ended, later⟩ := steady s kept
  exact .of_ok ended later

theorem imp (raises : Raises Kept P a) (implies : ∀ e s, P e s → Q e s) : Raises Kept Q a :=
  fun s kept => ⟨(raises s kept).ok, fun e next failed =>
    implies e next ((raises s kept).error e next failed)⟩

end Raises

end Memo

/-- A strategy that does not fail by itself when it remembers, reports or makes a view, and keeps
states of some kind. -/
structure Strategy.Steady {σ : Type} (strategy : Strategy (ExceptT Error (StateM σ)))
    (Kept : σ → Prop) : Prop where
  exchange : ∀ address d s, Kept s → ∃ before next,
    (strategy.exchange address d).run s = (.ok before, next) ∧ Kept next
  report : ∀ event s, Kept s → ∃ x next, (strategy.report event).run s = (.ok x, next) ∧ Kept next
  vacant : ∀ s, Kept s → ∃ front next, strategy.vacant.run s = (.ok front, next) ∧ Kept next

namespace Operation

open Memo (Raises RaisesFrom)

variable {σ : Type} {Kept : σ → Prop} {P : Error → σ → Prop} {scene : Scene} {subject : Subject}
variable {all : List FactId} {strategy : Strategy (ExceptT Error (StateM σ))}
variable {a b : Argument (ExceptT Error (StateM σ))}
variable {args : List (Argument (ExceptT Error (StateM σ)))}

theorem either_raises (left : Raises Kept P (a.value subject all))
    (right : Raises Kept P (b.value subject all)) : Raises Kept P (either subject all a b) := by
  refine left.bind fun d => ?_
  split
  · exact right
  · exact .pure d

theorem equality_raises (left : Raises Kept P (a.value subject all))
    (right : Raises Kept P (b.value subject all)) : Raises Kept P (equality subject all a b) := by
  refine left.bind fun l => ?_
  split
  · exact .pure _
  · exact right.bind fun r => .pure _

/-- A selector fails if its value does, or if it has a value on some fact that is no truth value. -/
theorem select_raises (t : Term) (parameters : Option Backing) (facts : List FactId)
    (value : ∀ id, Raises Kept P (a.value (candidate parameters id) all))
    (unfit : ∀ id ∈ facts, ∀ s d next cause,
      (a.value (candidate parameters id) all).run s = (.ok d, next) → Kept next →
        d.truth = .error cause → P (cause.within t.text) next) :
    Raises Kept P (select all a t parameters facts) := by
  induction facts with
  | nil => exact .pure _
  | cons id rest ih =>
    have later := ih fun other mem => unfit other (List.mem_cons_of_mem id mem)
    intro s kept
    rw [select]
    refine .bind (value id s kept).error fun d next given => ?_
    have kept := (value id s kept).ok d next given
    refine .bind (fun e last failed => ?_) fun keep last truth => ?_
    · rw [Memo.run_outcome] at failed
      obtain ⟨within, rfl⟩ := Prod.mk.inj failed
      cases truth : d.truth with
      | ok keep =>
        rw [truth] at within
        cases within
      | error cause =>
        rw [truth] at within
        cases within
        exact unfit id List.mem_cons_self s d next cause given kept truth
    · rw [Memo.run_outcome] at truth
      obtain rfl : next = last := (Prod.mk.inj truth).2
      exact (later.bind fun kept => .pure _) next kept

section

variable (plain : ∀ e : Error, e.Plain → ∀ next, Kept next → P e next)
include plain

theorem nullary_raises (op : Operator) {action : ExceptT Error (StateM σ) Datum}
    (raises : Raises Kept P action) : Raises Kept P (nullary op args action) := by
  unfold nullary
  split
  · exact raises
  · exact .throw (plain _ trivial)

theorem unary_raises (op : Operator)
    {action : Argument (ExceptT Error (StateM σ)) → ExceptT Error (StateM σ) Datum}
    (raises : ∀ a, args = [a] → Raises Kept P (action a)) :
    Raises Kept P (unary op args action) := by
  unfold unary
  split
  · exact raises _ rfl
  · exact .throw (plain _ trivial)

theorem binary_raises (op : Operator) {action : Argument (ExceptT Error (StateM σ)) →
      Argument (ExceptT Error (StateM σ)) → ExceptT Error (StateM σ) Datum}
    (raises : ∀ a b, args = [a, b] → Raises Kept P (action a b)) :
    Raises Kept P (binary op args action) := by
  unfold binary
  split
  · exact raises _ _ rfl
  · exact .throw (plain _ trivial)

theorem truthOf_raises (value : Raises Kept P (a.value subject all)) :
    Raises Kept P (truthOf subject all a) :=
  value.bind fun _ => .outcome fun e failed => plain e (Datum.plain_of_truth failed)

theorem property_raises : Raises Kept P (property scene subject a) :=
  .bind (.outcome fun e failed => plain e (Operand.plain_of_symbolAt failed)) fun _ => .pure _

theorem nth_raises (index : Raises Kept P (a.value subject all))
    (values : Raises Kept P (b.value subject all)) : Raises Kept P (nth subject all a b) := by
  refine index.bind fun i => ?_
  split
  · exact values.bind fun vs => .pure _
  · exact .throw (plain _ trivial)

theorem comparison_raises (wanted : Ordering) (left : Raises Kept P (a.value subject all))
    (right : Raises Kept P (b.value subject all)) :
    Raises Kept P (comparison subject all wanted a b) := by
  have ordered : ∀ d : Datum, Raises Kept P (outcome d.operands? : ExceptT Error (StateM σ) _) :=
    fun d => .outcome fun e failed => plain e (Datum.plain_of_operands? failed)
  refine left.bind fun l => (ordered l).bind fun lefts => ?_
  split
  · refine right.bind fun r => (ordered r).bind fun rights => ?_
    split
    · exact .pure _
    · exact .pure _
  · exact .pure _

theorem fits_raises (text : Raises Kept P (a.value subject all))
    (pattern : Raises Kept P (b.value subject all)) : Raises Kept P (fits subject all a b) := by
  have sort : ∀ {α : Type} (fault : TypeFault),
      Raises Kept P (throw (.type fault) : ExceptT Error (StateM σ) α) :=
    fun fault => .throw (plain (.type fault) trivial)
  have broken : Raises Kept P (throw .pattern : ExceptT Error (StateM σ) Datum) :=
    .throw (plain .pattern trivial)
  refine text.bind fun t => ?_
  split
  · exact .pure _
  split
  · refine pattern.bind fun p => ?_
    dsimp only
    split
    on_goal 1 => apply (sort _).bind; intro _
    all_goals
      split
      · split
        · exact .pure _
        · exact broken
      · exact sort _
  · exact sort _

theorem best_raises (wanted : Ordering) : Raises Kept P (best scene all wanted a) :=
  .bind (.outcome fun e failed => plain e (Operand.plain_of_extremumSymbol failed)) fun _ => .pure _

theorem conjunction_raises (values : ∀ a ∈ args, Raises Kept P (a.value subject all)) :
    Raises Kept P (conjunction subject all args) := by
  induction args with
  | nil => exact .pure _
  | cons a rest ih =>
    refine (truthOf_raises plain (values a List.mem_cons_self)).bind fun b => ?_
    split
    · exact ih fun c mem => values c (List.mem_cons_of_mem a mem)
    · exact .pure _

theorem disjunction_raises (values : ∀ a ∈ args, Raises Kept P (a.value subject all)) :
    Raises Kept P (disjunction subject all args) := by
  induction args with
  | nil => exact .pure _
  | cons a rest ih =>
    refine (truthOf_raises plain (values a List.mem_cons_self)).bind fun b => ?_
    split
    · exact .pure _
    · exact ih fun c mem => values c (List.mem_cons_of_mem a mem)

theorem nested_raises (operand : Operand Term) :
    Raises Kept P (outcome operand.nested : ExceptT Error (StateM σ) Term) :=
  .outcome fun e failed => plain e (Operand.plain_of_nested failed)

theorem tracing_raises (steady : strategy.Steady Kept)
    (value : Raises Kept P (a.value subject all)) :
    Raises Kept P (Operation.tracing strategy subject all a) :=
  (nested_raises plain a.operand).bind fun t => value.bind fun d =>
    (Raises.never (steady.report (.traced t d))).bind fun _ => .pure d

/-- An aggregation fails if a selector or a body is no term, if the selection fails, or if the body
does on the facts that are kept. -/
theorem aggregation_raises (steady : strategy.Steady Kept) {s : σ} (kept : Kept s)
    (selector : ∀ id, Raises Kept P (a.value (candidate subject.parameters id) all))
    (unfit : ∀ t, a.operand = .term t → ∀ id ∈ all, ∀ s d next cause,
      (a.value (candidate subject.parameters id) all).run s = (.ok d, next) → Kept next →
        d.truth = .error cause → P (cause.within t.text) next)
    (body : ∀ t facts next, a.operand = .term t →
      (select all a t subject.parameters all).run s = (.ok facts, next) → Kept next →
        ∀ subject, Raises Kept P (b.value subject facts)) :
    RaisesFrom Kept P (aggregation strategy subject all a b) s := by
  refine .bind (nested_raises plain a.operand s kept).error fun t next given => ?_
  rw [Memo.run_outcome] at given
  obtain ⟨nested, rfl⟩ := Prod.mk.inj given
  refine .bind (nested_raises plain b.operand s kept).error fun _ next given => ?_
  rw [Memo.run_outcome] at given
  obtain ⟨-, rfl⟩ := Prod.mk.inj given
  have isTerm := Operand.eq_term_of_nested nested
  have selected := select_raises t subject.parameters all selector (unfit t isTerm) s kept
  refine .bind selected.error fun facts next given => ?_
  have kept := selected.ok facts next given
  have inner := body t facts next isTerm given kept
  cases facts with
  | nil => exact ((Raises.never steady.vacant).bind fun front => inner _) next kept
  | cons id rest => exact ((Raises.pure _).bind fun front => inner _) next kept

/-- What an operator other than the aggregation raises is plain if its operands do not fail on the
subject and the facts at hand, but for an operator that is not defined. -/
theorem perform_raises (registry : scene.registry = .empty) (steady : strategy.Steady Kept)
    (t : Term) (address : Address) (single : t.op ≠ .agg)
    (values : ∀ a ∈ args, Raises Kept P (a.value subject all))
    (undefined : ∀ name next, t.op = .custom name → Kept next →
      P (.undefinedOperator name t.text) next) :
    Raises Kept P (perform scene strategy subject all t address args) := by
  have one : ∀ a, args = [a] → Raises Kept P (a.value subject all) := by
    rintro a rfl
    exact values a List.mem_cons_self
  have two : ∀ a b, args = [a, b] →
      Raises Kept P (a.value subject all) ∧ Raises Kept P (b.value subject all) := by
    rintro a b rfl
    exact ⟨values a List.mem_cons_self, values b (List.mem_cons_of_mem a List.mem_cons_self)⟩
  unfold perform
  cases op : t.op with
  | always => exact nullary_raises plain _ (.pure _)
  | never => exact nullary_raises plain _ (.pure _)
  | not =>
    exact unary_raises plain _ fun a only =>
      (truthOf_raises plain (one a only)).bind fun b => .pure _
  | and => exact (conjunction_raises plain values).bind fun b => .pure _
  | or => exact (disjunction_raises plain values).bind fun b => .pure _
  | when =>
    refine binary_raises plain _ fun a b both => ?_
    refine (truthOf_raises plain (two a b both).1).bind fun x => ?_
    split
    · exact (truthOf_raises plain (two a b both).2).bind fun y => .pure _
    · exact .pure _
  | present => exact unary_raises plain _ fun a _ => (property_raises plain).bind fun h => .pure _
  | absent => exact unary_raises plain _ fun a _ => (property_raises plain).bind fun h => .pure _
  | size => exact unary_raises plain _ fun a _ => (property_raises plain).bind fun h => .pure _
  | type => exact unary_raises plain _ fun a _ => (property_raises plain).bind fun h => .pure _
  | nth =>
    exact binary_raises plain _ fun a b both => nth_raises plain (two a b both).1 (two a b both).2
  | either =>
    exact binary_raises plain _ fun a b both => either_raises (two a b both).1 (two a b both).2
  | prev =>
    exact unary_raises plain _ fun a only =>
      (one a only).bind fun d => .never (steady.exchange address d)
  | eq =>
    exact binary_raises plain _ fun a b both => equality_raises (two a b both).1 (two a b both).2
  | lt =>
    exact binary_raises plain _ fun a b both =>
      comparison_raises plain .lt (two a b both).1 (two a b both).2
  | gt =>
    exact binary_raises plain _ fun a b both =>
      comparison_raises plain .gt (two a b both).1 (two a b both).2
  | fits =>
    exact binary_raises plain _ fun a b both => fits_raises plain (two a b both).1 (two a b both).2
  | min => exact unary_raises plain _ fun a _ => best_raises plain .lt
  | max => exact unary_raises plain _ fun a _ => best_raises plain .gt
  | count => exact nullary_raises plain _ (.pure _)
  | agg => exact absurd op single
  | traced => exact unary_raises plain _ fun a only => tracing_raises plain steady (one a only)
  | custom name =>
    unfold defined
    rw [registry]
    exact .throw fun next => undefined name next op

end

end Operation

end Annals
