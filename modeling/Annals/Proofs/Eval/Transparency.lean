import Annals.Proofs.Eval.Likeness
import Annals.Proofs.Eval.Simulation
import Annals.Session.Evaluations

/-!
# Kept results are those that would be computed anew

A pass keeps the result of an aggregate under its place, and every other result under its place
and the identity of the subject. Neither key tells over which facts the term was evaluated, and
the facts differ between places: the body of an aggregation sees only those that the selector
accepts. What makes the keys sufficient is that a place determines the facts and the parameters
that a term at it is ever evaluated with; `Scope` names them, and `placeAt` finds them.

`Pass.Faithful` is the invariant of a pass: every result in it is the one that its place and its
key stand for. `Term.recollections` shows that evaluations keep it, and
`Session.Bench.run_evaluations` is what comes of it for a whole sequence of subjects.
-/

set_option autoImplicit false

namespace Annals

/-- With what the terms at a place are evaluated, whatever the subject. -/
structure Scope where
  parameters : Option Backing
  all : List FactId

namespace Scope

variable (scene : Scene)

/-- The scope of the body of an aggregation at a place, unless the selector fails. -/
def narrow (scope : Scope) (address : Address) (selector : Term) : Option Scope :=
  let argument : Argument (Except Error) :=
    ⟨.term selector, Term.evaluateWith scene Term.direct selector (address.operand 0)⟩
  match Operation.select scope.all argument selector scope.parameters scope.all with
  | .ok kept => some ⟨some (scope.parameters.getD (.params .empty)), kept⟩
  | .error _ => none

/-- The scope of the operand at a position of the term at a place. -/
def ofOperand (scope : Scope) (address : Address) (t : Term) (position : Nat) : Option Scope :=
  match t, position with
  | .node .agg (.term selector :: _), 1 => scope.narrow scene address selector
  | _, _ => some scope

/-- The scope and the term at a place, where `path` leads from the term up to the root. -/
def placeAt (scope : Scope) (t : Term) : List Nat → Option (Scope × Term)
  | [] => none
  | [_] => some (scope, t)
  | position :: path =>
    match placeAt scope t path with
    | none => none
    | some (scope, t) =>
      match t.operands[position]?, scope.ofOperand scene ⟨path⟩ t position with
      | some (.term u), some scope => some (scope, u)
      | _, _ => none

end Scope

/-- A result is the one that the term at the place of a key has on every subject of the key. -/
def Key.Tells (scene : Scene) (scope : Scope) (t : Term) (key : Key) (d : Datum) : Prop :=
  match key with
  | .onSubject address identity => ∀ here u subject,
      scope.placeAt scene t address.path = some (here, u) →
      subject.parameters = here.parameters → subject.identity = identity →
      u.evaluateWith scene Term.direct address subject here.all = .ok d
  | .overAll address => ∀ here u subject,
      scope.placeAt scene t address.path = some (here, u) →
      subject.parameters = here.parameters →
      u.evaluateWith scene Term.direct address subject here.all = .ok d

/-- Every result that a pass keeps is the one that its key stands for. -/
def Pass.Faithful (scene : Scene) (scope : Scope) (t : Term) (pass : Pass) : Prop :=
  ∀ key d, pass.results.lookup key = some d → key.Tells scene scope t d

namespace Pass

variable {scene : Scene} {scope : Scope} {t : Term} {pass : Pass}

theorem lookup_keep_self (key : Key) (d : Datum) :
    (pass.keep key d).results.lookup key = some d := List.lookup_cons_self

theorem lookup_keep_other {key key' : Key} (other : key' ≠ key) (d : Datum) :
    (pass.keep key d).results.lookup key' = pass.results.lookup key' := by
  simp only [keep, List.lookup_cons, beq_false_of_ne other]

/-- Keeping one more result that its key stands for keeps a pass faithful. -/
theorem Faithful.keep (h : pass.Faithful scene scope t) {key : Key} {d : Datum}
    (tells : key.Tells scene scope t d) : (pass.keep key d).Faithful scene scope t := by
  intro key' d' kept
  by_cases same : key' = key
  · rw [same, lookup_keep_self, Option.some_inj] at kept
    rw [same, ← kept]
    exact tells
  · rw [lookup_keep_other same] at kept
    exact h key' d' kept

end Pass

namespace Simulation

/-- Evaluations that are the same. -/
def equality : Simulation (Except Error) (Except Error) where
  Matches a b := a = b
  Gives r x := r = .ok x
  Fronts i j := i = j
  pure_matches _ := rfl
  throw_matches _ := rfl
  bind_matches {α β a b f g} same rest := by
    subst same
    cases a with
    | error e => rfl
    | ok x => exact rest x rfl
  named_matches t same := congrArg _ same
  gives_outcome {α r x} h := by
    cases r with
    | error e => cases h
    | ok y => exact h

/-- Evaluations in a pass that keep an invariant and give what the evaluation without a pass
gives; views without a fact may have any numbers. -/
def inPass (Invariant : Pass → Prop) : Simulation Memo (Except Error) where
  Matches a r := ∀ pass, Invariant pass → (a.run pass).1 = r ∧ Invariant (a.run pass).2
  Gives r x := r = .ok x
  Fronts i j := i.fact? = none ∧ j.fact? = none
  pure_matches _ _ h := ⟨rfl, h⟩
  throw_matches _ _ h := ⟨rfl, h⟩
  bind_matches {α β a r f g} first rest pass h := by
    obtain ⟨result, kept⟩ := first pass h
    rw [Memo.run_bind]
    cases run : a.run pass with
    | mk x next =>
      rw [run] at result kept
      cases x with
      | error e => exact ⟨by rw [← result]; rfl, kept⟩
      | ok x =>
        rw [← result]
        exact rest x result.symm next kept
  named_matches {a r} t h pass invariant := by
    obtain ⟨result, kept⟩ := h pass invariant
    rw [Memo.run_named]
    cases run : a.run pass with
    | mk x next =>
      rw [run] at result kept
      rw [← result]
      cases x with
      | error e => exact ⟨rfl, kept⟩
      | ok x => exact ⟨rfl, kept⟩
  gives_outcome {α r x} h := by
    cases r with
    | error e => cases h
    | ok y => exact h

/-- A pass gives a kept result for one that is computed if they are the same, and it may keep what
is computed, where the invariant is about the results of a pass. -/
theorem inPass_answer {Invariant : Pass → Prop} (tracing : Bool) {t : Term} {a : Address}
    {s : Subject} {x : Memo Datum} {y : Except Error Datum}
    (results : ∀ {pass pass' : Pass}, Invariant pass → pass'.results = pass.results →
      Invariant pass')
    (recalls : ∀ pass d, Invariant pass → pass.results.lookup (Key.of t a s) = some d → y = .ok d)
    (keeps : ∀ pass d, Invariant pass → y = .ok d → Invariant (pass.keep (Key.of t a s) d))
    (computed : (inPass Invariant).Matches x y) :
    (inPass Invariant).Matches ((Memo.strategy tracing).answer t a s x) y := by
  intro pass invariant
  rw [Memo.run_answer]
  cases found : pass.results.lookup (Key.of t a s) with
  | some d => exact ⟨(recalls pass d invariant found).symm, results invariant rfl⟩
  | none =>
    obtain ⟨result, kept⟩ := computed pass.missed (results invariant rfl)
    cases run : x.run pass.missed with
    | mk r next =>
      rw [run] at result kept
      cases r with
      | error e => exact ⟨result, kept⟩
      | ok d =>
        refine ⟨result, keeps _ d ?_ result.symm⟩
        split
        · exact results kept rfl
        · exact kept

end Simulation

namespace Term

variable (scene : Scene)

theorem direct_strategies : Simulation.equality.StrategiesMatch direct direct :=
  ⟨fun _ => rfl, fun h => h _ _ rfl⟩

/-- Two evaluations without a memory on subjects that look the same. -/
def lookalikes : Simulation.equality.Congruence scene scene direct direct where
  Related _ _ _ s s' _ := s.Alike scene.contents s'
  strategies := direct_strategies
  registry := rfl
  facts _ _ _ := rfl
  symbols related _ name _ := related.lookup name
  operands related _ _ _ _ := related
  selector related id _ := related.candidate id
  body {t u a a' s s' all kept front front'} related _ leads := by
    have fronts : front = front' := Simulation.eq_of_leads _ (fun _ _ same => same) leads
    rw [fronts]
    exact .view related.handed rfl
  memory _ _ := rfl
  answer _ _ _ same := same

/-- Without a memory the place of a term does not matter, and subjects that look the same give
the same. -/
theorem evaluateWith_direct_congr (t : Term) (a a' : Address) {s s' : Subject} (all : List FactId)
    (alike : s.Alike scene.contents s') :
    t.evaluateWith scene direct a s all = t.evaluateWith scene direct a' s' all :=
  (lookalikes scene).evaluateWith_matches t alike

/-- Without a memory an aggregate sees nothing of the subject but its parameters. -/
theorem evaluateWith_direct_aggregate {t : Term} (aggregate : t.op.isAggregate = true)
    (a : Address) {s s' : Subject} (all : List FactId) (parameters : s.parameters = s'.parameters) :
    t.evaluateWith scene direct a s all = t.evaluateWith scene direct a s' all := by
  cases t with
  | node op operands =>
    cases op with
    | min => rfl
    | max => rfl
    | count => rfl
    | agg =>
      have same : Operation.aggregation direct s all = Operation.aggregation direct s' all := by
        unfold Operation.aggregation
        rw [parameters]
      simp only [evaluateWith, Operation.perform, Term.op, same]
      rfl
    | _ => cases aggregate

end Term

namespace Scope

variable {scene : Scene} {scope : Scope} {t : Term} {path : List Nat} {here : Scope}

/-- The place of an operand that is no body of an aggregation has the scope of the term. -/
theorem placeAt_operand {op : Operator} {operands : List (Operand Term)} {i : Nat} {u : Term}
    (placed : scope.placeAt scene t path = some (here, .node op operands))
    (found : operands[i]? = some (.term u)) (inScope : op ≠ .agg ∨ i = 0) :
    scope.placeAt scene t (i :: path) = some (here, u) := by
  have same : here.ofOperand scene ⟨path⟩ (.node op operands) i = some here := by
    unfold ofOperand
    split
    · next heq =>
      injection heq with op_eq
      rcases inScope with notAgg | zero
      · exact absurd op_eq notAgg
      · exact absurd zero (by decide)
    · rfl
  cases path with
  | nil => cases placed
  | cons j rest => simp only [placeAt, placed, Term.operands, found, same]

/-- The place of the body of an aggregation has the scope that the selector leaves. -/
theorem placeAt_body {selector body : Term} {kept : List FactId}
    (placed : scope.placeAt scene t path = some (here, .node .agg [.term selector, .term body]))
    (selected : Operation.select here.all
      ⟨.term selector, selector.evaluateWith scene Term.direct ⟨0 :: path⟩⟩ selector
      here.parameters here.all = .ok kept) :
    scope.placeAt scene t (1 :: path) =
      some (⟨some (here.parameters.getD (.params .empty)), kept⟩, body) := by
  cases path with
  | nil => cases placed
  | cons j rest =>
    have narrowed : here.narrow scene ⟨j :: rest⟩ selector =
        some ⟨some (here.parameters.getD (.params .empty)), kept⟩ := by
      simp only [narrow, Address.operand, selected]
    simp only [placeAt, placed, Term.operands, ofOperand, narrowed, List.getElem?_cons_succ,
      List.getElem?_cons_zero]

end Scope

namespace Term

variable (scene : Scene) (tracing : Bool) (scope : Scope) (t : Term)

/-- A kept result is what the evaluation without a memory gives. -/
theorem tells_of_evaluateWith {a : Address} {here : Scope} {u : Term} {s : Subject} {d : Datum}
    (placed : scope.placeAt scene t a.path = some (here, u))
    (parameters : s.parameters = here.parameters)
    (result : u.evaluateWith scene direct a s here.all = .ok d) :
    (Key.of u a s).Tells scene scope t d := by
  unfold Key.of
  split
  · next aggregate =>
    intro here' u' s' placed' parameters'
    obtain ⟨rfl, rfl⟩ : here = here' ∧ u = u' := by
      simpa [placed] using placed'
    rw [← result]
    exact evaluateWith_direct_aggregate scene aggregate a _ (parameters'.trans parameters.symm)
  · intro here' u' s' placed' parameters' identity
    obtain ⟨rfl, rfl⟩ : here = here' ∧ u = u' := by
      simpa [placed] using placed'
    rw [Subject.eq_of_parameters identity (parameters'.trans parameters.symm)]
    exact result

/-- What a kept result tells is what the evaluation without a memory gives. -/
theorem evaluateWith_of_tells {a : Address} {here : Scope} {u : Term} {s : Subject} {d : Datum}
    (placed : scope.placeAt scene t a.path = some (here, u))
    (parameters : s.parameters = here.parameters) (tells : (Key.of u a s).Tells scene scope t d) :
    u.evaluateWith scene direct a s here.all = .ok d := by
  unfold Key.of at tells
  split at tells
  · exact tells here u s placed parameters
  · exact tells here u s placed parameters rfl

/-- Evaluations in a faithful pass and without a memory, at the same place in the same scope. -/
def recollections : (Simulation.inPass (Pass.Faithful scene scope t)).Congruence scene scene
    (Memo.strategy tracing) direct where
  Related u a a' s s' all := a = a' ∧ u.remembers = false ∧
    scope.placeAt scene t a.path = some (⟨s.parameters, all⟩, u) ∧
    s.parameters = s'.parameters ∧
    ∀ name, s.lookup scene.contents name = s'.lookup scene.contents name
  strategies := by
    refine ⟨fun e pass h => ⟨rfl, h⟩, fun {f g} h pass faithful => ?_⟩
    rw [Memo.run_bind, Memo.run_vacant]
    exact h (.vacant pass.nextVacant) (.vacant 0) ⟨rfl, rfl⟩ pass.tookVacant faithful
  registry := rfl
  facts _ _ _ := rfl
  symbols related _ name _ := related.2.2.2.2 name
  operands {op operands a a' s s' all} related notAgg i u found := by
    obtain ⟨rfl, memoryless, placed, alike⟩ := related
    refine ⟨rfl, ?_, Scope.placeAt_operand placed found (.inl notAgg), alike⟩
    exact remembers_of_operand memoryless (List.mem_of_getElem? found)
  selector {u rest a a' s s' all} related id mem := by
    obtain ⟨rfl, memoryless, placed, parameters, _⟩ := related
    refine ⟨rfl, remembers_of_operand memoryless List.mem_cons_self, ?_, ?_, ?_⟩
    · have handed := Scope.placeAt_operand (i := 0) placed rfl (.inr rfl)
      cases h : s.parameters with
      | none => rw [h] at handed; exact handed
      | some backing => rw [h] at handed; exact handed
    · rw [parameters]
    · rw [parameters]
      exact fun _ => rfl
  body {u v a a' s s' all kept front front'} related gives leads := by
    obtain ⟨rfl, memoryless, placed, parameters, _⟩ := related
    refine ⟨rfl, ?_, ?_, ?_, ?_⟩
    · exact remembers_of_operand memoryless (List.mem_cons_of_mem _ List.mem_cons_self)
    · exact Scope.placeAt_body placed (by rw [parameters]; exact gives)
    · rw [parameters]
      rfl
    · intro name
      rw [parameters]
      have fronts : front.fact? = front'.fact? := by
        cases kept with
        | nil => exact leads.1.trans leads.2.symm
        | cons id rest => rw [leads.1, leads.2]
      simp only [Subject.lookup, View.lookup, fronts]
  memory related := by
    have memoryless := related.2.1
    simp [remembers, anyOperator] at memoryless
  answer {u a a' s s' all x y} related _ computed h := by
    obtain ⟨rfl, memoryless, placed, alike⟩ := related
    have given : y = u.evaluateWith scene direct a s all := by
      rw [computed, evaluateWith_direct_congr scene u a a all ⟨.inl alike.1, alike.2⟩]
      cases u
      rfl
    refine Simulation.inPass_answer tracing (fun faithful same => ?_)
      (fun pass d faithful found => ?_) (fun pass d faithful result => ?_) h
    · unfold Pass.Faithful
      rw [same]
      exact faithful
    · rw [given]
      exact evaluateWith_of_tells scene scope t placed rfl (faithful _ d found)
    · exact faithful.keep (tells_of_evaluateWith scene scope t placed rfl (given.symm.trans result))

/-- A term gives in a faithful pass what it gives without a memory, and leaves a faithful pass. -/
theorem evaluate_faithful {pass : Pass} (memoryless : t.remembers = false) (root : Nat)
    {s : Subject} (shared : s.parameters = scope.parameters)
    (faithful : pass.Faithful scene scope t) :
    ((t.evaluate scene tracing root s scope.all).run pass).1 = t.meaning scene s scope.all ∧
      ((t.evaluate scene tracing root s scope.all).run pass).2.Faithful scene scope t := by
  have placed : scope.placeAt scene t (Address.root root).path =
      some (⟨s.parameters, scope.all⟩, t) := by
    rw [shared]
    rfl
  have recalled := (recollections scene tracing scope t).evaluateWith_matches t
    ⟨rfl, memoryless, placed, rfl, fun _ => rfl⟩ pass faithful
  have anew : t.meaning scene s scope.all =
      t.evaluateWith scene direct (.root root) s scope.all :=
    evaluateWith_direct_congr scene t _ _ scope.all (.refl _ _)
  rw [anew]
  exact recalled

variable {t}

/-- A term without a memory gives in a pass of its own what it gives without a memory. -/
theorem evaluate_start (memoryless : t.remembers = false) (root vacant : Nat) (s : Subject)
    (all : List FactId) :
    ((t.evaluate scene tracing root s all).run (.start vacant)).1 = t.meaning scene s all := by
  have knowsNothing : (Pass.start vacant).Faithful scene ⟨s.parameters, all⟩ t := by
    intro key d kept
    cases kept
  exact (evaluate_faithful scene tracing ⟨s.parameters, all⟩ t memoryless root rfl knowsNothing).1

/-! ### Subjects that a pass knows nothing of -/

variable (t)

/-- What a pass has learnt about one subject is what its keys stand for, and about the others it
knows what another pass knows, true or not. -/
structure Learnt (identity : Identity) (before pass : Pass) : Prop where
  tells : ∀ address d, pass.results.lookup (.onSubject address identity) = some d →
    (Key.onSubject address identity).Tells scene scope t d
  others : ∀ address other, other ≠ identity →
    pass.results.lookup (.onSubject address other) =
      before.results.lookup (.onSubject address other)

variable {scene scope t} in
theorem Learnt.keep {identity : Identity} {before pass : Pass}
    (h : Learnt scene scope t identity before pass) {address : Address} {d : Datum}
    (tells : (Key.onSubject address identity).Tells scene scope t d) :
    Learnt scene scope t identity before (pass.keep (.onSubject address identity) d) := by
  constructor
  · intro address' d' kept
    by_cases same : address' = address
    · rw [same, Pass.lookup_keep_self, Option.some_inj] at kept
      rw [same, ← kept]
      exact tells
    · rw [Pass.lookup_keep_other fun key => same (Key.onSubject.inj key).1] at kept
      exact h.tells address' d' kept
  · intro address' other apart
    rw [Pass.lookup_keep_other fun key => apart (Key.onSubject.inj key).2]
    exact h.others address' other apart

/-- Evaluations of a term without aggregates on one subject, in a pass that may hold anything about
other subjects, and without a memory. -/
def lessons (identity : Identity) (before : Pass) :
    (Simulation.inPass (Learnt scene scope t identity before)).Congruence scene scene
      (Memo.strategy tracing) direct where
  Related u a a' s s' all := a = a' ∧ s = s' ∧ s.identity = identity ∧ u.remembers = false ∧
    u.anyOperator Operator.isAggregate = false ∧
    scope.placeAt scene t a.path = some (⟨s.parameters, all⟩, u)
  strategies := by
    refine ⟨fun e pass learnt => ⟨rfl, learnt.1, learnt.2⟩, fun {f g} h pass learnt => ?_⟩
    rw [Memo.run_bind, Memo.run_vacant]
    exact h (.vacant pass.nextVacant) (.vacant 0) ⟨rfl, rfl⟩ pass.tookVacant ⟨learnt.1, learnt.2⟩
  registry := rfl
  facts _ _ _ := rfl
  symbols related _ name _ := by rw [related.2.1]
  operands {op operands a a' s s' all} related notAgg i u found := by
    obtain ⟨rfl, rfl, here, memoryless, alone, placed⟩ := related
    have mem := List.mem_of_getElem? found
    rw [anyOperator, Bool.or_eq_false_iff] at alone
    exact ⟨rfl, rfl, here, remembers_of_operand memoryless mem, anyOperator_of_mem alone.2 mem,
      Scope.placeAt_operand placed found (.inl notAgg)⟩
  selector related _ _ := by
    have alone := related.2.2.2.2.1
    simp [anyOperator, Operator.isAggregate] at alone
  body related _ _ := by
    have alone := related.2.2.2.2.1
    simp [anyOperator, Operator.isAggregate] at alone
  memory related := by
    have memoryless := related.2.2.2.1
    simp [remembers, anyOperator] at memoryless
  answer {u a a' s s' all x y} related _ computed h := by
    obtain ⟨rfl, rfl, rfl, memoryless, alone, placed⟩ := related
    have given : y = u.evaluateWith scene direct a s all := by
      rw [computed]
      cases u
      rfl
    have key : Key.of u a s = .onSubject a s.identity := by
      cases u
      rw [anyOperator, Bool.or_eq_false_iff] at alone
      unfold Key.of
      rw [op, alone.1]
      rfl
    refine Simulation.inPass_answer tracing (fun learnt same => ?_) (fun pass d learnt found => ?_)
      (fun pass d learnt result => ?_) h
    · refine ⟨?_, ?_⟩
      · rw [same]
        exact learnt.tells
      · rw [same]
        exact learnt.others
    · rw [given]
      refine evaluateWith_of_tells scene scope t placed rfl ?_
      rw [key] at found ⊢
      exact learnt.tells a d found
    · have tells := tells_of_evaluateWith scene scope t placed rfl (given.symm.trans result)
      rw [key] at tells ⊢
      exact learnt.keep tells

/-- On a subject that a pass knows nothing of, a term without a memory and without aggregates gives
what it gives without a memory, whatever the pass knows of other subjects; and nothing about those
changes. -/
theorem evaluate_unseen (memoryless : t.remembers = false)
    (alone : t.anyOperator Operator.isAggregate = false) (root : Nat) (s : Subject)
    (all : List FactId) (pass : Pass)
    (unseen : ∀ address, pass.results.lookup (.onSubject address s.identity) = none) :
    ((t.evaluate scene tracing root s all).run pass).1 = t.meaning scene s all ∧
      ∀ address other, other ≠ s.identity →
        ((t.evaluate scene tracing root s all).run pass).2.results.lookup
            (.onSubject address other) =
          pass.results.lookup (.onSubject address other) := by
  have begun : Learnt scene ⟨s.parameters, all⟩ t s.identity pass pass := by
    refine ⟨fun address d kept => ?_, fun _ _ _ => rfl⟩
    rw [unseen] at kept
    cases kept
  have related : (lessons scene tracing ⟨s.parameters, all⟩ t s.identity pass).Related t
      (.root root) (.root root) s s all := ⟨rfl, rfl, rfl, memoryless, alone, rfl⟩
  obtain ⟨result, learnt⟩ := Simulation.Congruence.evaluateWith_matches _ t related pass begun
  refine ⟨?_, learnt.others⟩
  rw [meaning, evaluateWith_direct_congr scene t (.root 0) (.root root) all (.refl _ _)]
  exact result

end Term

namespace Session.Bench

variable {t : Term} {parameters : Option Backing} {all : List FactId}

/-- One evaluation gives what the evaluation without a memory gives, and it leaves a faithful pass
and the facts as they are. -/
theorem step_evaluate (b : Bench) (memoryless : t.remembers = false) (root : Nat) {s : Subject}
    (shared : s.parameters = parameters)
    (faithful : b.pass.Faithful b.scene ⟨parameters, all⟩ t) :
    (b.step (.evaluate ⟨root, t, s, all⟩)).1 = (t.meaning b.scene s all).map .result ∧
      (b.step (.evaluate ⟨root, t, s, all⟩)).2.scene = b.scene ∧
      (b.step (.evaluate ⟨root, t, s, all⟩)).2.pass.Faithful b.scene ⟨parameters, all⟩ t := by
  obtain ⟨result, kept⟩ := Term.evaluate_faithful b.scene b.tracing ⟨parameters, all⟩ t memoryless
    root shared faithful
  refine ⟨?_, rfl, kept⟩
  rw [← result]
  rfl

/-- Evaluating a term without a memory of its own on one subject after the other in one pass gives
every time what computing everything anew gives, results and failures alike, as long as the
subjects have their parameters from the same backing, or have none. -/
theorem run_evaluations (b : Bench) (fresh : b.pass.results = []) (t : Term)
    (memoryless : t.remembers = false) (root : Nat) (parameters : Option Backing)
    (all : List FactId) (subjects : List Subject)
    (shared : ∀ s ∈ subjects, s.parameters = parameters) :
    (b.run (subjects.map fun s => .evaluate ⟨root, t, s, all⟩)).map Prod.fst =
      subjects.map fun s => (t.meaning b.scene s all).map .result := by
  have faithful : b.pass.Faithful b.scene ⟨parameters, all⟩ t := by
    intro key d kept
    rw [fresh] at kept
    cases kept
  clear fresh
  induction subjects generalizing b with
  | nil => rfl
  | cons s rest ih =>
    obtain ⟨answer, scene, kept⟩ :=
      b.step_evaluate memoryless root (shared s List.mem_cons_self) faithful
    have later := ih (b.step (.evaluate ⟨root, t, s, all⟩)).2
      (fun s mem => shared s (List.mem_cons_of_mem _ mem)) (by rw [scene]; exact kept)
    rw [scene] at later
    simp only [List.map_cons, run, answer, later]

/-- A bench with two facts, whose `x` is one and two. -/
def pair : Bench where
  registry := .empty
  register := ⟨#[⟨⟨[("x", [.int 1])]⟩, []⟩, ⟨⟨[("x", [.int 2])]⟩, []⟩]⟩
  tracing := false
  vacant := 0
  pass := .start 0
  events := []

/-- The term `(eq x (agg (exists x) (max x)))`. -/
def greatest : Term :=
  .node .eq [.symbol "x", .term (.node .agg [.term (.node .present [.symbol "x"]),
    .term (.node .max [.symbol "x"])])]

/-- Only the second of two facts has the greatest `x`, also when the first is asked again. -/
theorem run_evaluations_pair : pair.pass.results = [] ∧ greatest.remembers = false ∧
    (∀ s ∈ [Subject.fact ⟨0⟩, .fact ⟨1⟩, .fact ⟨0⟩], s.parameters = none) ∧
    (pair.run ([Subject.fact ⟨0⟩, .fact ⟨1⟩, .fact ⟨0⟩].map fun s =>
      .evaluate ⟨0, greatest, s, [⟨0⟩, ⟨1⟩]⟩)).map Prod.fst =
      [.ok (.result (.bool false)), .ok (.result (.bool true)), .ok (.result (.bool false))] := by
  refine ⟨rfl, rfl, by decide, ?_⟩
  rw [run_evaluations pair rfl greatest rfl 0 none [⟨0⟩, ⟨1⟩] _ (by decide)]
  decide

end Session.Bench

end Annals
