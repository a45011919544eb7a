import Annals.Eval.Pass
import Mathlib.Data.List.Forall2

/-!
# Evaluations that go along with each other

The evaluation of a term is written once for every monad. This file says what it takes for an
evaluation in one monad to do what the evaluation in another one does: a `Simulation` relates
computations of the two monads and is closed under the steps that every evaluation is made of.

It is a ladder. The lemmas about single operators lead to `Simulation.perform_matches`, which is
about every operator but the aggregation, and `Simulation.aggregation_matches` is about that one.
The two are put together in `Simulation.perform_matches_of_values`, for operands that do the same
on all subjects. The top is `Simulation.Congruence.evaluateWith_matches`: a relation between the
circumstances of two evaluations that every operator hands on to its operands makes the evaluations
match.
-/

set_option autoImplicit false

namespace Annals

/-- A way to relate the computations of two monads in which terms can be evaluated. -/
structure Simulation (m n : Type → Type) [Monad m] [MonadExceptOf Error m] [Monad n]
    [MonadExceptOf Error n] where
  /-- The computation on the left does what the one on the right does. -/
  Matches : {α : Type} → m α → n α → Prop
  /-- The computation on the right can end with a result. -/
  Gives : {α : Type} → n α → α → Prop
  /-- Identities that may stand for each other in front of a view without a fact. -/
  Fronts : Identity → Identity → Prop
  pure_matches : ∀ {α : Type} (x : α), Matches (pure x : m α) (pure x : n α)
  throw_matches : ∀ {α : Type} (e : Error), Matches (throw e : m α) (throw e : n α)
  /-- Computations match if their first parts do and the rest does after every possible result. -/
  bind_matches : ∀ {α β : Type} {a : m α} {b : n α} {f : α → m β} {g : α → n β},
    Matches a b → (∀ x, Gives b x → Matches (f x) (g x)) → Matches (a >>= f) (b >>= g)
  named_matches : ∀ {a : m Datum} {b : n Datum} (t : Term),
    Matches a b → Matches (Term.named t a) (Term.named t b)
  /-- What is computed outside of the monad gives its own result only. -/
  gives_outcome : ∀ {α : Type} {r : Except Error α} {x : α},
    Gives (Operation.outcome r : n α) x → r = .ok x

/-- An operand that has to be a term is that term. -/
theorem Operand.eq_term_of_nested {operand : Operand Term} {t : Term}
    (h : operand.nested = .ok t) : operand = .term t := by
  cases operand with
  | term s => exact congrArg _ (Except.ok.inj h)
  | literal v => cases h
  | symbol s => cases h

/-- A result that an outcome can end with is its own. -/
theorem Memo.eq_ok_of_outcome {σ α : Type} {r : Except Error α} {x : α}
    (given : ∃ s, ((Operation.outcome r : ExceptT Error (StateM σ) α).run s).1 = .ok x) :
    r = .ok x := by
  obtain ⟨s, ended⟩ := given
  rw [run_outcome] at ended
  exact ended

/-- Computations with two states that give the same and keep a relation between the states. -/
def Simulation.between {σ τ : Type} (Kept : σ → τ → Prop) (Fronts : Identity → Identity → Prop) :
    Simulation (ExceptT Error (StateM σ)) (ExceptT Error (StateM τ)) where
  Matches a b := ∀ s t, Kept s t → (a.run s).1 = (b.run t).1 ∧ Kept (a.run s).2 (b.run t).2
  Gives b x := ∃ t, (b.run t).1 = .ok x
  Fronts := Fronts
  pure_matches _ _ _ kept := ⟨rfl, kept⟩
  throw_matches _ _ _ kept := ⟨rfl, kept⟩
  bind_matches := by
    intro α β a b f g first rest s t kept
    obtain ⟨result, later⟩ := first s t kept
    rw [Memo.run_bind, Memo.run_bind]
    cases run : a.run s with
    | mk x next =>
      cases run' : b.run t with
      | mk x' next' =>
        rw [run, run'] at result later
        cases result
        cases x with
        | error e => exact ⟨rfl, later⟩
        | ok x => exact rest x ⟨t, congrArg Prod.fst run'⟩ next next' later
  named_matches := by
    intro a b t same s s' kept
    obtain ⟨result, later⟩ := same s s' kept
    rw [Memo.run_named, Memo.run_named]
    cases run : a.run s with
    | mk x next =>
      cases run' : b.run s' with
      | mk x' next' =>
        rw [run, run'] at result later
        cases result
        cases x with
        | error e => exact ⟨rfl, later⟩
        | ok d => exact ⟨rfl, later⟩
  gives_outcome := Memo.eq_ok_of_outcome

namespace Simulation

open Operation

variable {m n : Type → Type} [Monad m] [MonadExceptOf Error m] [Monad n] [MonadExceptOf Error n]
variable (sim : Simulation m n)

/-- Two arguments for one operand that go along with each other on two subjects. -/
structure ArgumentsMatch (left right : Scene) (subject subject' : Subject) (all : List FactId)
    (a : Argument m) (b : Argument n) : Prop where
  operand : a.operand = b.operand
  /-- Its evaluation on the one subject does what that on the other one does. -/
  value : sim.Matches (a.value subject all) (b.value subject' all)
  /-- If it is a symbol, it is the same on both subjects. -/
  lookup : ∀ name, a.operand = .symbol name →
    subject.lookup left.contents name = subject'.lookup right.contents name

/-- Two strategies that report the same, and whose views without a fact may stand for each other. -/
structure StrategiesMatch (strategy : Strategy m) (strategy' : Strategy n) : Prop where
  report : ∀ e, sim.Matches (strategy.report e) (strategy'.report e)
  /-- What is done with an identity of a view without a fact matches. -/
  vacant : ∀ {f : Identity → m Datum} {g : Identity → n Datum},
    (∀ i j, sim.Fronts i j → sim.Matches (f i) (g j)) →
      sim.Matches (strategy.vacant >>= f) (strategy'.vacant >>= g)

/-- Two identities that may stand in front of the body of an aggregation over selected facts. -/
def Leads (kept : List FactId) (front front' : Identity) : Prop :=
  match kept with
  | [] => sim.Fronts front front'
  | id :: _ => front = .fact id ∧ front' = .fact id

variable {left right : Scene} {subject subject' : Subject} {all : List FactId}

/-- In front of a body stands the same if views without a fact have the same identities. -/
theorem eq_of_leads {kept : List FactId} {front front' : Identity}
    (fronts : ∀ i j, sim.Fronts i j → i = j) (leads : sim.Leads kept front front') :
    front = front' := by
  cases kept with
  | nil => exact fronts front front' leads
  | cons id rest => exact leads.1.trans leads.2.symm

/-- What is computed outside of the monads is the same in both. -/
theorem outcome_matches {α : Type} (r : Except Error α) :
    sim.Matches (outcome r : m α) (outcome r : n α) := by
  cases r with
  | ok x => exact sim.pure_matches x
  | error e => exact sim.throw_matches e

/-- Operators without operands match if what they do does. -/
theorem nullary_matches {args : List (Argument m)} {args' : List (Argument n)}
    (op : Operator) (length : args.length = args'.length) {a : m Datum} {b : n Datum}
    (h : sim.Matches a b) : sim.Matches (nullary op args a) (nullary op args' b) := by
  cases args with
  | nil =>
    rw [List.length_nil, eq_comm, List.length_eq_zero_iff] at length
    subst length
    exact h
  | cons x rest =>
    cases args' with
    | nil => simp at length
    | cons y rest' =>
      simp only [nullary, length]
      exact sim.throw_matches _

/-- Operators with one operand match if what they do with it does. -/
theorem unary_matches {R : Argument m → Argument n → Prop} {args : List (Argument m)}
    {args' : List (Argument n)} (op : Operator) (related : List.Forall₂ R args args')
    {f : Argument m → m Datum} {g : Argument n → n Datum}
    (h : ∀ a b, R a b → sim.Matches (f a) (g b)) :
    sim.Matches (unary op args f) (unary op args' g) := by
  have length := related.length_eq
  cases related with
  | nil => exact sim.throw_matches _
  | cons ab rest =>
    cases rest with
    | nil => exact h _ _ ab
    | cons _ _ =>
      simp only [unary, length]
      exact sim.throw_matches _

/-- Operators with two operands match if what they do with them does. -/
theorem binary_matches {R : Argument m → Argument n → Prop} {args : List (Argument m)}
    {args' : List (Argument n)} (op : Operator) (related : List.Forall₂ R args args')
    {f : Argument m → Argument m → m Datum} {g : Argument n → Argument n → n Datum}
    (h : ∀ a b a' b', R a b → R a' b' → sim.Matches (f a a') (g b b')) :
    sim.Matches (binary op args f) (binary op args' g) := by
  have length := related.length_eq
  cases related with
  | nil => exact sim.throw_matches _
  | cons ab rest =>
    cases rest with
    | nil => exact sim.throw_matches _
    | cons ab' rest =>
      cases rest with
      | nil => exact h _ _ _ _ ab ab'
      | cons _ _ =>
        simp only [binary, length]
        exact sim.throw_matches _

section operands

variable {a a' : Argument m} {b b' : Argument n}

theorem truthOf_matches (ab : sim.ArgumentsMatch left right subject subject' all a b) :
    sim.Matches (truthOf subject all a) (truthOf subject' all b) :=
  sim.bind_matches ab.value fun _ _ => sim.outcome_matches _

/-- The properties that an operand names match if the symbol is the same on both subjects. -/
theorem property_matches (ab : sim.ArgumentsMatch left right subject subject' all a b) :
    sim.Matches (property left subject a) (property right subject' b) := by
  unfold property
  rw [← ab.operand]
  refine sim.bind_matches (sim.outcome_matches _) fun name given => ?_
  have symbol : a.operand = .symbol name := by
    have named := sim.gives_outcome given
    revert named
    cases a.operand with
    | symbol s => intro named; exact congrArg _ (Except.ok.inj named)
    | literal v => intro named; cases named
    | term t => intro named; cases named
  rw [ab.lookup name symbol]
  exact sim.pure_matches _

/-- The values at an index match. -/
theorem nth_matches (ab : sim.ArgumentsMatch left right subject subject' all a b)
    (ab' : sim.ArgumentsMatch left right subject subject' all a' b') :
    sim.Matches (nth subject all a a') (nth subject' all b b') := by
  refine sim.bind_matches ab.value fun i _ => ?_
  split
  · exact sim.bind_matches ab'.value fun _ _ => sim.pure_matches _
  · exact sim.throw_matches _

/-- The first operand or the second match. -/
theorem either_matches (ab : sim.ArgumentsMatch left right subject subject' all a b)
    (ab' : sim.ArgumentsMatch left right subject subject' all a' b') :
    sim.Matches (either subject all a a') (either subject' all b b') := by
  refine sim.bind_matches ab.value fun d _ => ?_
  split
  · exact ab'.value
  · exact sim.pure_matches _

/-- Whether two operands are equal matches. -/
theorem equality_matches (ab : sim.ArgumentsMatch left right subject subject' all a b)
    (ab' : sim.ArgumentsMatch left right subject subject' all a' b') :
    sim.Matches (equality subject all a a') (equality subject' all b b') := by
  refine sim.bind_matches ab.value fun l _ => ?_
  split
  · exact sim.pure_matches _
  · exact sim.bind_matches ab'.value fun _ _ => sim.pure_matches _

/-- Whether two operands compare as wanted matches. -/
theorem comparison_matches (wanted : Ordering)
    (ab : sim.ArgumentsMatch left right subject subject' all a b)
    (ab' : sim.ArgumentsMatch left right subject subject' all a' b') :
    sim.Matches (comparison subject all wanted a a') (comparison subject' all wanted b b') := by
  refine sim.bind_matches ab.value fun l _ => ?_
  refine sim.bind_matches (sim.outcome_matches _) fun lefts _ => ?_
  split
  · refine sim.bind_matches ab'.value fun r _ => ?_
    refine sim.bind_matches (sim.outcome_matches _) fun rights _ => ?_
    split
    · exact sim.pure_matches _
    · exact sim.pure_matches _
  · exact sim.pure_matches _

/-- Whether a text fits a pattern matches. -/
theorem fits_matches (ab : sim.ArgumentsMatch left right subject subject' all a b)
    (ab' : sim.ArgumentsMatch left right subject subject' all a' b') :
    sim.Matches (fits subject all a a') (fits subject' all b b') := by
  refine sim.bind_matches ab.value fun t _ => ?_
  split
  · exact sim.pure_matches _
  split
  · refine sim.bind_matches ab'.value fun p _ => ?_
    dsimp only
    split
    on_goal 1 => refine sim.bind_matches (sim.throw_matches _) fun _ _ => ?_
    all_goals
      split
      · split
        · exact sim.pure_matches _
        · exact sim.throw_matches _
      · exact sim.throw_matches _
  · exact sim.throw_matches _

/-- The extrema of a property match if the facts hold the same. -/
theorem best_matches (wanted : Ordering) (operand : a.operand = b.operand)
    (same : ∀ id ∈ all, left.contents id = right.contents id) :
    sim.Matches (best left all wanted a) (best right all wanted b) := by
  unfold best
  rw [← operand]
  refine sim.bind_matches (sim.outcome_matches _) fun name _ => ?_
  have histories : historyOver left.contents name all = historyOver right.contents name all := by
    unfold historyOver
    exact List.flatMap_congr fun id mem => by rw [same id mem]
  rw [histories]
  exact sim.pure_matches _

end operands

/-- Conjunctions match if their operands do. -/
theorem conjunction_matches {args : List (Argument m)} {args' : List (Argument n)}
    (h : List.Forall₂ (sim.ArgumentsMatch left right subject subject' all) args args') :
    sim.Matches (conjunction subject all args) (conjunction subject' all args') := by
  induction h with
  | nil => exact sim.pure_matches _
  | cons ab rest ih =>
    refine sim.bind_matches (sim.truthOf_matches ab) fun x _ => ?_
    split
    · exact ih
    · exact sim.pure_matches _

/-- Disjunctions match if their operands do. -/
theorem disjunction_matches {args : List (Argument m)} {args' : List (Argument n)}
    (h : List.Forall₂ (sim.ArgumentsMatch left right subject subject' all) args args') :
    sim.Matches (disjunction subject all args) (disjunction subject' all args') := by
  induction h with
  | nil => exact sim.pure_matches _
  | cons ab rest ih =>
    refine sim.bind_matches (sim.truthOf_matches ab) fun x _ => ?_
    split
    · exact sim.pure_matches _
    · exact ih

/-- Results of all operands match if those of every operand do. -/
theorem mapM_value_matches {args : List (Argument m)} {args' : List (Argument n)}
    [LawfulMonad m] [LawfulMonad n]
    (h : List.Forall₂ (sim.ArgumentsMatch left right subject subject' all) args args') :
    sim.Matches (args.mapM fun a => a.value subject all)
      (args'.mapM fun b => b.value subject' all) := by
  induction h with
  | nil => exact sim.pure_matches _
  | cons ab rest ih =>
    simp only [List.mapM_cons]
    refine sim.bind_matches ab.value fun d _ => ?_
    exact sim.bind_matches ih fun _ _ => sim.pure_matches _

section aggregation

variable {a a' : Argument m} {b b' : Argument n}

/-- The facts that a selector accepts match if its results on all of them do. -/
theorem select_matches (t : Term) (parameters parameters' : Option Backing)
    (facts : List FactId)
    (h : ∀ id ∈ facts, sim.Matches (a.value (candidate parameters id) all)
      (b.value (candidate parameters' id) all)) :
    sim.Matches (select all a t parameters facts) (select all b t parameters' facts) := by
  induction facts with
  | nil => exact sim.pure_matches _
  | cons id rest ih =>
    refine sim.bind_matches (h id List.mem_cons_self) fun d _ => ?_
    refine sim.bind_matches (sim.outcome_matches _) fun keep _ => ?_
    have more := ih fun id mem => h id (List.mem_cons_of_mem _ mem)
    exact sim.bind_matches more fun _ _ => sim.pure_matches _

/-- Aggregations match if the selector does on every fact, and the body does on whatever the
selector accepts. -/
theorem aggregation_matches {strategy : Strategy m} {strategy' : Strategy n}
    (strategies : sim.StrategiesMatch strategy strategy')
    (operand : a.operand = b.operand) (operand' : a'.operand = b'.operand)
    (selector : ∀ t, a.operand = .term t → ∀ id ∈ all,
      sim.Matches (a.value (candidate subject.parameters id) all)
        (b.value (candidate subject'.parameters id) all))
    (body : ∀ t u kept front front', a.operand = .term t → a'.operand = .term u →
      sim.Gives (select all b t subject'.parameters all) kept → sim.Leads kept front front' →
      sim.Matches (a'.value (.view ⟨front, subject.parameters.getD (.params .empty)⟩) kept)
        (b'.value (.view ⟨front', subject'.parameters.getD (.params .empty)⟩) kept)) :
    sim.Matches (aggregation strategy subject all a a')
      (aggregation strategy' subject' all b b') := by
  unfold aggregation
  rw [← operand, ← operand']
  refine sim.bind_matches (sim.outcome_matches _) fun t given => ?_
  have nested := Operand.eq_term_of_nested (sim.gives_outcome given)
  refine sim.bind_matches (sim.outcome_matches _) fun u given' => ?_
  have nested' := Operand.eq_term_of_nested (sim.gives_outcome given')
  refine sim.bind_matches (sim.select_matches t _ _ all (selector t nested)) fun kept gives => ?_
  cases kept with
  | nil =>
    exact strategies.vacant fun i j fronts => body t u [] i j nested nested' gives fronts
  | cons id rest =>
    refine sim.bind_matches (sim.pure_matches _) fun front found => ?_
    have front_eq : front = .fact id := (Except.ok.inj (sim.gives_outcome found)).symm
    exact body t u (id :: rest) front front nested nested' gives ⟨front_eq, front_eq⟩

end aggregation

/-- Every operator but the aggregation does the same with operands that do, where an operator
that remembers is left to the strategies. -/
theorem perform_matches [LawfulMonad m] [LawfulMonad n] {strategy : Strategy m}
    {strategy' : Strategy n} (strategies : sim.StrategiesMatch strategy strategy')
    (registry : left.registry = right.registry)
    (same : ∀ id ∈ all, left.contents id = right.contents id)
    (t : Term) {address address' : Address} {args : List (Argument m)} {args' : List (Argument n)}
    (h : List.Forall₂ (sim.ArgumentsMatch left right subject subject' all) args args')
    (notAgg : t.op ≠ .agg)
    (memory : t.op = .prev → ∀ d,
      sim.Matches (strategy.exchange address d) (strategy'.exchange address' d)) :
    sim.Matches (perform left strategy subject all t address args)
      (perform right strategy' subject' all t address' args') := by
  have length := h.length_eq
  unfold perform
  cases op : t.op with
  | always => exact sim.nullary_matches _ length (sim.pure_matches _)
  | never => exact sim.nullary_matches _ length (sim.pure_matches _)
  | not =>
    exact sim.unary_matches _ h fun a b ab =>
      sim.bind_matches (sim.truthOf_matches ab) fun _ _ => sim.pure_matches _
  | and => exact sim.bind_matches (sim.conjunction_matches h) fun _ _ => sim.pure_matches _
  | or => exact sim.bind_matches (sim.disjunction_matches h) fun _ _ => sim.pure_matches _
  | when =>
    refine sim.binary_matches _ h fun a b a' b' ab ab' => ?_
    refine sim.bind_matches (sim.truthOf_matches ab) fun x _ => ?_
    split
    · exact sim.bind_matches (sim.truthOf_matches ab') fun _ _ => sim.pure_matches _
    · exact sim.pure_matches _
  | present =>
    exact sim.unary_matches _ h fun a b ab =>
      sim.bind_matches (sim.property_matches ab) fun _ _ => sim.pure_matches _
  | absent =>
    exact sim.unary_matches _ h fun a b ab =>
      sim.bind_matches (sim.property_matches ab) fun _ _ => sim.pure_matches _
  | size =>
    exact sim.unary_matches _ h fun a b ab =>
      sim.bind_matches (sim.property_matches ab) fun _ _ => sim.pure_matches _
  | type =>
    exact sim.unary_matches _ h fun a b ab =>
      sim.bind_matches (sim.property_matches ab) fun _ _ => sim.pure_matches _
  | nth => exact sim.binary_matches _ h fun a b a' b' => sim.nth_matches
  | either => exact sim.binary_matches _ h fun a b a' b' => sim.either_matches
  | prev =>
    exact sim.unary_matches _ h fun a b ab => sim.bind_matches ab.value fun d _ => memory op d
  | eq => exact sim.binary_matches _ h fun a b a' b' => sim.equality_matches
  | lt => exact sim.binary_matches _ h fun a b a' b' => sim.comparison_matches _
  | gt => exact sim.binary_matches _ h fun a b a' b' => sim.comparison_matches _
  | fits => exact sim.binary_matches _ h fun a b a' b' => sim.fits_matches
  | min => exact sim.unary_matches _ h fun a b ab => sim.best_matches _ ab.operand same
  | max => exact sim.unary_matches _ h fun a b ab => sim.best_matches _ ab.operand same
  | count => exact sim.nullary_matches _ length (sim.pure_matches _)
  | agg => exact absurd op notAgg
  | traced =>
    refine sim.unary_matches _ h fun a b ab => ?_
    unfold tracing
    rw [← ab.operand]
    refine sim.bind_matches (sim.outcome_matches _) fun inner _ => ?_
    refine sim.bind_matches ab.value fun d _ => ?_
    exact sim.bind_matches (strategies.report _) fun _ _ => sim.pure_matches _
  | custom name =>
    unfold defined
    rw [← registry]
    dsimp only
    split
    · exact sim.bind_matches (sim.mapM_value_matches h) fun _ _ => sim.outcome_matches _
    · exact sim.throw_matches _

/-- Every operator does the same with operands that do so on all subjects, where views without a
fact have the same identities. -/
theorem perform_matches_of_values [LawfulMonad m] [LawfulMonad n] {scene : Scene}
    {strategy : Strategy m} {strategy' : Strategy n}
    (strategies : sim.StrategiesMatch strategy strategy')
    (fronts : ∀ i j, sim.Fronts i j → i = j) (subject : Subject) (all : List FactId) (t : Term)
    {address address' : Address} {args : List (Argument m)} {args' : List (Argument n)}
    (h : List.Forall₂ (fun a b => a.operand = b.operand ∧
      ∀ subject all, sim.Matches (a.value subject all) (b.value subject all)) args args')
    (memory : ∀ d, sim.Matches (strategy.exchange address d) (strategy'.exchange address' d)) :
    sim.Matches (perform scene strategy subject all t address args)
      (perform scene strategy' subject all t address' args') := by
  by_cases isAgg : t.op = .agg
  · unfold perform
    simp only [isAgg]
    apply sim.binary_matches _ h
    rintro a b a' b' ⟨operand, value⟩ ⟨operand', value'⟩
    refine sim.aggregation_matches strategies operand operand' ?_ ?_
    · intro _ _ id _
      exact value _ _
    · intro _ _ kept front front' _ _ _ leads
      have same : front = front' := sim.eq_of_leads fronts leads
      subst same
      exact value' _ _
  · have same : ∀ id ∈ all, scene.contents id = scene.contents id := fun _ _ => rfl
    refine sim.perform_matches strategies rfl same t ?_ isAgg fun _ => memory
    exact h.imp fun a b ab => ⟨ab.1, ab.2 _ _, fun _ _ => rfl⟩

/-- A relation between the circumstances of two evaluations of a term (its place, its subject and
all facts) that is handed on to operands and makes everything match that is not an operand. -/
structure Congruence (left right : Scene) (strategy : Strategy m) (strategy' : Strategy n) where
  /-- A term is evaluated at two places on two subjects with the same facts. -/
  Related : Term → Address → Address → Subject → Subject → List FactId → Prop
  strategies : sim.StrategiesMatch strategy strategy'
  registry : left.registry = right.registry
  facts : ∀ {t a a' s s' all}, Related t a a' s s' all →
    ∀ id ∈ all, left.contents id = right.contents id
  /-- The symbols among the operands are the same on both subjects. -/
  symbols : ∀ {op operands a a' s s' all}, Related (.node op operands) a a' s s' all → op ≠ .agg →
    ∀ name, .symbol name ∈ operands → s.lookup left.contents name = s'.lookup right.contents name
  /-- The relation is handed on to terms among the operands. -/
  operands : ∀ {op operands a a' s s' all}, Related (.node op operands) a a' s s' all →
    op ≠ .agg → ∀ i u, operands[i]? = some (.term u) →
      Related u (a.operand i) (a'.operand i) s s' all
  selector : ∀ {t rest a a' s s' all}, Related (.node .agg (.term t :: rest)) a a' s s' all →
    ∀ id ∈ all, Related t (a.operand 0) (a'.operand 0) (candidate s.parameters id)
      (candidate s'.parameters id) all
  /-- The relation is handed on to the bodies of aggregations. -/
  body : ∀ {t u a a' s s' all kept front front'},
    Related (.node .agg [.term t, .term u]) a a' s s' all →
      sim.Gives (select all ⟨.term t, Term.evaluateWith right strategy' t (a'.operand 0)⟩ t
        s'.parameters all) kept → sim.Leads kept front front' →
      Related u (a.operand 1) (a'.operand 1) (.view ⟨front, s.parameters.getD (.params .empty)⟩)
        (.view ⟨front', s'.parameters.getD (.params .empty)⟩) kept
  memory : ∀ {operands a a' s s' all}, Related (.node .prev operands) a a' s s' all →
    ∀ d, sim.Matches (strategy.exchange a d) (strategy'.exchange a' d)
  answer : ∀ {t a a' s s' all} {x : m Datum} {y : n Datum}, Related t a a' s s' all →
    x = Term.named t (perform left strategy s all t a
      (Term.arguments left strategy a 0 t.operands)) →
    y = Term.named t (perform right strategy' s' all t a'
      (Term.arguments right strategy' a' 0 t.operands)) →
    sim.Matches x y → sim.Matches (strategy.answer t a s x) (strategy'.answer t a' s' y)

namespace Congruence

variable {sim} {strategy : Strategy m} {strategy' : Strategy n}
variable (c : sim.Congruence left right strategy strategy')

mutual

/-- Evaluations in related circumstances match. -/
theorem evaluateWith_matches [LawfulMonad m] [LawfulMonad n] (t : Term) {a a' : Address}
    {s s' : Subject} {all : List FactId} (related : c.Related t a a' s s' all) :
    sim.Matches (t.evaluateWith left strategy a s all) (t.evaluateWith right strategy' a' s' all) :=
  match t, related with
  | .node op operands, related => by
    refine c.answer related rfl rfl (sim.named_matches _ ?_)
    by_cases isAgg : op = .agg
    · subst isAgg
      match operands, related with
      | [], _ => exact sim.throw_matches _
      | [_], _ => exact sim.throw_matches _
      | [x, y], related =>
        refine sim.aggregation_matches c.strategies rfl rfl ?_ ?_
        · intro t nested id mem
          refine resolve_matches x ?_ ?_
          · intro name symbol
            rw [symbol] at nested
            cases nested
          · intro u term
            rw [term] at related
            exact c.selector related id mem
        · intro t u kept front front' nested nested' gives leads
          refine resolve_matches y ?_ ?_
          · intro name symbol
            rw [symbol] at nested'
            cases nested'
          · intro v term
            dsimp only at nested nested'
            rw [nested] at gives related
            rw [term] at related
            exact c.body related gives leads
      | _ :: _ :: _ :: rest, _ =>
        simp only [perform, Term.op, binary, Term.arguments, List.length_cons]
        rw [Term.length_arguments, Term.length_arguments]
        exact sim.throw_matches _
    · refine sim.perform_matches c.strategies c.registry (c.facts related) _ ?_ isAgg ?_
      · refine arguments_match operands 0 (c.symbols related isAgg) fun i u found => ?_
        rw [Nat.zero_add]
        exact c.operands related isAgg i u found
      · intro isPrev d
        have op_eq : op = .prev := isPrev
        subst op_eq
        exact c.memory related d

/-- Arguments for operands in related circumstances match. -/
theorem arguments_match [LawfulMonad m] [LawfulMonad n] (operands : List (Operand Term))
    (position : Nat) {a a' : Address} {s s' : Subject} {all : List FactId}
    (symbols : ∀ name, .symbol name ∈ operands →
      s.lookup left.contents name = s'.lookup right.contents name)
    (related : ∀ i u, operands[i]? = some (.term u) →
      c.Related u (a.operand (position + i)) (a'.operand (position + i)) s s' all) :
    List.Forall₂ (sim.ArgumentsMatch left right s s' all)
      (Term.arguments left strategy a position operands)
      (Term.arguments right strategy' a' position operands) :=
  match operands, symbols, related with
  | [], _, _ => .nil
  | operand :: rest, symbols, related => by
    refine .cons ⟨rfl, ?_, ?_⟩ ?_
    · refine resolve_matches operand ?_ ?_
      · intro name symbol
        exact symbols name (by rw [symbol]; exact List.mem_cons_self)
      · intro u term
        exact related 0 u (by rw [term]; rfl)
    · intro name symbol
      have operand_eq : operand = .symbol name := symbol
      exact symbols name (by rw [operand_eq]; exact List.mem_cons_self)
    · refine arguments_match rest (position + 1) ?_ ?_
      · intro name mem
        exact symbols name (List.mem_cons_of_mem _ mem)
      · intro i u found
        have next := related (i + 1) u found
        rwa [show position + (i + 1) = position + 1 + i by omega] at next

/-- Results of an operand in related circumstances match. -/
theorem resolve_matches [LawfulMonad m] [LawfulMonad n] (operand : Operand Term)
    {a a' : Address} {s s' : Subject} {all : List FactId}
    (symbols : ∀ name, operand = .symbol name →
      s.lookup left.contents name = s'.lookup right.contents name)
    (related : ∀ u, operand = .term u → c.Related u a a' s s' all) :
    sim.Matches (Term.resolve left strategy operand a s all)
      (Term.resolve right strategy' operand a' s' all) :=
  match operand, symbols, related with
  | .literal v, _, _ => sim.pure_matches _
  | .symbol name, symbols, _ => by
    simp only [Term.resolve, symbols name rfl]
    exact sim.pure_matches _
  | .term t, _, related => evaluateWith_matches t (related t rfl)

end

/-- Evaluations at the same places of the same subjects, where views without a fact have the same
identities. -/
def alongside {strategy : Strategy m} {strategy' : Strategy n}
    (registry : left.registry = right.registry) (contents : left.contents = right.contents)
    (fronts : ∀ i j, sim.Fronts i j → i = j) (strategies : sim.StrategiesMatch strategy strategy')
    (memory : ∀ a d, sim.Matches (strategy.exchange a d) (strategy'.exchange a d))
    (answer : ∀ {t a s all} {x : m Datum} {y : n Datum},
      y = Term.named t (perform right strategy' s all t a
        (Term.arguments right strategy' a 0 t.operands)) →
      sim.Matches x y → sim.Matches (strategy.answer t a s x) (strategy'.answer t a s y)) :
    sim.Congruence left right strategy strategy' where
  Related _ a a' s s' _ := a = a' ∧ s = s'
  strategies := strategies
  registry := registry
  facts _ id _ := congrFun contents id
  symbols related _ name _ := by rw [related.2, contents]
  operands related _ i _ _ := ⟨by rw [related.1], related.2⟩
  selector related _ _ := ⟨by rw [related.1], by rw [related.2]⟩
  body related _ leads := ⟨by rw [related.1], by rw [related.2, sim.eq_of_leads fronts leads]⟩
  memory related d := by
    rw [related.1]
    exact memory _ d
  answer related _ computes same := by
    obtain ⟨rfl, rfl⟩ := related
    exact answer computes same

/-- Evaluations at the same places of the same subjects, of terms without operators of some sort,
where views without a fact have the same identities. -/
def without {strategy : Strategy m} {strategy' : Strategy n} (sort : Operator → Bool)
    (registry : left.registry = right.registry) (contents : left.contents = right.contents)
    (fronts : ∀ i j, sim.Fronts i j → i = j) (strategies : sim.StrategiesMatch strategy strategy')
    (memory : ∀ {a d}, sort .prev = false →
      sim.Matches (strategy.exchange a d) (strategy'.exchange a d))
    (answer : ∀ {t a s} {x : m Datum} {y : n Datum}, sort t.op = false → sim.Matches x y →
      sim.Matches (strategy.answer t a s x) (strategy'.answer t a s y)) :
    sim.Congruence left right strategy strategy' where
  Related t a a' s s' _ := a = a' ∧ s = s' ∧ t.anyOperator sort = false
  strategies := strategies
  registry := registry
  facts _ id _ := congrFun contents id
  symbols related _ name _ := by rw [related.2.1, contents]
  operands related _ i _ found := by
    obtain ⟨rfl, rfl, without⟩ := related
    rw [Term.anyOperator, Bool.or_eq_false_iff] at without
    exact ⟨rfl, rfl, Term.anyOperator_of_mem without.2 (List.mem_of_getElem? found)⟩
  selector related _ _ := by
    obtain ⟨rfl, rfl, without⟩ := related
    rw [Term.anyOperator, Bool.or_eq_false_iff] at without
    exact ⟨rfl, rfl, Term.anyOperator_of_mem without.2 List.mem_cons_self⟩
  body related _ leads := by
    obtain ⟨rfl, rfl, without⟩ := related
    rw [Term.anyOperator, Bool.or_eq_false_iff] at without
    rw [sim.eq_of_leads fronts leads]
    exact ⟨rfl, rfl, Term.anyOperator_of_mem without.2
      (List.mem_cons_of_mem _ List.mem_cons_self)⟩
  memory related d := by
    obtain ⟨rfl, rfl, without⟩ := related
    rw [Term.anyOperator, Bool.or_eq_false_iff] at without
    exact memory without.1
  answer {t a a' s s' all x y} related _ _ same := by
    obtain ⟨rfl, rfl, without⟩ := related
    cases t with
    | node op operands =>
      rw [Term.anyOperator, Bool.or_eq_false_iff] at without
      exact answer without.1 same

end Congruence

end Simulation

end Annals
