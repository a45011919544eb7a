import Annals.Proofs.Eval.Agreement

/-!
# Aggregations in aggregations

An aggregation evaluates its body over the facts that its selector accepts, so that an aggregation
in an aggregation selects twice. `Term.nested_aggregations` says that this is one selection by the
conjunction of the two selectors, and that a selection which accepts every fact can be left out
around an aggregate. The terms may share nodes, as long as the selectors hold no aggregates: what a
pass keeps of such selectors is what they would give anew (`Term.run_single`).

* `Term.ended_agg` says what an aggregation gives: the selector has to decide on every fact
  (`Term.Decides`), and the body is evaluated in front of the first one of those that it accepts
  (`Term.accepted`), also if there is none.
* `Term.chosen_and` is where the two sides meet. The second selector does not run on the facts that
  the first one rejects, be it because they are gone or because the conjunction stops there.
* `Term.chosen_single`: the first selection may make a view without parameters out of a subject
  that has none, and no property has a name that would tell these apart.
* `Term.aggregate_matches`: an aggregate sees nothing of the subject but the parameters.
-/

set_option autoImplicit false

namespace Annals

/-- Computations of which the second one gives what the first one does, and leaves its state as it
is. -/
def Simulation.steady (σ : Type) : Simulation (Except Error) (ExceptT Error (StateM σ)) where
  Matches r b := ∀ s, b.run s = (r, s)
  Gives b x := ∃ s, (b.run s).1 = .ok x
  Fronts i j := i = j
  pure_matches _ _ := rfl
  throw_matches _ _ := rfl
  bind_matches := by
    intro α β r b f g first rest s
    rw [Memo.run_bind, first s]
    cases r with
    | error e => rfl
    | ok x => exact rest x ⟨s, congrArg Prod.fst (first s)⟩ s
  named_matches := by
    intro r b t same s
    rw [Memo.run_named, same s]
    cases r <;> rfl
  gives_outcome := Memo.eq_ok_of_outcome

namespace Term

variable {scene : Scene} {s s' : Subject} {all : List FactId}
variable {parameters parameters' : Option Backing}

/-! ### Terms without aggregates -/

section Single

variable {t : Term} (sharing : Sharing) (a : Address)

/-- A term without aggregates gives what it gives without a memory, and nothing is learnt. -/
theorem run_single (single : t.anyOperator Operator.isAggregate = false) (known : Digest) :
    (t.evaluateWith scene (Digested.strategy.shared sharing) a s all).run known
      = (t.evaluateWith scene direct a s all, known) := by
  have answer : ∀ {t : Term} {a : Address} {s : Subject} {x : Except Error Datum}
      {y : Digested Datum}, t.op.isAggregate = false → (Simulation.steady Digest).Matches x y →
      (Simulation.steady Digest).Matches (direct.answer t a s x)
        ((Digested.strategy.shared sharing).answer t a s y) := by
    intro t a s x y plain same
    rwa [Strategy.shared_answer, Digested.answer_plain y plain]
  have steady : (Simulation.steady Digest).Matches (t.evaluateWith scene direct a s all)
      (t.evaluateWith scene (Digested.strategy.shared sharing) a s all) :=
    (Simulation.Congruence.without Operator.isAggregate (rfl : scene.registry = _) rfl
      (fun _ _ same => same) ⟨fun _ _ => rfl, fun same => same _ _ rfl⟩ (fun _ _ => rfl)
      answer).evaluateWith_matches t ⟨rfl, rfl, single⟩
  exact steady known

/-- A selector without aggregates selects what it selects without a memory. -/
theorem run_select (single : t.anyOperator Operator.isAggregate = false) (facts : List FactId)
    (known : Digest) :
    (Operation.select all ⟨.term t, t.evaluateWith scene (Digested.strategy.shared sharing) a⟩ t
        parameters facts).run known
      = (Operation.select all ⟨.term t, t.evaluateWith scene direct a⟩ t parameters facts,
        known) := by
  have steady : (Simulation.steady Digest).Matches
      (Operation.select all ⟨.term t, t.evaluateWith scene direct a⟩ t parameters facts)
      (Operation.select all ⟨.term t, t.evaluateWith scene (Digested.strategy.shared sharing) a⟩ t
        parameters facts) :=
    Simulation.select_matches _ t parameters parameters facts
      fun id _ => run_single sharing a single
  exact steady known

end Single

/-! ### What an aggregation gives -/

section Selection

/-- The truth value that a selector has on a fact. -/
def chosen (scene : Scene) (selector : Term) (parameters : Option Backing) (all : List FactId)
    (id : FactId) : Except Error Bool :=
  truthIn (given scene (Operation.candidate parameters id) all) (.term selector)

/-- A selector has a truth value on every fact. -/
def Decides (scene : Scene) (selector : Term) (parameters : Option Backing) (all : List FactId) :
    Prop :=
  ∀ id ∈ all, ∃ b, chosen scene selector parameters all id = .ok b

/-- The facts that a selector accepts. -/
def accepted (scene : Scene) (selector : Term) (parameters : Option Backing) (all : List FactId) :
    List FactId :=
  all.filter fun id => chosen scene selector parameters all id = .ok true

/-- The subject of a body over the facts of a list. -/
def leading (backing : Backing) (facts : List FactId) : Subject :=
  .view ⟨match facts with
    | [] => .vacant 0
    | id :: _ => .fact id, backing⟩

/-- What a selector keeps of all facts without a memory, or fails with. -/
def selected (scene : Scene) (selector : Term) (parameters : Option Backing) (all : List FactId) :
    Except Error (List FactId) :=
  Operation.select all ⟨.term selector, selector.evaluateWith scene direct (.root 0)⟩ selector
    parameters all

variable {selector : Term}

/-- Without a memory, a selection is the same at all places. -/
theorem select_direct (selector : Term) (a : Address) :
    Operation.select all ⟨.term selector, selector.evaluateWith scene direct a⟩ selector parameters
      all = selected scene selector parameters all :=
  Simulation.equality.select_matches selector _ _ all fun _ _ =>
    resolve_direct scene _ all (.term selector) a

/-- A selection keeps the facts that are accepted, if the selector decides on all of them. -/
theorem select_eq_ok {a : Address} {facts kept : List FactId} :
    Operation.select all ⟨.term selector, selector.evaluateWith scene direct a⟩ selector parameters
        facts = .ok kept
      ↔ (∀ id ∈ facts, ∃ b, chosen scene selector parameters all id = .ok b)
        ∧ kept = facts.filter fun id => chosen scene selector parameters all id = .ok true := by
  have decided : ∀ id b, (∃ d, selector.evaluateWith scene direct a
      (Operation.candidate parameters id) all = .ok d ∧ withinTerm selector d.truth = .ok b)
        ↔ chosen scene selector parameters all id = .ok b := by
    intro id b
    rw [chosen, truthIn, bind_eq_ok, ← resolve_direct scene _ all (.term selector) a]
    exact exists_congr fun d => and_congr_right fun _ => withinTerm_eq_ok
  induction facts generalizing kept with
  | nil =>
    rw [Operation.select]
    refine ok_eq_ok.trans ?_
    simp
  | cons id rest ih =>
    simp only [Operation.select, Operation.outcome_eq, bind_eq_ok, List.forall_mem_cons]
    constructor
    · rintro ⟨d, result, b, truth, others, later, same⟩
      have choice := (decided id b).mp ⟨d, result, truth⟩
      obtain ⟨all, rfl⟩ := ih.mp later
      refine ⟨⟨⟨b, choice⟩, all⟩, (Except.ok.inj same).symm.trans ?_⟩
      cases b <;> simp [choice]
    · rintro ⟨⟨⟨b, choice⟩, all⟩, rfl⟩
      obtain ⟨d, result, truth⟩ := (decided id b).mpr choice
      refine ⟨d, result, b, truth, _, ih.mpr ⟨all, rfl⟩, congrArg Except.ok ?_⟩
      cases b <;> simp [choice]

/-- The body is evaluated on the first of the facts that are kept, or on none. -/
theorem given_selection (selector body : Term) :
    given scene s all (.term (.node .agg [.term selector, .term body]))
      = named (.node .agg [.term selector, .term body])
        (selected scene selector s.parameters all
          >>= fun kept => given scene (leading s.handed kept) kept (.term body)) := by
  rw [given, resolve, evaluateWith, ← select_direct selector ((Address.root 0).operand 0)]
  refine congrArg (named _) ?_
  show Operation.aggregation direct s all ⟨.term selector, _⟩ ⟨.term body, _⟩ = _
  rw [Operation.aggregation, Operation.outcome_eq, Operation.outcome_eq]
  refine congrArg (bind (m := Except Error) (Operation.select all _ selector s.parameters all))
    (funext fun kept => ?_)
  rw [← resolve_direct scene _ kept (.term body) ((Address.root 0).operand 1)]
  cases kept <;> rfl

theorem chosen_always (id : FactId) :
    chosen scene (.node .always []) parameters all id = .ok true := rfl

theorem selected_always : selected scene (.node .always []) parameters all = .ok all := by
  refine select_eq_ok.mpr ⟨fun id _ => ⟨true, chosen_always id⟩, ?_⟩
  simp [chosen_always]

/-- A conjunction decides where its first part does, and its second part on what that accepts. -/
theorem chosen_and {first second : Term} {id : FactId} {b : Bool} :
    chosen scene (.node .and [.term first, .term second]) parameters all id = .ok b
      ↔ (chosen scene first parameters all id = .ok false ∧ b = false)
        ∨ (chosen scene first parameters all id = .ok true
          ∧ chosen scene second parameters all id = .ok b) := by
  rw [chosen, truthIn_node (joining_given scene _ all) (.inl rfl)]
  show joined _ false _ = _ ↔ _
  rw [joined_cons_eq_ok, joined_single]
  rfl

/-- A selector without aggregates decides on a fact whatever the others are, and whether there are
no parameters or none of any name. -/
theorem chosen_single (single : selector.anyOperator Operator.isAggregate = false)
    (all all' : List FactId)
    (same : parameters = parameters' ∨ parameters.getD (.params .empty)
      = parameters'.getD (.params .empty) ∧ ∀ id, (scene.contents id).WellNamed) (id : FactId) :
    chosen scene selector parameters all id = chosen scene selector parameters' all' id := by
  have alike : (Operation.candidate parameters id).Alike scene.contents
      (Operation.candidate parameters' id) := by
    apply Subject.Alike.of_identity
    · rw [Operation.identity_candidate, Operation.identity_candidate]
    · unfold Subject.handed
      rw [Operation.parameters_candidate, Operation.parameters_candidate]
      exact same
  refine congrArg (· >>= Datum.truth) ?_
  show selector.evaluateWith scene direct _ _ all = selector.evaluateWith scene direct _ _ all'
  rw [evaluateWith_direct_congr scene selector _ (.root 0) all alike]
  exact evaluateWith_single scene direct _ all all' selector (.inr single) _

end Selection

variable {first second body : Term}

section Twice

variable (single : second.anyOperator Operator.isAggregate = false)
variable (same : parameters = parameters' ∨ parameters.getD (.params .empty)
  = parameters'.getD (.params .empty) ∧ ∀ id, (scene.contents id).WellNamed)

include single same

/-- Two selections keep what a selection by the conjunction keeps. -/
theorem accepted_and : accepted scene second parameters' (accepted scene first parameters all)
    = accepted scene (.node .and [.term first, .term second]) parameters all := by
  have alone := chosen_single single all (accepted scene first parameters all) same
  calc accepted scene second parameters' (accepted scene first parameters all)
    _ = (accepted scene first parameters all).filter fun id =>
          chosen scene second parameters all id = .ok true :=
        List.filter_congr fun id _ => by rw [alone]
    _ = all.filter fun id => chosen scene second parameters all id = .ok true
          && chosen scene first parameters all id = .ok true := List.filter_filter
    _ = accepted scene (.node .and [.term first, .term second]) parameters all := by
        refine List.filter_congr fun id _ => ?_
        rw [← Bool.decide_and]
        refine decide_eq_decide.mpr ?_
        rw [chosen_and, and_comm]
        simp only [Bool.true_eq_false, and_false, false_or]

/-- Two selections decide if a selection by the conjunction does. -/
theorem decides_and : Decides scene (.node .and [.term first, .term second]) parameters all
    ↔ Decides scene first parameters all
      ∧ Decides scene second parameters' (accepted scene first parameters all) := by
  have alone := chosen_single single all (accepted scene first parameters all) same
  constructor
  · intro decides
    refine ⟨fun id mem => ?_, fun id kept => ?_⟩
    · obtain ⟨b, choice⟩ := decides id mem
      rcases chosen_and.mp choice with ⟨choice, -⟩ | ⟨choice, -⟩
      · exact ⟨false, choice⟩
      · exact ⟨true, choice⟩
    · obtain ⟨mem, accepts⟩ := List.mem_filter.mp kept
      obtain ⟨b, choice⟩ := decides id mem
      rcases chosen_and.mp choice with ⟨rejects, -⟩ | ⟨-, choice⟩
      · rw [of_decide_eq_true accepts] at rejects
        cases rejects
      · rw [alone] at choice
        exact ⟨b, choice⟩
  · rintro ⟨decides, later⟩ id mem
    obtain ⟨b, choice⟩ := decides id mem
    cases b with
    | false => exact ⟨false, chosen_and.mpr (.inl ⟨choice, rfl⟩)⟩
    | true =>
      have kept : id ∈ accepted scene first parameters all :=
        List.mem_filter.mpr ⟨mem, decide_eq_true choice⟩
      obtain ⟨c, choice'⟩ := later id kept
      rw [← alone] at choice'
      exact ⟨c, chosen_and.mpr (.inr ⟨choice, choice'⟩)⟩

end Twice

/-! ### What an aggregation gives -/

section Aggregation

variable {sharing : Sharing} {a : Address} {selector body : Term} {known : Digest} {d : Datum}
variable (single : selector.anyOperator Operator.isAggregate = false)
variable (new : known (sharing.node a) = none)

include single new

/-- Where nothing is known of it, an aggregation gives what the body gives on the first of the facts
that are kept, or on none. -/
theorem result_agg :
    (((node .agg [.term selector, .term body]).evaluateWith scene
        (Digested.strategy.shared sharing) a s all).run known).1
      = named (.node .agg [.term selector, .term body])
        (selected scene selector s.parameters all
          >>= fun kept => ((body.evaluateWith scene (Digested.strategy.shared sharing)
            (a.operand 1) (leading s.handed kept) kept).run known).1) := by
  have performed : (Operation.perform scene (Digested.strategy.shared sharing) s all
        (node .agg [.term selector, .term body]) a (arguments scene
          (Digested.strategy.shared sharing) a 0 [.term selector, .term body])).run known
      = (Operation.outcome (selected scene selector s.parameters all) >>= fun kept =>
          body.evaluateWith scene (Digested.strategy.shared sharing) (a.operand 1)
            (leading s.handed kept) kept).run known := by
    show ExceptT.run (Operation.select all
      ⟨.term selector, selector.evaluateWith scene (Digested.strategy.shared sharing)
        (a.operand 0)⟩ selector s.parameters all >>= _) known = _
    rw [Memo.run_bind, run_select sharing _ single, select_direct]
    cases selected scene selector s.parameters all with
    | error e => rfl
    | ok kept => cases kept <;> rfl
  rw [evaluateWith, Strategy.shared_answer, Digested.run_answer_new _ rfl new, Memo.run_named,
    performed, Memo.run_bind, Memo.run_outcome]
  cases selected scene selector s.parameters all with
  | error e => rfl
  | ok kept =>
    -- the aggregation itself is not learnt of while its body is evaluated
    have left : ((resolve scene (Digested.strategy.shared sharing) (.term body)
        (a.operand 1) (leading s.handed kept) kept).run known).2 (sharing.node a)
        = known (sharing.node a) :=
      leaves_operand (Digested.strategy_spares (sharing.node a)) (.term body) 1
        (leading s.handed kept) kept known
    show _ = named _ ((body.evaluateWith scene (Digested.strategy.shared sharing) (a.operand 1)
      (leading s.handed kept) kept).run known).1
    rw [resolve] at left
    dsimp only
    rcases run : (body.evaluateWith scene (Digested.strategy.shared sharing) (a.operand 1)
      (leading s.handed kept) kept).run known with ⟨result, later⟩
    rw [run] at left
    cases result with
    | error e => rfl
    | ok d =>
      show Except.ok ((later (sharing.node a)).getD d) = .ok d
      rw [show later (sharing.node a) = none from left.trans new]
      rfl

/-- An aggregation gives what the body gives on the facts that the selector accepts, if the selector
decides on every fact. -/
theorem ended_agg :
    (((node .agg [.term selector, .term body]).evaluateWith scene
        (Digested.strategy.shared sharing) a s all).run known).1 = .ok d
      ↔ Decides scene selector s.parameters all
        ∧ ((body.evaluateWith scene (Digested.strategy.shared sharing) (a.operand 1)
          (leading s.handed (accepted scene selector s.parameters all))
          (accepted scene selector s.parameters all)).run known).1 = .ok d := by
  rw [result_agg single new]
  refine named_eq_ok.trans ?_
  simp only [bind_eq_ok, selected, select_eq_ok]
  constructor
  · rintro ⟨kept, ⟨decides, rfl⟩, result⟩
    exact ⟨decides, result⟩
  · rintro ⟨decides, result⟩
    exact ⟨_, ⟨decides, rfl⟩, result⟩

end Aggregation

theorem anyOperator_and {first second : Term} {sort : Operator → Bool} (plain : sort .and = false)
    (without : first.anyOperator sort = false) (without' : second.anyOperator sort = false) :
    (node .and [.term first, .term second]).anyOperator sort = false := by
  simp [anyOperator, anyOperatorIn, anyOperatorOf, plain, without, without']

/-- An aggregation in an aggregation gives what a single one by the conjunction of the selectors
gives, where the body shares its nodes alike in both. -/
theorem ended_nested {nested joint : TermGraph} {first second body : Term}
    (isNested : nested.term = node .agg [.term first, .term (node .agg [.term second, .term body])])
    (isJoint : joint.term = node .agg [.term (node .and [.term first, .term second]), .term body])
    (alike : nested.Alike joint [([1, 1], [1])])
    (single : first.anyOperator Operator.isAggregate = false)
    (single' : second.anyOperator Operator.isAggregate = false)
    (named : s.parameters = none → ∀ id, (scene.contents id).WellNamed) (d : Datum) :
    ((nested.evaluateWith scene Digested.strategy s all).run .empty).1 = .ok d
      ↔ ((joint.evaluateWith scene Digested.strategy s all).run .empty).1 = .ok d := by
  have same : s.parameters = some s.handed ∨ s.parameters.getD (.params .empty)
      = (some s.handed).getD (.params .empty) ∧ ∀ id, (scene.contents id).WellNamed :=
    (Subject.Carries.self s named).parameters.imp_right fun wellNamed => ⟨rfl, wellNamed⟩
  have root : nested.termAt [] = some _ := nested.termAt_nil.trans (congrArg some isNested)
  let kept := accepted scene (.node .and [.term first, .term second]) s.parameters all
  have moved : (Simulation.agreeing (nested.Paired joint [([1, 1], [1])])).Matches
      (body.evaluateWith scene (Digested.strategy.shared nested.sharing) (nested.place [1, 1])
        (leading s.handed kept) kept)
      (body.evaluateWith scene (Digested.strategy.shared joint.sharing) (joint.place [1])
        (leading s.handed kept) kept) := by
    refine TermGraph.resolve_matches alike (List.mem_singleton_self _) [] scene (.term body) ?_
      (.refl _ _) kept
    rintro t ⟨⟩
    exact termAt_operand (termAt_operand root rfl) rfl
  have agrees : Digest.empty.Agrees (nested.Paired joint [([1, 1], [1])]) .empty :=
    fun _ _ _ => rfl
  have bodies := (moved .empty .empty agrees).1
  unfold TermGraph.evaluateWith
  rw [isNested, isJoint, ended_agg single rfl, ended_agg single' rfl,
    ended_agg (anyOperator_and rfl single single') rfl, decides_and single' same, and_assoc]
  show _ ∧ _ ∧ ((body.evaluateWith scene (Digested.strategy.shared nested.sharing)
    (nested.place [1, 1]) (leading s.handed (accepted scene second (some s.handed) _))
    (accepted scene second (some s.handed) _)).run .empty).1 = _ ↔ _
  rw [accepted_and single' same, bodies]
  rfl

/-- What has failed keeps the name of the term inside. -/
theorem named_ended {t u : Term} {sharing : Sharing} {a : Address} {known : Digest}
    (aggregate : t.op.isAggregate = true) (new : known (sharing.node a) = none) :
    named u ((t.evaluateWith scene (Digested.strategy.shared sharing) a s all).run known).1
      = ((t.evaluateWith scene (Digested.strategy.shared sharing) a s all).run known).1 := by
  obtain ⟨op, operands⟩ := t
  rw [evaluateWith, Strategy.shared_answer, Digested.run_answer_new _ aggregate new, Memo.run_named]
  rcases (Operation.perform scene (Digested.strategy.shared sharing) s all (node op operands) a
    (arguments scene (Digested.strategy.shared sharing) a 0 operands)).run known with ⟨r, later⟩
  cases r with
  | ok d => rfl
  | error e => exact congrArg Except.error (Error.within_within e _ u.text)

section Graphs

variable {g g' : TermGraph} {parts : List (List Nat × List Nat)} {part : List Nat × List Nat}

/-- Operands of a term that stands in two graphs give the same on subjects that look the same. -/
theorem arguments_moved (alike : g.Alike g' parts) (mem : part ∈ parts) (scene : Scene) {t : Term}
    (placed : g.termAt part.1 = some t) (operands : List (Operand Term)) (position : Nat)
    (within : ∀ i operand, operands[i]? = some operand → t.operands[position + i]? = some operand) :
    List.Forall₂ (fun a b => a.operand = b.operand ∧ ∀ u, a.operand = .term u → ∀ s s' all,
        s.Alike scene.contents s' →
          (Simulation.agreeing (g.Paired g' parts)).Matches (a.value s all) (b.value s' all))
      (arguments scene (Digested.strategy.shared g.sharing) (g.place part.1) position operands)
      (arguments scene (Digested.strategy.shared g'.sharing) (g'.place part.2) position
        operands) := by
  induction operands generalizing position with
  | nil => exact .nil
  | cons operand rest ih =>
    refine .cons ⟨rfl, fun u _ s s' all subjects => ?_⟩
      (ih (position + 1) fun i operand found => ?_)
    · refine TermGraph.resolve_matches alike mem [position] scene operand ?_ subjects all
      rintro v rfl
      exact termAt_operand placed (within 0 _ rfl)
    · have later := within (i + 1) operand found
      rwa [show position + (i + 1) = position + 1 + i by omega] at later

variable (all) in
/-- An aggregate that stands in two graphs sees nothing of the subject but the parameters. -/
theorem aggregate_matches (alike : g.Alike g' parts) (mem : part ∈ parts) {t : Term}
    (placed : g.termAt part.1 = some t) (aggregate : t.op.isAggregate = true)
    (same : s.parameters = s'.parameters ∨ s.handed = s'.handed ∧
      ∀ id, (scene.contents id).WellNamed) :
    (Simulation.agreeing (g.Paired g' parts)).Matches
      (t.evaluateWith scene (Digested.strategy.shared g.sharing) (g.place part.1) s all)
      (t.evaluateWith scene (Digested.strategy.shared g'.sharing) (g'.place part.2) s' all) := by
  let sim := Simulation.agreeing (g.Paired g' parts)
  have pair : g.Paired g' parts (g.node part.1) (g'.node part.2) :=
    ⟨part, mem, [], t, placed, rfl, rfl⟩
  have handed : s.handed = s'.handed := same.elim (congrArg (Option.getD · _)) And.left
  have operands := arguments_moved alike mem scene placed t.operands 0 fun i operand found => by
    rwa [Nat.zero_add]
  obtain ⟨op, operands⟩ := t
  refine Simulation.agreeing_answer alike.matching pair s s' (sim.named_matches _ ?_)
  cases op with
  | min => exact sim.unary_matches _ operands fun a b ab => sim.best_matches _ ab.1 fun _ _ => rfl
  | max => exact sim.unary_matches _ operands fun a b ab => sim.best_matches _ ab.1 fun _ _ => rfl
  | count => exact sim.nullary_matches _ operands.length_eq (sim.pure_matches _)
  | agg =>
    refine sim.binary_matches _ operands fun a b a' b' ab ab' => ?_
    refine sim.aggregation_matches (Simulation.agreeing_strategies _ _) ab.1 ab'.1 ?_ ?_
    · intro u nested id _
      refine ab.2 u nested _ _ all (Subject.Alike.of_identity ?_ ?_)
      · rw [Operation.identity_candidate, Operation.identity_candidate]
      · unfold Subject.handed
        rw [Operation.parameters_candidate, Operation.parameters_candidate]
        exact same
    · intro u v kept front front' _ nested _ leads
      rw [Simulation.eq_of_leads _ (fun _ _ same => same) leads]
      exact ab'.2 v nested _ _ kept (.view handed rfl)
  | _ => cases aggregate

end Graphs

/-- A selection of everything around an aggregate changes nothing, failures included. -/
theorem result_agg_always {outer inner : TermGraph} {body : Term}
    (isOuter : outer.term = node .agg [.term (node .always []), .term body])
    (isInner : inner.term = body) (alike : outer.Alike inner [([1], [])])
    (aggregate : body.op.isAggregate = true)
    (named : s.parameters = none → ∀ id, (scene.contents id).WellNamed) :
    ((outer.evaluateWith scene Digested.strategy s all).run .empty).1
      = ((inner.evaluateWith scene Digested.strategy s all).run .empty).1 := by
  have root : outer.termAt [] = some _ := outer.termAt_nil.trans (congrArg some isOuter)
  have same : (leading s.handed all).parameters = s.parameters ∨
      (leading s.handed all).handed = s.handed ∧ ∀ id, (scene.contents id).WellNamed :=
    (Subject.Carries.self s named).parameters.imp Eq.symm fun wellNamed => ⟨rfl, wellNamed⟩
  have agrees : Digest.empty.Agrees (outer.Paired inner [([1], [])]) .empty := fun _ _ _ => rfl
  have moves := aggregate_matches all alike (List.mem_singleton_self _) (termAt_operand root rfl)
    aggregate same
  have moved := (moves .empty .empty agrees).1
  unfold TermGraph.evaluateWith
  rw [isOuter, isInner, result_agg rfl rfl, selected_always]
  show Term.named _ ((body.evaluateWith scene (Digested.strategy.shared outer.sharing)
    (outer.place [1]) (leading s.handed all) all).run .empty).1 = _
  rw [moved]
  exact named_ended aggregate rfl

/-- In passes of their own, an aggregation in an aggregation gives what one aggregation by the
conjunction of the selectors gives, or both fail, if the body shares its nodes alike in both. And an
aggregate gives the same in a selection of everything, or fails with the same error. The facts have
well formed names, as those of every store have (`Store.LeadsTo.wellNamed`). -/
theorem nested_aggregations (scene : Scene) {s : Subject}
    (named : s.parameters = none → ∀ id, (scene.contents id).WellNamed) (all : List FactId)
    (tracing tracing' : Bool) (vacant vacant' : Nat) {first second body : Term}
    (memoryless : first.remembers = false) (memoryless' : second.remembers = false)
    (memorylessBody : body.remembers = false)
    (single : first.anyOperator Operator.isAggregate = false)
    (single' : second.anyOperator Operator.isAggregate = false) :
    (∀ nested joint : TermGraph,
      nested.term = node .agg [.term first, .term (node .agg [.term second, .term body])] →
      joint.term = node .agg [.term (node .and [.term first, .term second]), .term body] →
      nested.Alike joint [([1, 1], [1])] →
      (∃ d, joint.result scene tracing vacant s all = .ok d
          ∧ nested.result scene tracing' vacant' s all = .ok d)
        ∨ ∃ e e', joint.result scene tracing vacant s all = .error e
          ∧ nested.result scene tracing' vacant' s all = .error e') ∧
    ∀ outer inner : TermGraph,
      outer.term = node .agg [.term (node .always []), .term body] → inner.term = body →
      outer.Alike inner [([1], [])] → body.op.isAggregate = true →
      outer.result scene tracing vacant s all = inner.result scene tracing' vacant' s all := by
  simp only [remembers] at memoryless memoryless' memorylessBody
  constructor
  · intro nested joint isNested isJoint alike
    have forgets : nested.term.remembers = false := by
      rw [isNested]
      simp [remembers, anyOperator, anyOperatorIn, anyOperatorOf, *]
    have forgets' : joint.term.remembers = false := by
      rw [isJoint]
      simp [remembers, anyOperator, anyOperatorIn, anyOperatorOf, *]
    rw [joint.result_eq_digested forgets' scene tracing vacant named,
      nested.result_eq_digested forgets scene tracing' vacant' named]
    exact ok_or_error (ended_nested isNested isJoint alike single single' named)
  · intro outer inner isOuter isInner alike aggregate
    have forgets : outer.term.remembers = false := by
      rw [isOuter]
      simp [remembers, anyOperator, anyOperatorIn, anyOperatorOf, memorylessBody]
    have forgets' : inner.term.remembers = false := isInner ▸ memorylessBody
    rw [outer.result_eq_digested forgets scene tracing vacant named,
      inner.result_eq_digested forgets' scene tracing' vacant' named]
    exact result_agg_always isOuter isInner alike aggregate named

/-- Of three facts, two have `x`, and one of these has one that is greater than one. -/
def scored : Scene where
  registry := .empty
  contents := Register.contents ⟨#[⟨⟨[("x", [.int 1])]⟩, []⟩, ⟨⟨[("y", [.int 5])]⟩, []⟩,
    ⟨⟨[("x", [.int 2, .int 1])]⟩, []⟩]⟩

/-- The terms `(agg (exists x) (agg (gt x 1) (count)))`, `(agg (and (exists x) (gt x 1)) (count))`
and `(agg (always) (count))` with the terms in them. There is one node for each of the selectors,
and one for `(count)`. -/
def selections : List Node :=
  let first : Node := .mk 0 .present [.symbol "x"]
  let second : Node := .mk 1 .gt [.symbol "x", .literal (.int 1)]
  let counted : Node := .mk 2 .count []
  let selection : Node := .mk 3 .agg [.term second, .term counted]
  let both : Node := .mk 4 .and [.term first, .term second]
  let anything : Node := .mk 5 .always []
  [.mk 8 .agg [.term first, .term selection], .mk 7 .agg [.term both, .term counted],
    .mk 6 .agg [.term anything, .term counted], anything, both, selection, counted, second, first]

theorem made_selections : Node.Made 9 selections := by
  refine .new (.new (.new (.new (.new (.new (.new (.new (.new .none ?_) ?_) ?_) ?_) ?_) ?_) ?_) ?_)
    ?_ <;> simp

/-- Both selections together leave one of the facts, and a selection of everything leaves all. -/
theorem nested_aggregations_scored :
    let all : List FactId := [⟨0⟩, ⟨1⟩, ⟨2⟩]
    let graph := fun (i : Nat) (bound : i < selections.length) =>
      TermGraph.ofNode made_selections i bound
    (∀ id, (scored.contents id).WellNamed) ∧
      (graph 0 (by decide)).result scored false 0 (.fact ⟨1⟩) all = .ok (.single (.int 1)) ∧
      (graph 2 (by decide)).result scored false 0 (.fact ⟨1⟩) all = .ok (.single (.int 3)) := by
  intro all graph
  have wellNamed : ∀ id, (scored.contents id).WellNamed := by
    refine Register.wellNamed ?_
    unfold Properties.WellNamed
    decide
  have settled := nested_aggregations scored (s := .fact ⟨1⟩) (fun _ => wellNamed) all false false
    0 0 (rfl : (Term.node .present [.symbol "x"]).remembers = false)
    (rfl : (Term.node .gt [.symbol "x", .literal (.int 1)]).remembers = false)
    (rfl : (Term.node .count []).remembers = false) rfl rfl
  have bodies : (graph 0 (by decide)).Alike (graph 1 (by decide)) [([1, 1], [1])] := by
    refine TermGraph.alike_of_nodes rfl rfl fun part mem => ?_
    rw [List.mem_singleton.mp mem]
    rintro t ⟨⟩
    exact ⟨rfl, rfl⟩
  have bodies' : (graph 2 (by decide)).Alike (graph 6 (by decide)) [([1], [])] := by
    refine TermGraph.alike_of_nodes rfl rfl fun part mem => ?_
    rw [List.mem_singleton.mp mem]
    rintro t ⟨⟩
    exact ⟨rfl, rfl⟩
  have joint : (graph 1 (by decide)).result scored false 0 (.fact ⟨1⟩) all
      = .ok (.single (.int 1)) := by decide +kernel
  have counted : (graph 6 (by decide)).result scored false 0 (.fact ⟨1⟩) all
      = .ok (.single (.int 3)) := by decide +kernel
  refine ⟨wellNamed, ?_, (settled.2 _ _ rfl rfl bodies' rfl).trans counted⟩
  rcases settled.1 _ _ rfl rfl bodies with ⟨d, given, given'⟩ | ⟨e, _, failed, _⟩
  · rw [Except.ok.inj (joint.symm.trans given)]
    exact given'
  · cases joint.symm.trans failed

end Term

end Annals
