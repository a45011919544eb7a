import Annals.Proofs.Eval.Meaning
import Annals.Proofs.Eval.Places

/-!
# What matters of all that a pass keeps

A pass keeps results for nodes and subjects, and a node may stand in several places: outside of an
aggregation and inside of it, where the facts are others. There a result is given again that would
be another one if it was computed anew. But only aggregates look at the facts, and their results are
kept for their nodes alone. So once the results of the aggregates in a term are known, the term
gives the same whatever the facts are, and it does not matter whether its own result was kept.

An evaluation that keeps results of aggregates only, and of these not on which subject they were
computed, gives what the evaluation in a pass gives. Other than in a pass it does not matter there
what subjects the terms were evaluated on before, or in which order.

* A `Digest` is what is known of aggregates, and `Digested.strategy` the evaluation that keeps it.
* `Term.recalling_of_ended` shows that an evaluation which has ended can be done again from what is
  known by then, by looking up the aggregates (`Digest.recalling`), and `Term.ended_of_recalling`
  that doing so needs nothing else.
* `Pass.Told` says that a pass keeps nothing that could not be had from a digest in this way.
* `Term.digested` shows that evaluations keep this, and `TermGraph.result_eq_digested` is what comes
  of it for a term in a pass of its own.
-/

set_option autoImplicit false

namespace Annals

/-! ### Digests -/

/-- Results of aggregates, by their nodes. -/
abbrev Digest := Address → Option Datum

namespace Digest

def empty : Digest := fun _ => none

/-- Keep a result for a node, unless there is one already. -/
def learn (known : Digest) (node : Address) (d : Datum) : Digest := fun other =>
  (known other).or (if other = node then some d else none)

/-- What is known is still known later. -/
def Grows (known later : Digest) : Prop := ∀ node d, known node = some d → later node = some d

variable {known later last : Digest} {node other : Address} {d : Datum}

theorem learn_self : known.learn node d node = some ((known node).getD d) := by
  cases found : known node <;> simp [learn, found]

theorem learn_other (apart : other ≠ node) : known.learn node d other = known other := by
  simp [learn, apart]

theorem Grows.refl (known : Digest) : known.Grows known := fun _ _ found => found

theorem Grows.trans (first : known.Grows later) (second : later.Grows last) : known.Grows last :=
  fun node d found => second node d (first node d found)

theorem grows_learn (known : Digest) (node : Address) (d : Datum) :
    known.Grows (known.learn node d) := by
  intro other d' found
  simp [learn, found]

/-- The evaluation that looks up aggregates in a digest, and computes everything else anew. It fails
where an aggregate is not known. -/
def recalling (known : Digest) : Strategy (Except Error) where
  answer t address _ action :=
    if t.op.isAggregate then
      match known address with
      | some d => .ok d
      | none => .error .pattern
    else action
  exchange _ _ := .ok .nil
  report _ := .ok ()
  vacant := .ok (.vacant 0)

theorem recalls_recalling (known : Digest) (sharing : Sharing) :
    ((recalling known).shared sharing).Recalls := by
  intro t a s x y aggregate
  simp only [Strategy.shared, recalling, aggregate, if_true]

end Digest

/-- A computation with a digest. -/
abbrev Digested := ExceptT Error (StateM Digest)

namespace Digested

/-- The evaluation that keeps the results of aggregates, by their nodes, and nothing else. The
result of an aggregate is what is then kept for it; this is what was computed, unless the node is
inside of itself. -/
def strategy : Strategy Digested where
  answer t address _ action :=
    if t.op.isAggregate then fun known =>
      match known address with
      | some d => (.ok d, known)
      | none =>
        match action.run known with
        | (.ok d, later) => (.ok ((later address).getD d), later.learn address d)
        | (.error e, later) => (.error e, later)
    else action
  exchange _ _ := pure .nil
  report _ := pure ()
  vacant := pure (.vacant 0)

variable {t : Term} {address : Address} {s : Subject} {known : Digest} (action : Digested Datum)

theorem answer_plain (plain : t.op.isAggregate = false) :
    strategy.answer t address s action = action := by
  simp only [strategy, plain, Bool.false_eq_true, if_false]

theorem run_answer_known (aggregate : t.op.isAggregate = true) {d : Datum}
    (found : known address = some d) :
    (strategy.answer t address s action).run known = (.ok d, known) := by
  simp only [strategy, aggregate, if_true, ExceptT.run, found]

theorem run_answer_new (aggregate : t.op.isAggregate = true) (new : known address = none) :
    (strategy.answer t address s action).run known = match action.run known with
      | (.ok d, later) => (.ok ((later address).getD d), later.learn address d)
      | (.error e, later) => (.error e, later) := by
  simp only [strategy, aggregate, if_true, ExceptT.run, new]

/-- What is learnt of other nodes leaves what is known of a node as it is. -/
theorem strategy_spares (own : Address) : strategy.Spares (fun known => known own) own where
  report _ _ := rfl
  vacant _ := rfl
  exchange _ _ _ _ := rfl
  answer t address s x other leaves := by
    cases aggregate : t.op.isAggregate with
    | false => rwa [answer_plain x aggregate]
    | true =>
      intro known
      cases found : known address with
      | some d => rw [run_answer_known x aggregate found]
      | none =>
        rw [run_answer_new x aggregate found]
        have left := leaves known
        cases ended : x.run known with
        | mk result later =>
          rw [ended] at left
          cases result with
          | error e => exact left
          | ok d => exact (Digest.learn_other other).trans left

end Digested

/-! ### Doing an evaluation again from what is known -/

namespace Simulation

/-- What ends with a digest can be done again from any later one without computing an aggregate. -/
def retelling (later : Digest) : Simulation (Except Error) Digested where
  Matches r b := ∀ known : Digest, known.Grows (b.run known).2 ∧
    ∀ x, (b.run known).1 = .ok x → (b.run known).2.Grows later → r = .ok x
  Gives b x := ∃ known, (b.run known).1 = .ok x
  Fronts i j := i = j
  pure_matches x known := ⟨.refl known, fun y same _ => same⟩
  throw_matches e known := ⟨.refl known, fun x same _ => nomatch same⟩
  bind_matches := by
    intro α β r b f g first rest known
    obtain ⟨grows, again⟩ := first known
    rw [Memo.run_bind]
    cases ended : b.run known with
    | mk result next =>
      rw [ended] at grows again
      cases result with
      | error e => exact ⟨grows, fun x same _ => nomatch same⟩
      | ok x =>
        obtain ⟨grows', again'⟩ := rest x ⟨known, congrArg Prod.fst ended⟩ next
        refine ⟨grows.trans grows', fun y given reached => ?_⟩
        rw [again x rfl (grows'.trans reached)]
        exact again' y given reached
  named_matches := by
    intro r b t same known
    obtain ⟨grows, again⟩ := same known
    rw [Memo.run_named]
    cases ended : b.run known with
    | mk result next =>
      rw [ended] at grows again
      cases result with
      | error e => exact ⟨grows, fun x same _ => nomatch same⟩
      | ok d =>
        refine ⟨grows, fun x given reached => ?_⟩
        rw [again d rfl reached]
        exact given
  gives_outcome := Memo.eq_ok_of_outcome

/-- What is done without computing an aggregate is done in the same way from the digest that it was
done from, and leaves the digest as it is. -/
def recalled (known : Digest) : Simulation (Except Error) Digested where
  Matches r b := ∀ x, r = .ok x → b.run known = (.ok x, known)
  Gives b x := (b.run known).1 = .ok x
  Fronts i j := i = j
  pure_matches := by
    rintro α x y ⟨⟩
    rfl
  throw_matches := by
    intro α e x failed
    cases failed
  bind_matches := by
    intro α β r b f g first rest y given
    cases r with
    | error e => cases given
    | ok x =>
      have ended := first x rfl
      rw [Memo.run_bind, ended]
      exact rest x (congrArg Prod.fst ended) y given
  named_matches := by
    intro r b t same d given
    cases r with
    | error e => cases given
    | ok x =>
      cases given
      rw [Memo.run_named, same d rfl]
  gives_outcome given := Memo.eq_ok_of_outcome ⟨_, given⟩

/-- What is answered for a term can be had again later. -/
theorem retelling_answer {later : Digest} {sharing : Sharing} {t : Term} {a : Address} {s : Subject}
    {x : Except Error Datum} {y : Digested Datum} (same : (retelling later).Matches x y) :
    (retelling later).Matches (((Digest.recalling later).shared sharing).answer t a s x)
      ((Digested.strategy.shared sharing).answer t a s y) := by
  intro known
  obtain ⟨grows, again⟩ := same known
  rw [Strategy.shared_answer, Strategy.shared_answer]
  cases aggregate : t.op.isAggregate with
  | false =>
    rw [Digested.answer_plain y aggregate]
    simp only [Digest.recalling, aggregate, Bool.false_eq_true, if_false]
    exact ⟨grows, again⟩
  | true =>
    simp only [Digest.recalling, aggregate, if_true]
    cases found : known (sharing.node a) with
    | some d =>
      rw [Digested.run_answer_known y aggregate found]
      refine ⟨.refl known, fun x given reached => ?_⟩
      rw [reached _ d found]
      exact given
    | none =>
      rw [Digested.run_answer_new y aggregate found]
      cases ended : y.run known with
      | mk result next =>
        rw [ended] at grows
        cases result with
        | error e => exact ⟨grows, fun x same _ => nomatch same⟩
        | ok d =>
          refine ⟨grows.trans (Digest.grows_learn next _ d), fun x given reached => ?_⟩
          rw [reached _ _ Digest.learn_self]
          exact given

/-- What is known of an aggregate is answered, and no aggregate is computed. -/
theorem recalled_answer {known : Digest} {sharing : Sharing} {t : Term} {a : Address} {s : Subject}
    {x : Except Error Datum} {y : Digested Datum} (same : (recalled known).Matches x y) :
    (recalled known).Matches (((Digest.recalling known).shared sharing).answer t a s x)
      ((Digested.strategy.shared sharing).answer t a s y) := by
  intro d given
  rw [Strategy.shared_answer] at given ⊢
  cases aggregate : t.op.isAggregate with
  | false =>
    simp only [Digest.recalling, aggregate, Bool.false_eq_true, if_false] at given
    rw [Digested.answer_plain y aggregate]
    exact same d given
  | true =>
    simp only [Digest.recalling, aggregate, if_true] at given
    cases found : known (sharing.node a) with
    | none =>
      rw [found] at given
      cases given
    | some d' =>
      rw [found] at given
      cases given
      exact Digested.run_answer_known y aggregate found

end Simulation

namespace Term

variable {scene : Scene} {sharing : Sharing} {t : Term} {a : Address} {s : Subject}
  {all : List FactId} {known later : Digest} {d : Datum}

/-- What a term gave is had again from whatever is known later. -/
theorem recalling_of_ended (memoryless : t.remembers = false)
    (ended : ((t.evaluateWith scene (Digested.strategy.shared sharing) a s all).run known).1
      = .ok d)
    (grows : ((t.evaluateWith scene (Digested.strategy.shared sharing) a s all).run known).2.Grows
      later) :
    t.evaluateWith scene ((Digest.recalling later).shared sharing) a s all = .ok d := by
  have told : (Simulation.retelling later).Matches
      (t.evaluateWith scene ((Digest.recalling later).shared sharing) a s all)
      (t.evaluateWith scene (Digested.strategy.shared sharing) a s all) :=
    (Simulation.Congruence.without (· == .prev) (rfl : scene.registry = _) rfl
      (fun _ _ same => same)
      ⟨fun _ => (Simulation.retelling later).pure_matches (), fun same => same _ _ rfl⟩
      (fun _ => (Simulation.retelling later).pure_matches Datum.nil)
      fun _ => Simulation.retelling_answer).evaluateWith_matches t ⟨rfl, rfl, memoryless⟩
  exact (told known).2 d ended grows

/-- What can be had from what is known is given without learning anything. -/
theorem ended_of_recalling (memoryless : t.remembers = false)
    (recalls : t.evaluateWith scene ((Digest.recalling known).shared sharing) a s all = .ok d) :
    (t.evaluateWith scene (Digested.strategy.shared sharing) a s all).run known
      = (.ok d, known) := by
  have told : (Simulation.recalled known).Matches
      (t.evaluateWith scene ((Digest.recalling known).shared sharing) a s all)
      (t.evaluateWith scene (Digested.strategy.shared sharing) a s all) :=
    (Simulation.Congruence.without (· == .prev) (rfl : scene.registry = _) rfl
      (fun _ _ same => same)
      ⟨fun _ => (Simulation.recalled known).pure_matches (), fun same => same _ _ rfl⟩
      (fun _ => (Simulation.recalled known).pure_matches Datum.nil)
      fun _ => Simulation.recalled_answer).evaluateWith_matches t ⟨rfl, rfl, memoryless⟩
  exact told d recalls

/-- Looking up aggregates at places of one node, on subjects that look the same, in scenes with the
same operators and the same facts. -/
def recollected {left right : Scene} (known : Digest) {terms : Nat → Option Term}
    (fits : sharing.Fits terms) (registry : left.registry = right.registry)
    (contents : left.contents = right.contents) :
    Simulation.equality.Congruence left right ((Digest.recalling known).shared sharing)
      ((Digest.recalling known).shared sharing) where
  Related t a a' s s' _ := termAt terms a.path = some t ∧ termAt terms a'.path = some t ∧
    sharing.node a = sharing.node a' ∧ s.Alike left.contents s'
  strategies := ⟨fun _ => rfl, fun same => same _ _ rfl⟩
  registry := registry
  facts _ id _ := congrFun contents id
  symbols related _ name _ := by
    rw [← contents]
    exact related.2.2.2.lookup name
  operands related _ i u found := by
    obtain ⟨here, there, node, alike⟩ := related
    exact ⟨termAt_operand here found, termAt_operand there found,
      fits.operand here there node found, alike⟩
  selector related id _ := by
    obtain ⟨here, there, node, alike⟩ := related
    exact ⟨termAt_operand here rfl, termAt_operand there rfl, fits.operand here there node rfl,
      alike.candidate id⟩
  body related _ leads := by
    obtain ⟨here, there, node, alike⟩ := related
    rw [Simulation.eq_of_leads _ (fun _ _ same => same) leads]
    exact ⟨termAt_operand here rfl, termAt_operand there rfl, fits.operand here there node rfl,
      .view alike.handed rfl⟩
  memory _ _ := rfl
  answer {t a a' s s' all x y} related _ _ same := by
    obtain rfl : x = y := same
    show (Digest.recalling known).answer t _ s x = (Digest.recalling known).answer t _ s' x
    rw [related.2.2.1]
    rfl

/-- What is looked up for a node depends neither on its place nor on the facts. -/
theorem recalling_congr {terms : Nat → Option Term} (fits : sharing.Fits terms) {a' : Address}
    {s' : Subject} (here : termAt terms a.path = some t) (there : termAt terms a'.path = some t)
    (node : sharing.node a = sharing.node a') (alike : s.Alike scene.contents s')
    (all' : List FactId) :
    t.evaluateWith scene ((Digest.recalling known).shared sharing) a s all
      = t.evaluateWith scene ((Digest.recalling known).shared sharing) a' s' all' := by
  have same : t.evaluateWith scene ((Digest.recalling known).shared sharing) a s all
      = t.evaluateWith scene ((Digest.recalling known).shared sharing) a' s' all :=
    (recollected known fits (rfl : scene.registry = _) rfl).evaluateWith_matches t
      ⟨here, there, node, alike⟩
  rw [same]
  exact evaluateWith_single scene _ s' all all' t (.inl (Digest.recalls_recalling known sharing)) a'

end Term

/-! ### Passes and digests -/

/-- All that a pass keeps, over terms with numbers that are evaluated in front of some parameters,
can be had from a digest: the results of aggregates are in it, and all other results are those that
are given at every place of their node as soon as this much is known. -/
structure Pass.Told (scene : Scene) (sharing : Sharing) (terms : Nat → Option Term)
    (backing : Backing) (known : Digest) (pass : Pass) : Prop where
  aggregates : ∀ node, pass.results.lookup (.overAll node) = known node
  others : ∀ node identity d, pass.results.lookup (.onSubject node identity) = some d →
    ∀ place t s all later, sharing.node place = node → termAt terms place.path = some t →
      s.Carries scene.contents backing → s.identity = identity → known.Grows later →
        t.evaluateWith scene ((Digest.recalling later).shared sharing) place s all = .ok d

namespace Pass.Told

variable {scene : Scene} {sharing : Sharing} {terms : Nat → Option Term} {backing : Backing}
  {known : Digest} {pass next : Pass} {node : Address} {d : Datum}

theorem start (vacant : Nat) : Told scene sharing terms backing .empty (.start vacant) where
  aggregates _ := rfl
  others _ _ _ found := nomatch found

/-- Counts and reports do not matter. -/
theorem unrelated (told : Told scene sharing terms backing known pass)
    (results : next.results = pass.results) : Told scene sharing terms backing known next where
  aggregates := by
    rw [results]
    exact told.aggregates
  others := by
    rw [results]
    exact told.others

/-- The result of an aggregate is kept, and learnt. -/
theorem keep_aggregate (told : Told scene sharing terms backing known pass)
    (new : known node = none) (d : Datum) :
    Told scene sharing terms backing (known.learn node d) (pass.keep (.overAll node) d) where
  aggregates := by
    intro other
    by_cases same : other = node
    · rw [same, Pass.lookup_keep_self, Digest.learn_self, new]
      rfl
    · rw [Pass.lookup_keep_other fun key => same (Key.overAll.inj key), Digest.learn_other same]
      exact told.aggregates other
  others := by
    intro other identity d' found place t s all later shared here carries same grows
    rw [Pass.lookup_keep_other (by simp)] at found
    exact told.others other identity d' found place t s all later shared here carries same
      ((Digest.grows_learn known node d).trans grows)

/-- Another result is kept if it is given at every place of its node. -/
theorem keep_other (told : Told scene sharing terms backing known pass) {identity : Identity}
    (given : ∀ place t s all later, sharing.node place = node → termAt terms place.path = some t →
      s.Carries scene.contents backing → s.identity = identity → known.Grows later →
        t.evaluateWith scene ((Digest.recalling later).shared sharing) place s all = .ok d) :
    Told scene sharing terms backing known (pass.keep (.onSubject node identity) d) where
  aggregates := by
    intro other
    rw [Pass.lookup_keep_other (by simp)]
    exact told.aggregates other
  others := by
    intro other identity' d' found
    by_cases same : Key.onSubject other identity' = .onSubject node identity
    · obtain ⟨rfl, rfl⟩ := Key.onSubject.inj same
      rw [Pass.lookup_keep_self] at found
      cases found
      exact given
    · rw [Pass.lookup_keep_other same] at found
      exact told.others other identity' d' found

end Pass.Told

namespace Simulation

/-- Computations with a digest and in a pass of which all can be had from it. -/
def digesting (scene : Scene) (sharing : Sharing) (terms : Nat → Option Term) (backing : Backing) :
    Simulation Digested Memo :=
  .between (Pass.Told scene sharing terms backing) fun i j => i.fact? = none ∧ j.fact? = none

variable {scene : Scene} {sharing : Sharing} {terms : Nat → Option Term} {backing : Backing}
  {tracing : Bool} {t : Term} {a : Address} {s s' : Subject} {x : Digested Datum} {y : Memo Datum}

/-- The results of an aggregate are the same on both sides. -/
theorem digesting_aggregate (aggregate : t.op.isAggregate = true)
    (spares : Memo.Spares (Key.of t (sharing.node a) s') y)
    (same : (digesting scene sharing terms backing).Matches x y) :
    (digesting scene sharing terms backing).Matches
      ((Digested.strategy.shared sharing).answer t a s x)
      (((Memo.strategy tracing).shared sharing).answer t a s' y) := by
  have key : Key.of t (sharing.node a) s' = .overAll (sharing.node a) := by
    rw [Key.of, if_pos aggregate]
  intro known pass told
  rw [Strategy.shared_answer, Strategy.shared_answer, Memo.run_answer, key, told.aggregates]
  cases found : known (sharing.node a) with
  | some d =>
    rw [Digested.run_answer_known x aggregate found]
    exact ⟨rfl, told.unrelated rfl⟩
  | none =>
    rw [Digested.run_answer_new x aggregate found]
    obtain ⟨result, kept⟩ := same known pass.missed (told.unrelated rfl)
    have spared := spares pass.missed
    rw [key] at spared
    dsimp only
    cases run : x.run known with
    | mk r later =>
      cases run' : y.run pass.missed with
      | mk r' next =>
        rw [run, run'] at result kept
        rw [run'] at spared
        cases result
        cases r with
        | error e => exact ⟨rfl, kept⟩
        | ok d =>
          -- nothing was learnt of the node in between
          have new : later (sharing.node a) = none :=
            (kept.aggregates _).symm.trans (spared.trans ((told.aggregates _).trans found))
          dsimp only
          rw [new]
          refine ⟨rfl, Pass.Told.keep_aggregate ?_ new d⟩
          split
          · exact kept.unrelated rfl
          · exact kept

/-- Another result is computed with a digest even if the pass has kept it, or has it from another
place of the node. -/
theorem digesting_other (fits : sharing.Fits terms) (plain : t.op.isAggregate = false)
    (memoryless : t.remembers = false) (here : termAt terms a.path = some t)
    (carries : s'.Carries scene.contents backing) (alike : s.Alike scene.contents s')
    (all : List FactId)
    (computes : x = t.evaluateWith scene (Digested.strategy.shared sharing) a s all)
    (same : (digesting scene sharing terms backing).Matches x y) :
    (digesting scene sharing terms backing).Matches x
      (((Memo.strategy tracing).shared sharing).answer t a s' y) := by
  have key : Key.of t (sharing.node a) s' = .onSubject (sharing.node a) s'.identity := by
    rw [Key.of, plain]
    rfl
  intro known pass told
  rw [Strategy.shared_answer, Memo.run_answer, key]
  cases found : pass.results.lookup (.onSubject (sharing.node a) s'.identity) with
  | some d =>
    have recalls := told.others _ _ d found a t s' all known rfl here carries rfl (.refl known)
    rw [← Term.recalling_congr fits here here rfl alike all] at recalls
    rw [computes, Term.ended_of_recalling memoryless recalls]
    exact ⟨rfl, told.unrelated rfl⟩
  | none =>
    obtain ⟨result, kept⟩ := same known pass.missed (told.unrelated rfl)
    dsimp only
    cases run' : y.run pass.missed with
    | mk r' next =>
      rw [run'] at result kept
      cases r' with
      | error e => exact ⟨result, kept⟩
      | ok d =>
        refine ⟨result, Pass.Told.keep_other ?_ ?_⟩
        · split
          · exact kept.unrelated rfl
          · exact kept
        · intro place u s'' all' later shared there carries' identity grows
          obtain rfl := fits.term there here shared
          rw [computes] at result grows
          have ended := Term.recalling_of_ended memoryless result grows
          have alike' := alike.trans (carries.alike carries' identity.symm)
          rw [← ended]
          exact (Term.recalling_congr fits here there shared.symm alike' all').symm

end Simulation

namespace Term

/-- Evaluations with a digest and in a pass, of terms that remember nothing, at the same places, on
subjects that are the same but for the numbers of views without a fact. -/
def digested {left right : Scene} (tracing : Bool) {sharing : Sharing}
    {terms : Nat → Option Term} (fits : sharing.Fits terms) (backing : Backing)
    (registry : left.registry = right.registry) (contents : left.contents = right.contents) :
    (Simulation.digesting left sharing terms backing).Congruence left right
      (Digested.strategy.shared sharing) ((Memo.strategy tracing).shared sharing) where
  Related t a a' s s' _ := a = a' ∧ t.remembers = false ∧ termAt terms a.path = some t ∧
    s'.Carries left.contents backing ∧ s.parameters = s'.parameters ∧
      s.identity.fact? = s'.identity.fact?
  strategies := by
    refine ⟨fun e known pass told => ⟨rfl, told.unrelated rfl⟩,
      fun {f g} same known pass told => ?_⟩
    rw [Memo.run_bind, Memo.run_bind]
    exact same (.vacant 0) (.vacant pass.nextVacant) ⟨rfl, rfl⟩ known pass.tookVacant
      (told.unrelated rfl)
  registry := registry
  facts _ id _ := congrFun contents id
  symbols related _ name _ := by
    obtain ⟨-, -, -, -, parameters, fact⟩ := related
    rw [← contents]
    exact Subject.lookup_of_fact? fact parameters left.contents name
  operands related _ i u found := by
    obtain ⟨rfl, memoryless, here, subjects⟩ := related
    exact ⟨rfl, remembers_of_operand memoryless (List.mem_of_getElem? found),
      termAt_operand here found, subjects⟩
  selector related id _ := by
    obtain ⟨rfl, memoryless, here, carries, parameters, -⟩ := related
    rw [parameters]
    exact ⟨rfl, remembers_of_operand memoryless List.mem_cons_self, termAt_operand here rfl,
      carries.candidate id, rfl, rfl⟩
  body {t u a a' s s' all kept front front'} related _ leads := by
    obtain ⟨rfl, memoryless, here, carries, parameters, -⟩ := related
    have fronts : front.fact? = front'.fact? := by
      cases kept with
      | nil => exact leads.1.trans leads.2.symm
      | cons id rest => rw [leads.1, leads.2]
    rw [parameters]
    exact ⟨rfl, remembers_of_operand memoryless (List.mem_cons_of_mem _ List.mem_cons_self),
      termAt_operand here rfl, carries.view front', rfl, fronts⟩
  memory related := by
    have memoryless := related.2.1
    simp [remembers, anyOperator] at memoryless
  answer {t a a' s s' all x y} related computes computes' same := by
    obtain ⟨rfl, memoryless, here, carries, parameters, fact⟩ := related
    cases aggregate : t.op.isAggregate with
    | true =>
      refine Simulation.digesting_aggregate aggregate ?_ same
      rw [computes']
      exact (spares_perform (Key.address_of t (sharing.node a) s') t s' all).named t
    | false =>
      rw [Strategy.shared_answer, Digested.answer_plain x aggregate]
      refine Simulation.digesting_other fits aggregate memoryless here carries
        (.of_parameters fact parameters) all ?_ same
      rw [computes]
      cases t
      rw [evaluateWith, Strategy.shared_answer, Digested.answer_plain _ aggregate]
      rfl

end Term

/-- A term in a pass of its own gives what it gives with a digest, whatever nodes it shares. If it
is evaluated on a fact without parameters, no property may have the name of a parameter. -/
theorem TermGraph.result_eq_digested (g : TermGraph) (memoryless : g.term.remembers = false)
    (scene : Scene) (tracing : Bool) (vacant : Nat) {s : Subject}
    (named : s.parameters = none → ∀ id, (scene.contents id).WellNamed) (all : List FactId) :
    g.result scene tracing vacant s all =
      ((g.evaluateWith scene Digested.strategy s all).run .empty).1 := by
  have same : (Simulation.digesting scene g.sharing g.terms s.handed).Matches
      (g.evaluateWith scene Digested.strategy s all)
      (g.evaluateWith scene (Memo.strategy tracing) s all) :=
    (Term.digested tracing g.fits s.handed (rfl : scene.registry = _) rfl).evaluateWith_matches
      g.term ⟨rfl, memoryless, g.isTerm, .self s named, rfl, rfl⟩
  exact (same .empty (.start vacant) (.start vacant)).1.symm

end Annals
