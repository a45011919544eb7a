import Annals.Proofs.Eval.Meaning
import Annals.Proofs.Eval.Places

/-!
# What the operand had on the subject before

`(prev e)` gives the value that `e` had on the subject before, and remembers the value that it has
now. It is the only operator with a state, and its results are kept like all others. So a subject
that was answered is answered again from what is kept, without a look at `e`, and such an evaluation
does not count as the one before.

* `Series` are evaluations of one such term on one subject after the other, in one pass. The operand
  may share nodes, and the value that it has is what it gives in the pass at the time.
* `Series.Step` are the three things that an evaluation can do, and `Series.step` says that one of
  them happens. The evaluation of `e` leaves alone what is kept and remembered for the node of the
  term, because this node is not inside of itself.
* `Series.kept_eq_some_iff` and `Series.memory_cases` say what is kept and what is remembered after
  any number of evaluations, and `Series.answers_preceding` is what comes of both.
* `Series.value_unshared`: if no nodes are shared, the value of `e` is the one that it has when
  everything is computed anew. The evaluation of `e` goes on below the place of the term, where the
  pass knows what a pass for `e` alone would know (`Series.Settled`).
-/

set_option autoImplicit false

namespace Annals

/-- A term that gives the value of its operand on the subject before, evaluated on one subject after
the other in one pass. -/
structure Series where
  scene : Scene
  tracing : Bool
  sharing : Sharing
  /-- The number of the term in the pass. -/
  root : Nat
  /-- The views with lower numbers are not of the making of the pass. -/
  vacant : Nat
  operand : Operand Term
  all : List FactId
  subjects : Nat → Subject

namespace Series

variable (σ : Series)

/-- The evaluation on the subject of an index. -/
def evaluation (i : Nat) : Memo Datum :=
  (Term.node .prev [σ.operand]).evaluateWith σ.scene ((Memo.strategy σ.tracing).shared σ.sharing)
    (.root σ.root) (σ.subjects i) σ.all

/-- The pass before the evaluation of an index. -/
def pass : Nat → Pass
  | 0 => .start σ.vacant
  | i + 1 => ((σ.evaluation i).run (pass i)).2

def answer (i : Nat) : Except Error Datum := ((σ.evaluation i).run (σ.pass i)).1

/-- The evaluation of the operand on the subject of an index. -/
def resolution (i : Nat) : Memo Datum :=
  Term.resolve σ.scene ((Memo.strategy σ.tracing).shared σ.sharing) σ.operand
    ((Address.root σ.root).operand 0) (σ.subjects i) σ.all

/-- What the operand gives on the subject of an index, in the pass at the time. -/
def value (i : Nat) : Except Error Datum := ((σ.resolution i).run (σ.pass i).missed).1

def identity (i : Nat) : Identity := (σ.subjects i).identity

/-- The node of the term. -/
def node : Address := σ.sharing.node (.root σ.root)

/-- The value that is remembered before the evaluation of an index. -/
def memory (i : Nat) : Option Datum := (σ.pass i).remembered.lookup σ.node

/-- The answer that is kept for a subject before the evaluation of an index. -/
def kept (i : Nat) (identity : Identity) : Option Datum :=
  (σ.pass i).results.lookup (.onSubject σ.node identity)

def Succeeds (i : Nat) : Prop := ∃ d, σ.answer i = .ok d

/-- The subject was answered before. -/
def Repeats (i : Nat) : Prop := ∃ j < i, σ.identity j = σ.identity i ∧ σ.Succeeds j

/-- The subject is answered, and was not answered before. -/
def Advances (i : Nat) : Prop := σ.Succeeds i ∧ ¬σ.Repeats i

/-- The last evaluation before the one of an index that was not a repetition and did not fail. -/
structure Latest (j i : Nat) : Prop where
  before : j < i
  advances : σ.Advances j
  since : ∀ k, j < k → k < i → ¬σ.Advances k

/-! ### One evaluation -/

/-- What the evaluation of an index does to the pass, where `next` is the pass after the operand was
evaluated. -/
inductive Move (i : Nat) (next : Pass) : Prop
  /-- The answer is there. -/
  | recalls (d : Datum) (found : σ.kept i (σ.identity i) = some d) (answer : σ.answer i = .ok d)
      (after : σ.pass (i + 1) = (σ.pass i).hit)
  | fails (e : Error) (absent : σ.kept i (σ.identity i) = none) (value : σ.value i = .error e)
      (answer : σ.answer i = .error (e.within (Term.node .prev [σ.operand]).text))
      (after : σ.pass (i + 1) = next)
  /-- The value of the operand is remembered, and the one before is answered and kept. -/
  | advances (v before : Datum) (absent : σ.kept i (σ.identity i) = none)
      (value : σ.value i = .ok v) (latest : (next.remembered.lookup σ.node).getD .nil = before)
      (answer : σ.answer i = .ok before) (numbers : (σ.pass (i + 1)).nextVacant = next.nextVacant)
      (remembered : (σ.pass (i + 1)).remembered = (σ.node, v) :: next.remembered)
      (results : (σ.pass (i + 1)).results
        = (.onSubject σ.node (σ.identity i), before) :: next.results)

/-- What the evaluation of an index does to what is kept and remembered for the term. -/
inductive Step (i : Nat) : Prop
  /-- The answer is there, and nothing changes. -/
  | recalls (d : Datum) (found : σ.kept i (σ.identity i) = some d) (answer : σ.answer i = .ok d)
      (memory : σ.memory (i + 1) = σ.memory i) (kept : σ.kept (i + 1) = σ.kept i)
  /-- The operand fails, and nothing changes. -/
  | fails (e e' : Error) (absent : σ.kept i (σ.identity i) = none) (value : σ.value i = .error e)
      (answer : σ.answer i = .error e') (memory : σ.memory (i + 1) = σ.memory i)
      (kept : σ.kept (i + 1) = σ.kept i)
  /-- The value of the operand takes the place of the one that is remembered. -/
  | advances (v : Datum) (absent : σ.kept i (σ.identity i) = none) (value : σ.value i = .ok v)
      (answer : σ.answer i = .ok ((σ.memory i).getD .nil)) (memory : σ.memory (i + 1) = some v)
      (kept : ∀ identity, σ.kept (i + 1) identity =
        if identity = σ.identity i then some ((σ.memory i).getD .nil) else σ.kept i identity)

variable {σ}

/-- The evaluation answers for the node of the term, or lets the operand be evaluated first. -/
theorem run_evaluation (i : Nat) : (σ.evaluation i).run (σ.pass i)
    = ((Memo.strategy σ.tracing).answer (.node .prev [σ.operand]) σ.node (σ.subjects i)
        (Term.named (.node .prev [σ.operand]) do
          (Memo.strategy σ.tracing).exchange σ.node (← σ.resolution i))).run (σ.pass i) := rfl

theorem move (i : Nat) : σ.Move i ((σ.resolution i).run (σ.pass i).missed).2 := by
  have ran := run_evaluation (σ := σ) i
  have key : Key.of (.node .prev [σ.operand]) σ.node (σ.subjects i)
      = .onSubject σ.node (σ.identity i) := rfl
  rw [Memo.run_answer, key] at ran
  cases found : σ.kept i (σ.identity i) with
  | some d =>
    have here : (σ.pass i).results.lookup (.onSubject σ.node (σ.identity i)) = some d := found
    rw [here] at ran
    exact .recalls d found (congrArg Prod.fst ran) (congrArg Prod.snd ran)
  | none =>
    have here : (σ.pass i).results.lookup (.onSubject σ.node (σ.identity i)) = none := found
    rw [here, Memo.run_named, Memo.run_bind] at ran
    rcases resolved : (σ.resolution i).run (σ.pass i).missed with ⟨value, next⟩
    have given : σ.value i = value := congrArg Prod.fst resolved
    rw [resolved] at ran
    cases value with
    | error e =>
      have after : σ.pass (i + 1) = next := congrArg Prod.snd ran
      exact .fails e found given (congrArg Prod.fst ran) after
    | ok v =>
      have answer := congrArg Prod.fst ran
      have after : σ.pass (i + 1) = _ := congrArg Prod.snd ran
      refine .advances v _ found given rfl answer ?_ ?_ ?_
      all_goals
        rw [after]
        cases σ.tracing <;> rfl

/-- The operand leaves alone what is kept and remembered for the node of the term. -/
theorem resolution_leaves (i : Nat) (pass : Pass) :
    (((σ.resolution i).run pass).2.remembered.lookup σ.node = pass.remembered.lookup σ.node) ∧
      ∀ identity, ((σ.resolution i).run pass).2.results.lookup (.onSubject σ.node identity)
        = pass.results.lookup (.onSubject σ.node identity) :=
  ⟨Term.leaves_operand (Memo.strategy_spares_remembered σ.tracing σ.node) σ.operand 0
      (σ.subjects i) σ.all pass,
    fun identity => Term.leaves_operand
      (Memo.strategy_spares σ.tracing (.onSubject σ.node identity)) σ.operand 0 (σ.subjects i)
      σ.all pass⟩

/-- One of the three happens. -/
theorem step (i : Nat) : σ.Step i := by
  obtain ⟨memory, kept⟩ := σ.resolution_leaves i (σ.pass i).missed
  have same : ∀ {next : Pass}, σ.pass (i + 1) = next →
      next.remembered.lookup σ.node = σ.memory i →
      (∀ identity, next.results.lookup (.onSubject σ.node identity) = σ.kept i identity) →
      σ.memory (i + 1) = σ.memory i ∧ σ.kept (i + 1) = σ.kept i := by
    rintro next rfl remembered results
    exact ⟨remembered, funext results⟩
  cases σ.move i with
  | recalls d found answer after =>
    obtain ⟨memory, kept⟩ := same after rfl fun _ => rfl
    exact .recalls d found answer memory kept
  | fails e absent value answer after =>
    obtain ⟨memory, kept⟩ := same after memory kept
    exact .fails e _ absent value answer memory kept
  | advances v before absent value latest answer numbers remembered results =>
    have before_eq : before = (σ.memory i).getD .nil := by
      rw [← latest, memory]
      rfl
    refine .advances v absent value (before_eq ▸ answer) ?_ fun identity => ?_
    · rw [Series.memory, remembered, List.lookup_cons_self]
    · rw [Series.kept, results, ← before_eq]
      split
      · next same => rw [same, List.lookup_cons_self]
      · next other =>
        rw [lookup_cons_of_ne fun key => other (Key.onSubject.inj key).2, kept]
        rfl

/-! ### All evaluations -/

/-- What is kept for a subject is what any evaluation on it has answered. -/
theorem kept_eq_some_iff (i : Nat) {identity : Identity} {d : Datum} :
    σ.kept i identity = some d ↔ ∃ j < i, σ.identity j = identity ∧ σ.answer j = .ok d := by
  induction i generalizing identity d with
  | zero => simp [kept, pass, Pass.start]
  | succ i ih =>
    have earlier : (∃ j < i + 1, σ.identity j = identity ∧ σ.answer j = .ok d)
        ↔ (∃ j < i, σ.identity j = identity ∧ σ.answer j = .ok d)
          ∨ (σ.identity i = identity ∧ σ.answer i = .ok d) := by
      simp only [Nat.lt_succ_iff_lt_or_eq, or_and_right, exists_or, exists_eq_left]
    rw [earlier, ← ih]
    cases σ.step i with
    | recalls c found answer memory kept =>
      rw [kept, answer]
      refine ⟨.inl, ?_⟩
      rintro (found | ⟨rfl, same⟩)
      · exact found
      · rw [found, Except.ok.inj same]
    | fails e e' absent value answer memory kept =>
      rw [kept, answer]
      exact ⟨.inl, fun either => either.elim id fun ⟨_, failed⟩ => nomatch failed⟩
    | advances v absent value answer memory kept =>
      rw [kept, answer]
      split
      · next here =>
        rw [here, absent]
        simp [Except.ok.injEq]
      · next other =>
        exact ⟨.inl, fun either => either.elim id fun ⟨here, _⟩ => absurd here.symm other⟩

theorem repeats_iff (i : Nat) : σ.Repeats i ↔ ∃ d, σ.kept i (σ.identity i) = some d := by
  simp only [kept_eq_some_iff, Repeats, Succeeds]
  constructor
  · rintro ⟨j, before, same, d, answer⟩
    exact ⟨d, j, before, same, answer⟩
  · rintro ⟨d, j, before, same, answer⟩
    exact ⟨j, before, same, d, answer⟩

/-- What is remembered is the value that the operand had on the latest subject, if there was one. -/
theorem memory_cases (i : Nat) : (σ.memory i = none ∧ ∀ j < i, ¬σ.Succeeds j) ∨
    ∃ j v, σ.Latest j i ∧ σ.value j = .ok v ∧ σ.memory i = some v := by
  induction i with
  | zero => exact .inl ⟨rfl, fun j before => absurd before (Nat.not_lt_zero j)⟩
  | succ i ih =>
    -- what was the latest stays so unless the evaluation goes on to a new subject
    have stays : ¬σ.Advances i → ∀ {j}, σ.Latest j i → σ.Latest j (i + 1) := by
      intro other j latest
      refine ⟨Nat.lt_succ_of_lt latest.before, latest.advances, fun k after before => ?_⟩
      rcases Nat.lt_succ_iff_lt_or_eq.mp before with before | rfl
      · exact latest.since k after before
      · exact other
    cases σ.step i with
    | recalls d found answer memory kept =>
      have repeats : σ.Repeats i := (repeats_iff i).mpr ⟨d, found⟩
      rw [memory]
      rcases ih with ⟨-, none⟩ | ⟨j, v, latest, value, held⟩
      · obtain ⟨j, before, -, succeeds⟩ := repeats
        exact absurd succeeds (none j before)
      · exact .inr ⟨j, v, stays (fun advances => advances.2 repeats) latest, value, held⟩
    | fails e e' absent value answer memory kept =>
      have fails : ¬σ.Succeeds i := fun ⟨d, given⟩ => nomatch answer.symm.trans given
      rw [memory]
      rcases ih with ⟨empty, none⟩ | ⟨j, v, latest, value, held⟩
      · refine .inl ⟨empty, fun j before => ?_⟩
        rcases Nat.lt_succ_iff_lt_or_eq.mp before with before | rfl
        · exact none j before
        · exact fails
      · exact .inr ⟨j, v, stays (fun advances => fails advances.1) latest, value, held⟩
    | advances v absent value answer memory kept =>
      have new : ¬σ.Repeats i := by
        rw [repeats_iff, absent]
        exact fun ⟨d, found⟩ => nomatch found
      refine .inr ⟨i, v, ⟨Nat.lt_succ_self i, ⟨⟨_, answer⟩, new⟩, fun k after before => ?_⟩, value,
        memory⟩
      omega

/-! ### Without shared nodes -/

end Series

/-- An identity stands for itself in two passes that number views from the same number on. -/
theorem Identity.Displaced.refl (k : Nat) (i : Identity) : i.Displaced k k i := by
  cases i with
  | fact id => exact .fact id
  | vacant number =>
    by_cases before : number < k
    · exact .known before before
    · have number_eq : number = k + (number - k) := by omega
      rw [number_eq]
      exact .new (number - k)

/-- The place of a term is not below one of its operands. -/
theorem Address.root_ne_below (root i : Nat) (path : List Nat) :
    Address.root root ≠ ((Address.root root).operand i).below path := by
  intro same
  have lengths := congrArg (fun address => address.path.length) same
  simp [below, operand, Address.root] at lengths

/-- What is kept and remembered at other places does not matter. -/
theorem Pass.Displaced.elsewhere {base base' : Address} {k k' : Nat} {pass pass' next : Pass}
    (h : Displaced base base' k k' pass pass') (numbers : next.nextVacant = pass.nextVacant)
    (results : ∀ key path, key.address = base.below path →
      next.results.lookup key = pass.results.lookup key)
    (remembered : ∀ path,
      next.remembered.lookup (base.below path) = pass.remembered.lookup (base.below path)) :
    Displaced base base' k k' next pass' := by
  refine ⟨by rw [numbers]; exact h.numbers, fun key key' same => ?_, fun path => ?_⟩
  · rw [← h.results key key' same]
    cases same with
    | onSubject path _ => exact results _ path rfl
    | overAll path => exact results _ path rfl
  · rw [remembered, h.remembered]

namespace Series

variable (σ : Series)

/-- Below the operand the pass knows what a pass for the operand alone knows. -/
def Settled (parameters : Option Backing) (pass : Pass) : Prop :=
  ∀ t, σ.operand = .term t → ∃ pass',
    Pass.Displaced ((Address.root σ.root).operand 0) (.root σ.root) σ.vacant σ.vacant pass pass' ∧
      pass'.Faithful σ.scene ⟨parameters, σ.all⟩ t

variable {σ} {parameters : Option Backing} {i : Nat}

theorem settled_start : σ.Settled parameters (.start σ.vacant) := by
  intro t _
  refine ⟨.start σ.vacant, ?_, ?_⟩
  · exact (Pass.untouched_start _ σ.vacant).displaced (Pass.untouched_start _ σ.vacant)
  · intro key d kept
    cases kept

theorem Settled.elsewhere {pass next : Pass} (settled : σ.Settled parameters pass)
    (numbers : next.nextVacant = pass.nextVacant)
    (results : ∀ key : Key, key.address ≠ .root σ.root →
      next.results.lookup key = pass.results.lookup key)
    (remembered : ∀ address, address ≠ .root σ.root →
      next.remembered.lookup address = pass.remembered.lookup address) :
    σ.Settled parameters next := by
  intro t isTerm
  obtain ⟨pass', displaced, faithful⟩ := settled t isTerm
  have below := fun path => (Address.root_ne_below σ.root 0 path).symm
  refine ⟨pass', displaced.elsewhere numbers (fun key path here => ?_) (fun path => ?_), faithful⟩
  · exact results key (by rw [here]; exact below path)
  · exact remembered _ (below path)

section Unshared

variable (unshared : σ.sharing = .none) (shared : ∀ i, (σ.subjects i).parameters = parameters)
variable (memoryless : Term.anyOperatorOf (· == .prev) σ.operand = false)

include unshared shared memoryless

/-- The operand gives what it gives anew. -/
theorem Settled.resolution {pass : Pass} (settled : σ.Settled parameters pass) (i : Nat) :
    ((σ.resolution i).run pass).1 = Term.given σ.scene (σ.subjects i) σ.all σ.operand ∧
      σ.Settled parameters ((σ.resolution i).run pass).2 := by
  have plain : σ.resolution i = Term.resolve σ.scene (Memo.strategy σ.tracing) σ.operand
      ((Address.root σ.root).operand 0) (σ.subjects i) σ.all := by
    rw [Series.resolution, unshared]
    rfl
  rw [plain]
  cases here : σ.operand with
  | literal v => exact ⟨rfl, settled⟩
  | symbol name => exact ⟨rfl, settled⟩
  | term t =>
    obtain ⟨pass', displaced, faithful⟩ := settled t here
    rw [here] at memoryless
    obtain ⟨same, displaced, -⟩ :=
      (Term.relocated σ.tracing ((Address.root σ.root).operand 0) (.root σ.root) σ.vacant σ.vacant
        (rfl : σ.scene.registry = _) rfl).evaluateWith_matches t
        ⟨⟨[], rfl, rfl⟩, .refl _ (σ.subjects i).identity, rfl⟩ pass pass' displaced
    obtain ⟨result, faithful⟩ := Term.evaluate_faithful σ.scene σ.tracing ⟨parameters, σ.all⟩ t
      memoryless σ.root (shared i) faithful
    refine ⟨same.trans result, fun u isTerm => ?_⟩
    obtain rfl : t = u := Operand.term.inj (here.symm.trans isTerm)
    exact ⟨_, displaced, faithful⟩

theorem settled (i : Nat) : σ.Settled parameters (σ.pass i) := by
  have node : σ.node = .root σ.root := by
    rw [Series.node, unshared]
    rfl
  induction i with
  | zero => exact settled_start
  | succ i ih =>
    have missed : σ.Settled parameters (σ.pass i).missed :=
      ih.elsewhere rfl (fun _ _ => rfl) fun _ _ => rfl
    have settledNext := (missed.resolution unshared shared memoryless i).2
    cases σ.move i with
    | recalls d found answer after =>
      rw [after]
      exact ih.elsewhere rfl (fun _ _ => rfl) fun _ _ => rfl
    | fails e absent value answer after =>
      rw [after]
      exact settledNext
    | advances v before absent value latest answer numbers remembered results =>
      rw [node] at remembered results
      refine settledNext.elsewhere numbers (fun key other => ?_) fun address other => ?_
      · rw [results]
        exact lookup_cons_of_ne fun key => other (by rw [key]; rfl)
      · rw [remembered, lookup_cons_of_ne other]

/-- Where every place has a node of its own, and all subjects have their parameters from the same
backing or have none, the value of the operand in the pass is the one that is computed anew. -/
theorem value_unshared (i : Nat) :
    σ.value i = Term.given σ.scene (σ.subjects i) σ.all σ.operand := by
  have missed : σ.Settled parameters (σ.pass i).missed :=
    (settled unshared shared memoryless i).elsewhere rfl (fun _ _ => rfl) fun _ _ => rfl
  exact (missed.resolution unshared shared memoryless i).1

end Unshared

/-- In any series of evaluations of `(prev e)`, on any subjects and with any nodes shared:

* the first evaluation that succeeds gives nothing;
* one that succeeds later, on a subject that was not answered before, gives the value that `e` had
  on the latest subject, which is the one whose evaluation was not a repetition and did not fail;
* on a subject that was answered the same answer is given again, and what is remembered stays;
* what is remembered stays after a failure, and only a failure of `e` makes an evaluation fail.

The value of `e` is what it gives in the pass at the time. If no nodes are shared, the subjects have
their parameters from the same backing or have none, and `e` remembers nothing, it is what `e` gives
when everything is computed anew. -/
theorem answers_preceding (σ : Series) (i : Nat) :
    ((∀ j < i, ¬σ.Succeeds j) → σ.Succeeds i → σ.answer i = .ok .nil) ∧
      (σ.Advances i → (∃ j < i, σ.Succeeds j) →
        ∃ j v, σ.Latest j i ∧ σ.value j = .ok v ∧ σ.answer i = .ok v) ∧
      (∀ j < i, σ.identity j = σ.identity i → ∀ d, σ.answer j = .ok d →
        σ.answer i = .ok d ∧ σ.memory (i + 1) = σ.memory i) ∧
      (¬σ.Succeeds i → σ.memory (i + 1) = σ.memory i ∧ ∀ v, σ.value i ≠ .ok v) ∧
      ∀ parameters, σ.sharing = .none → (∀ i, (σ.subjects i).parameters = parameters) →
        Term.anyOperatorOf (· == .prev) σ.operand = false →
        σ.value i = Term.given σ.scene (σ.subjects i) σ.all σ.operand := by
  have kept : ∀ {identity d}, σ.kept i identity = some d
      ↔ ∃ j < i, σ.identity j = identity ∧ σ.answer j = .ok d :=
    σ.kept_eq_some_iff i
  have memory := σ.memory_cases i
  have new := σ.repeats_iff i
  have anew : ∀ parameters, σ.sharing = .none → (∀ i, (σ.subjects i).parameters = parameters) →
      Term.anyOperatorOf (· == .prev) σ.operand = false →
      σ.value i = Term.given σ.scene (σ.subjects i) σ.all σ.operand :=
    fun _ unshared shared memoryless => σ.value_unshared unshared shared memoryless i
  cases σ.step i with
  | recalls d found answer same =>
    obtain ⟨j, before, here, given⟩ := kept.mp found
    refine ⟨fun none => absurd ⟨d, given⟩ (none j before), fun advances => ?_,
      fun k earlier identity c given => ?_, fun fails => absurd ⟨d, answer⟩ fails, anew⟩
    · exact absurd (new.mpr ⟨d, found⟩) advances.2
    · have again := kept.mpr ⟨k, earlier, identity, given⟩
      rw [found, Option.some_inj] at again
      rw [← again]
      exact ⟨answer, same⟩
  | fails e e' absent value answer same =>
    have fails : ¬σ.Succeeds i := fun ⟨d, given⟩ => nomatch answer.symm.trans given
    refine ⟨fun _ succeeds => absurd succeeds fails, fun advances => absurd advances.1 fails,
      fun k earlier identity c given => ?_, fun _ => ⟨same, fun v given => ?_⟩, anew⟩
    · have again := kept.mpr ⟨k, earlier, identity, given⟩
      cases absent.symm.trans again
    · cases value.symm.trans given
  | advances v absent value answer now =>
    refine ⟨fun none _ => ?_, fun _ earlier => ?_, fun k earlier identity c given => ?_,
      fun fails => absurd ⟨_, answer⟩ fails, anew⟩
    · rcases memory with ⟨empty, -⟩ | ⟨j, -, latest, -⟩
      · rw [answer, empty]
        rfl
      · exact absurd latest.advances.1 (none j latest.before)
    · obtain ⟨k, before, succeeds⟩ := earlier
      rcases memory with ⟨-, none⟩ | ⟨j, w, latest, value, held⟩
      · exact absurd succeeds (none k before)
      · refine ⟨j, w, latest, value, ?_⟩
        rw [answer, held]
        rfl
    · have again := kept.mpr ⟨k, earlier, identity, given⟩
      cases absent.symm.trans again

/-- The term `(prev (either (at i x) (at i x)))` with the terms in it, where there is one node for
`(at i x)`. -/
def either : List Node :=
  let index : Node := .mk 0 .nth [.symbol "i", .symbol "x"]
  let first : Node := .mk 1 .either [.term index, .term index]
  [.mk 2 .prev [.term first], first, index]

theorem made_either : Node.Made 3 either := by
  refine .new (.new (.new .none ?_) ?_) ?_ <;> simp

/-- The term on the first of three facts, on the second one, which has no `i`, on the first one
again, and then on the third one. -/
def indexed : Series where
  scene := ⟨.empty, Register.contents ⟨#[⟨⟨[("i", [.int 0]), ("x", [.int 7])]⟩, []⟩,
    ⟨⟨[("x", [.int 8])]⟩, []⟩, ⟨⟨[("i", [.int 0]), ("x", [.int 9])]⟩, []⟩]⟩⟩
  tracing := false
  sharing := .ofNodes made_either
  root := 0
  vacant := 0
  operand := .term (Node.term either[1])
  all := [⟨0⟩, ⟨1⟩, ⟨2⟩]
  subjects i := [.fact ⟨0⟩, .fact ⟨1⟩, .fact ⟨0⟩].getD i (.fact ⟨2⟩)

/-- The third fact is given the value of the first one, after a failure and a repetition. -/
theorem answers_preceding_indexed : indexed.answer 0 = .ok .nil ∧ ¬indexed.Succeeds 1 ∧
    indexed.answer 2 = .ok .nil ∧ indexed.memory 3 = indexed.memory 2 ∧
    ∃ j v, indexed.Latest j 3 ∧ indexed.value j = .ok v ∧ indexed.answer 3 = .ok v ∧
      v = .single (.int 7) := by
  have given : indexed.answer 0 = .ok .nil := by decide +kernel
  have failed : ¬indexed.Succeeds 1 := by
    rintro ⟨d, succeeded⟩
    have nothing : (indexed.answer 1).toOption = none := by decide +kernel
    rw [succeeded] at nothing
    cases nothing
  have last : indexed.answer 3 = .ok (.single (.int 7)) := by decide +kernel
  have new : ¬indexed.Repeats 3 := by
    rintro ⟨j, before, same, -⟩
    match j with
    | 0 | 1 | 2 => cases same
  obtain ⟨again, unchanged⟩ := (answers_preceding indexed 2).2.2.1 0 (by decide) rfl .nil given
  obtain ⟨j, v, latest, value, answer⟩ :=
    (answers_preceding indexed 3).2.1 ⟨⟨_, last⟩, new⟩ ⟨0, by decide, .nil, given⟩
  refine ⟨given, failed, again, unchanged, j, v, latest, value, answer, ?_⟩
  exact Except.ok.inj (answer.symm.trans last)

end Series

end Annals
