import Annals.Proofs.Eval.Agreement

/-!
# Negations, conjunctions, disjunctions and implications

The operators of logic evaluate their operands up to the one that settles the result, take no
result for false, and fail on an operand that is no truth value. With negated operands a disjunction
stops where the conjunction does, and fails where the conjunction does. So the laws of De Morgan,
the law of implication and that of double negation hold, failures included. An error names another
term on the two sides, and nothing is said of it.

The operands may share nodes. As both sides evaluate the same operands in the same order, and stop
at the same one, what the one side has kept when it comes to an operand is what the other one has.

* `Along` relates two computations with states, where a failure is a failure whatever it is. It has
  a rule for every step that the operators of logic are made of.
* `Term.joint_negated`: operands that are negated are joined to the negation.
* `Law` lists the laws, with the places that the operands have on both sides, and `Law.along` says
  that the two sides go along with each other.
* `Term.logical_laws` is the result, for passes of their own.
-/

set_option autoImplicit false

namespace Annals

/-! ### Computations that go along with each other -/

/-- From states that belong together, two computations give results that do and leave states that
do, or both fail. -/
def Along {σ τ α β : Type} (Kept : σ → τ → Prop) (Like : α → β → Prop)
    (a : ExceptT Error (StateM σ) α) (b : ExceptT Error (StateM τ) β) : Prop :=
  ∀ s t, Kept s t →
    (∃ x y, (a.run s).1 = .ok x ∧ (b.run t).1 = .ok y ∧ Like x y ∧
      Kept (a.run s).2 (b.run t).2) ∨
    ∃ e e', (a.run s).1 = .error e ∧ (b.run t).1 = .error e'

namespace Along

variable {σ τ α β γ δ : Type} {Kept : σ → τ → Prop} {Like : α → β → Prop}
  {a : ExceptT Error (StateM σ) α} {b : ExceptT Error (StateM τ) β}

theorem of_matches {Fronts : Identity → Identity → Prop} {b : ExceptT Error (StateM τ) α}
    (same : (Simulation.between Kept Fronts).Matches a b) : Along Kept Eq a b := by
  intro s t kept
  obtain ⟨result, later⟩ := same s t kept
  cases ended : (b.run t).1 with
  | ok x => exact .inl ⟨x, x, result.trans ended, rfl, rfl, later⟩
  | error e => exact .inr ⟨e, e, result.trans ended, rfl⟩

theorem done {x : α} {y : β} (like : Like x y) :
    Along Kept Like (pure x : ExceptT Error (StateM σ) α) (pure y : ExceptT Error (StateM τ) β) :=
  fun _ _ kept => .inl ⟨x, y, rfl, rfl, like, kept⟩

theorem bind {Like' : γ → δ → Prop} {f : α → ExceptT Error (StateM σ) γ}
    {g : β → ExceptT Error (StateM τ) δ} (first : Along Kept Like a b)
    (rest : ∀ x y, Like x y → Along Kept Like' (f x) (g y)) :
    Along Kept Like' (a >>= f) (b >>= g) := by
  intro s t kept
  rw [Memo.run_bind, Memo.run_bind]
  rcases run : a.run s with ⟨r, next⟩
  rcases run' : b.run t with ⟨r', next'⟩
  have ended := first s t kept
  rw [run, run'] at ended
  rcases ended with ⟨x, y, rfl, rfl, like, later⟩ | ⟨e, e', rfl, rfl⟩
  · exact rest x y like next next' later
  · exact .inr ⟨e, e', rfl, rfl⟩

theorem imp {Like' : α → β → Prop} (along : Along Kept Like a b)
    (weaker : ∀ x y, Like x y → Like' x y) : Along Kept Like' a b := by
  intro s t kept
  rcases along s t kept with ⟨x, y, given, given', like, later⟩ | failures
  · exact .inl ⟨x, y, given, given', weaker x y like, later⟩
  · exact .inr failures

/-- A failure may be named on both sides. -/
theorem named {Like : Datum → Datum → Prop} {a : ExceptT Error (StateM σ) Datum}
    {b : ExceptT Error (StateM τ) Datum} (along : Along Kept Like a b) (t u : Term) :
    Along Kept Like (Term.named t a) (Term.named u b) := by
  intro s s' kept
  rw [Memo.run_named, Memo.run_named]
  rcases run : a.run s with ⟨r, next⟩
  rcases run' : b.run s' with ⟨r', next'⟩
  have ended := along s s' kept
  rw [run, run'] at ended
  rcases ended with ⟨x, y, rfl, rfl, like, later⟩ | ⟨e, e', rfl, rfl⟩
  · exact .inl ⟨x, y, rfl, rfl, like, later⟩
  · exact .inr ⟨_, _, rfl, rfl⟩

/-- The truth value of a term that gives a truth value. -/
theorem truth_left {f : α → Bool} {Like : Bool → β → Prop} (t : Term)
    (along : Along Kept (fun x y => Like (f x) y) a b) :
    Along Kept Like (do Operation.outcome (← Term.named t do return .bool (f (← a))).truth) b := by
  intro s s' kept
  rw [Memo.run_bind, Memo.run_named, Memo.run_bind]
  rcases run : a.run s with ⟨r, next⟩
  have ended := along s s' kept
  rw [run] at ended
  rcases ended with ⟨x, y, rfl, given, like, later⟩ | ⟨e, e', rfl, failed⟩
  · exact .inl ⟨f x, y, rfl, given, like, later⟩
  · exact .inr ⟨_, e', rfl, failed⟩

theorem truth_right {f : β → Bool} {Like : α → Bool → Prop} (t : Term)
    (along : Along Kept (fun x y => Like x (f y)) a b) :
    Along Kept Like a (do Operation.outcome (← Term.named t do return .bool (f (← b))).truth) := by
  intro s s' kept
  rw [Memo.run_bind, Memo.run_named, Memo.run_bind]
  rcases run : b.run s' with ⟨r, next⟩
  have ended := along s s' kept
  rw [run] at ended
  rcases ended with ⟨x, y, given, rfl, like, later⟩ | ⟨e, e', failed, rfl⟩
  · exact .inl ⟨x, f y, given, rfl, like, later⟩
  · exact .inr ⟨e, _, failed, rfl⟩

end Along

namespace Term

/-- The negation of an operand. -/
def negated (operand : Operand Term) : Operand Term :=
  .term (.node .not [operand])

/-- Two results are the same truth value, or both are failures. -/
def SameTruth (result result' : Except Error Datum) : Prop :=
  (∃ b, result = .ok (.bool b) ∧ result' = .ok (.bool b)) ∨
    ∃ e e', result = .error e ∧ result' = .error e'

/-! ### The operators of logic -/

section Operators

variable {m : Type → Type} [Monad m] [MonadExceptOf Error m]
variable (s : Subject) (all : List FactId)

/-- The conjunction or the disjunction of operands: the truth value that it stops at, or the other
one. -/
def joint (stop : Bool) (args : List (Argument m)) : m Bool :=
  if stop then Operation.disjunction s all args else Operation.conjunction s all args

theorem joint_nil (stop : Bool) : joint s all stop ([] : List (Argument m)) = pure !stop := by
  cases stop <;> rfl

theorem joint_cons [LawfulMonad m] (stop : Bool) (a : Argument m) (rest : List (Argument m)) :
    joint s all stop (a :: rest) = (do
      if (← Operation.truthOf s all a) = stop then pure stop else joint s all stop rest) := by
  cases stop with
  | true => rfl
  | false =>
    refine bind_congr fun b => ?_
    cases b <;> rfl

variable (scene : Scene) (sharing : Sharing) (address : Address)

/-- The truth value of an operand at a place. -/
def truthAt (operand : Operand Term) : Digested Bool :=
  Operation.truthOf s all
    ⟨operand, resolve scene (Digested.strategy.shared sharing) operand address⟩

def jointAt (stop : Bool) (position : Nat) (operands : List (Operand Term)) : Digested Bool :=
  joint s all stop (arguments scene (Digested.strategy.shared sharing) address position operands)

theorem resolve_and (operands : List (Operand Term)) :
    resolve scene (Digested.strategy.shared sharing) (.term (.node .and operands)) address s all =
      named (.node .and operands)
        (do return .bool (← jointAt s all scene sharing address false 0 operands)) := rfl

theorem resolve_or (operands : List (Operand Term)) :
    resolve scene (Digested.strategy.shared sharing) (.term (.node .or operands)) address s all =
      named (.node .or operands)
        (do return .bool (← jointAt s all scene sharing address true 0 operands)) := rfl

theorem resolve_when (a b : Operand Term) :
    resolve scene (Digested.strategy.shared sharing) (.term (.node .when [a, b])) address s all =
      named (.node .when [a, b]) (do
        if ← truthAt s all scene sharing (address.operand 0) a then
          return .bool (← truthAt s all scene sharing (address.operand 1) b)
        else return .bool true) := rfl

end Operators

/-! ### Operands of two graphs -/

section Operands

variable {pairs : Address → Address → Prop} {scene : Scene} {sharing sharing' : Sharing}
  {s : Subject} {all : List FactId} {place place' : Address}

theorem truthAt_negated {operand : Operand Term}
    (same : Along (Digest.Agrees pairs) Eq (truthAt s all scene sharing place operand)
      (truthAt s all scene sharing' (place'.operand 0) operand)) :
    Along (Digest.Agrees pairs) (fun b c => c = !b) (truthAt s all scene sharing place operand)
      (truthAt s all scene sharing' place' (negated operand)) := by
  have opposite : Along (Digest.Agrees pairs) (fun b c => (!c) = !b)
      (truthAt s all scene sharing place operand)
      (truthAt s all scene sharing' (place'.operand 0) operand) :=
    same.imp fun b c equal => by rw [equal]
  exact opposite.truth_right _

/-- Negated operands are joined to the negation: they stop where the operands stop, and fail where
these fail. -/
theorem joint_negated (stop : Bool) (operands : List (Operand Term)) (position : Nat)
    (same : ∀ i operand, operands[i]? = some operand →
      Along (Digest.Agrees pairs) Eq
        (truthAt s all scene sharing (place.operand (position + i)) operand)
        (truthAt s all scene sharing' ((place'.operand (position + i)).operand 0) operand)) :
    Along (Digest.Agrees pairs) (fun b c => c = !b)
      (jointAt s all scene sharing place stop position operands)
      (jointAt s all scene sharing' place' (!stop) position (operands.map negated)) := by
  induction operands generalizing position with
  | nil =>
    simp only [jointAt, List.map_nil, arguments, joint_nil]
    exact .done rfl
  | cons operand rest ih =>
    simp only [jointAt, List.map_cons, arguments, joint_cons]
    refine .bind (truthAt_negated (same 0 operand rfl)) ?_
    rintro b _ rfl
    by_cases stops : b = stop
    · rw [if_pos stops, if_pos (congrArg not stops)]
      exact .done rfl
    · rw [if_neg stops, if_neg fun stops' => stops (Bool.not_inj stops')]
      refine ih (position + 1) fun i operand found => ?_
      have later := same (i + 1) operand found
      rwa [show position + (i + 1) = position + 1 + i by omega] at later

end Operands

end Term

/-! ### The laws -/

/-- Two terms that have the same truth value by a law of logic, and the places of their operands in
the one and in the other. -/
inductive Law : Term → Term → List (List Nat × List Nat) → Prop
  | conjunction (operands : List (Operand Term)) :
    Law (.node .not [.term (.node .and operands)]) (.node .or (operands.map Term.negated))
      ((List.range operands.length).map fun i => ([i, 0], [0, i]))
  | disjunction (operands : List (Operand Term)) :
    Law (.node .not [.term (.node .or operands)]) (.node .and (operands.map Term.negated))
      ((List.range operands.length).map fun i => ([i, 0], [0, i]))
  | implication (a b : Operand Term) :
    Law (.node .when [a, b]) (.node .or [Term.negated a, b]) [([0], [0, 0]), ([1], [1])]
  | negation (a : Operand Term) :
    Law (.node .not [Term.negated a]) (.node .and [a]) [([0, 0], [0])]

namespace Law

variable {g g' : TermGraph} {parts : List (List Nat × List Nat)} {t t' : Term}

/-- The one side remembers something if the other one does. -/
theorem remembers_eq (law : Law t t' parts) : t'.remembers = t.remembers := by
  have others : (Operator.not == Operator.prev) = false ∧ (Operator.and == Operator.prev) = false ∧
      (Operator.or == Operator.prev) = false ∧ (Operator.when == Operator.prev) = false :=
    ⟨rfl, rfl, rfl, rfl⟩
  have negatedAll : ∀ operands : List (Operand Term),
      Term.anyOperatorIn (· == .prev) (operands.map Term.negated)
        = Term.anyOperatorIn (· == .prev) operands := by
    intro operands
    induction operands with
    | nil => rfl
    | cons operand rest ih =>
      simp [Term.negated, Term.anyOperatorIn, Term.anyOperatorOf, Term.anyOperator, ih, others]
  cases law <;> simp [Term.remembers, Term.anyOperator, Term.anyOperatorIn, Term.anyOperatorOf,
    Term.negated, negatedAll, others]

/-- Where every place has a node of its own, the operands of both sides share nodes alike. -/
theorem alike_unshared (law : Law t t' parts) (root root' : Nat) :
    (TermGraph.unshared t root).Alike (TermGraph.unshared t' root') parts := by
  have ends : ∀ p q u v : List Nat, u.length = v.length →
      (p ++ u = q ++ v ↔ p = q ∧ u = v) := by
    intro p q u v lengths
    refine ⟨fun same => List.append_inj' same lengths, ?_⟩
    rintro ⟨rfl, rfl⟩
    rfl
  have negatedParts : ∀ n, ∀ part ∈ (List.range n).map fun i => ([i, 0], [0, i]),
      ∀ part' ∈ (List.range n).map fun i => ([i, 0], [0, i]), ∀ path path' : List Nat,
        path ++ part.1 = path' ++ part'.1 ↔ path ++ part.2 = path' ++ part'.2 := by
    intro n part mem part' mem' path path'
    obtain ⟨i, -, rfl⟩ := List.mem_map.mp mem
    obtain ⟨j, -, rfl⟩ := List.mem_map.mp mem'
    refine (ends path path' [i, 0] [j, 0] rfl).trans (Iff.trans ?_
      (ends path path' [0, i] [0, j] rfl).symm)
    simp
  refine TermGraph.alike_unshared ?_
  cases law with
  | conjunction operands => exact negatedParts operands.length
  | disjunction operands => exact negatedParts operands.length
  | implication a b =>
    intro part mem part' mem' path path'
    have apart : ∀ p q : List Nat, p ++ [0] ≠ q ++ [1] := by
      intro p q same
      exact absurd ((ends p q [0] [1] rfl).mp same).2 (by decide)
    have further := apart (path ++ [0]) path'
    have further' := apart (path' ++ [0]) path
    rw [List.append_assoc] at further further'
    simp only [List.mem_cons, List.not_mem_nil, or_false] at mem mem'
    rcases mem with rfl | rfl <;> rcases mem' with rfl | rfl
    · simp only [List.append_left_inj]
    · exact iff_of_false (apart path path') further
    · exact iff_of_false (apart path' path).symm further'.symm
    · simp only [List.append_left_inj]
  | negation a =>
    intro part mem part' mem' path path'
    rw [List.mem_singleton.mp mem, List.mem_singleton.mp mem']
    simp only [List.append_left_inj]

/-- A common operand has the same truth value in both graphs. -/
theorem truthAt_along (alike : g.Alike g' parts) (here there : List Nat)
    (mem : (here, there) ∈ parts) (scene : Scene) (s : Subject) (all : List FactId)
    (operand : Operand Term) (placed : ∀ u, operand = .term u → g.termAt here = some u) :
    Along (Digest.Agrees (g.Paired g' parts)) Eq
      (Term.truthAt s all scene g.sharing (g.place here) operand)
      (Term.truthAt s all scene g'.sharing (g'.place there) operand) :=
  .of_matches <| (Simulation.agreeing _).bind_matches
    (TermGraph.resolve_matches alike mem [] scene operand placed (.refl _ s) all)
    fun _ _ => Simulation.outcome_matches _ _

/-- Operands are joined to what the negated ones are not joined to. -/
theorem joint_along {op : Operator} {operands : List (Operand Term)}
    (alike : g.Alike g' parts) (places : ∀ i < operands.length, ([i, 0], [0, i]) ∈ parts)
    (isTerm : g.term = .node .not [.term (.node op operands)]) (scene : Scene) (s : Subject)
    (all : List FactId) (stop : Bool) :
    Along (Digest.Agrees (g.Paired g' parts)) (fun b c => c = !b)
      (Term.jointAt s all scene g.sharing (g.place [0]) stop 0 operands)
      (Term.jointAt s all scene g'.sharing (g'.place []) (!stop) 0
        (operands.map Term.negated)) := by
  refine Term.joint_negated stop operands 0 fun i operand found => ?_
  rw [Nat.zero_add]
  have isPlace := places i (List.getElem?_eq_some_iff.mp found).1
  refine truthAt_along alike [i, 0] [0, i] isPlace scene s all operand ?_
  · rintro u rfl
    have root : g.termAt [] = some (.node .not [.term (.node op operands)]) :=
      g.termAt_nil.trans (congrArg some isTerm)
    exact termAt_operand (termAt_operand root rfl) found

/-- A law of De Morgan, where the truth value of a term is that of its joined operands. -/
theorem along_negated {op : Operator} {operands : List (Operand Term)} (alike : g.Alike g' parts)
    (places : ∀ i < operands.length, ([i, 0], [0, i]) ∈ parts)
    (isTerm : g.term = .node .not [.term (.node op operands)]) (stop : Bool) (scene : Scene)
    (s : Subject) (all : List FactId)
    (joins : Term.truthAt s all scene g.sharing (g.place [0]) (.term (.node op operands)) = do
      Operation.outcome (← Term.named (.node op operands) do
        return .bool (← Term.jointAt s all scene g.sharing (g.place [0]) stop 0 operands)).truth)
    (u u' : Term) :
    Along (Digest.Agrees (g.Paired g' parts)) (fun d d' => ∃ b, d = .bool b ∧ d' = .bool b)
      (Term.named u do
        return .bool !(← Term.truthAt s all scene g.sharing (g.place [0])
          (.term (.node op operands))))
      (Term.named u' do
        return .bool (← Term.jointAt s all scene g'.sharing (g'.place []) (!stop) 0
          (operands.map Term.negated))) := by
  have joint := joint_along alike places isTerm scene s all stop
  have truth : Along (Digest.Agrees (g.Paired g' parts)) (fun b c => c = !b)
      (Term.truthAt s all scene g.sharing (g.place [0]) (.term (.node op operands)))
      (Term.jointAt s all scene g'.sharing (g'.place []) (!stop) 0
        (operands.map Term.negated)) := by
    rw [joins]
    exact joint.truth_left _
  refine .named (.bind truth ?_) u u'
  rintro b _ rfl
  exact .done ⟨!b, rfl, rfl⟩

/-- The two sides of a law go along with each other. -/
theorem along (law : Law t t' parts) (isTerm : g.term = t) (isTerm' : g'.term = t')
    (alike : g.Alike g' parts) (scene : Scene) (s : Subject) (all : List FactId) :
    Along (Digest.Agrees (g.Paired g' parts)) (fun d d' => ∃ b, d = .bool b ∧ d' = .bool b)
      (g.evaluateWith scene Digested.strategy s all)
      (g'.evaluateWith scene Digested.strategy s all) := by
  have root : g.termAt [] = some t := g.termAt_nil.trans (congrArg some isTerm)
  have listed : ∀ operands : List (Operand Term), ∀ i < operands.length,
      ([i, 0], [0, i]) ∈ (List.range operands.length).map fun i => ([i, 0], [0, i]) :=
    fun operands i bound => List.mem_map.mpr ⟨i, List.mem_range.mpr bound, rfl⟩
  unfold TermGraph.evaluateWith
  rw [isTerm, isTerm']
  show Along _ _ (Term.resolve scene _ (.term t) (g.place []) s all)
    (Term.resolve scene _ (.term t') (g'.place []) s all)
  cases law with
  | conjunction operands =>
    rw [Term.resolve_or]
    exact along_negated alike (listed operands) isTerm false scene s all rfl _ _
  | disjunction operands =>
    rw [Term.resolve_and]
    exact along_negated alike (listed operands) isTerm true scene s all rfl _ _
  | implication a b =>
    have condition := truthAt_along alike [0] [0, 0] (by simp) scene s all a
      fun u term => termAt_operand root (by rw [term]; rfl)
    have conclusion := truthAt_along alike [1] [1] (by simp) scene s all b
      fun u term => termAt_operand root (by rw [term]; rfl)
    have negation : Along (Digest.Agrees (g.Paired g' _)) (fun b c => c = !b)
        (Term.truthAt s all scene g.sharing (g.place [0]) a)
        (Term.truthAt s all scene g'.sharing (g'.place [0]) (Term.negated a)) :=
      Term.truthAt_negated condition
    rw [Term.resolve_when, Term.resolve_or]
    simp only [Term.jointAt, Term.arguments, Term.joint_cons, Term.joint_nil, bind_assoc]
    refine .named (.bind negation ?_) _ _
    rintro b _ rfl
    cases b with
    | false => exact .done ⟨true, rfl, rfl⟩
    | true =>
      have goesOn : ¬(!true) = true := by decide
      rw [if_neg goesOn, bind_assoc]
      refine .bind conclusion ?_
      rintro c _ rfl
      cases c with
      | false => exact .done ⟨false, rfl, rfl⟩
      | true => exact .done ⟨true, rfl, rfl⟩
  | negation a =>
    have single := truthAt_along alike [0, 0] [0] (by simp) scene s all a
      fun u term => termAt_operand (termAt_operand root rfl) (by rw [term]; rfl)
    have negation : Along (Digest.Agrees (g.Paired g' _)) (fun b c => c = !b)
        (Term.truthAt s all scene g.sharing (g.place [0]) (Term.negated a))
        (Term.truthAt s all scene g'.sharing (g'.place [0]) a) :=
      (single.imp fun b c same => by rw [Bool.not_not, same]).truth_left _
    rw [Term.resolve_and]
    simp only [Term.jointAt, Term.arguments, Term.joint_cons, Term.joint_nil, bind_assoc]
    refine .named (.bind negation ?_) _ _
    rintro b _ rfl
    cases b with
    | false => exact .done ⟨true, rfl, rfl⟩
    | true => exact .done ⟨false, rfl, rfl⟩

end Law

namespace Term

/-- The two terms of a law of logic over the same operands, which share their nodes alike, are the
same truth value in passes of their own, or both fail. These are a negated conjunction and the
disjunction of the negated operands, a negated disjunction and the conjunction of the negated
operands, an implication and the disjunction of the negated condition and the conclusion, and an
operand that is negated twice and the conjunction of it alone. The facts have well formed names, as
those of every store have (`Store.LeadsTo.wellNamed`). -/
theorem logical_laws {g g' : TermGraph} {parts : List (List Nat × List Nat)}
    (law : Law g.term g'.term parts) (alike : g.Alike g' parts)
    (memoryless : g.term.remembers = false) (scene : Scene) (tracing tracing' : Bool)
    (vacant vacant' : Nat) {s : Subject}
    (named : s.parameters = none → ∀ id, (scene.contents id).WellNamed) (all : List FactId) :
    SameTruth (g.result scene tracing vacant s all) (g'.result scene tracing' vacant' s all) := by
  have memoryless' : g'.term.remembers = false := law.remembers_eq.trans memoryless
  have agrees : Digest.empty.Agrees (g.Paired g' parts) .empty := fun _ _ _ => rfl
  rw [g.result_eq_digested memoryless scene tracing vacant named,
    g'.result_eq_digested memoryless' scene tracing' vacant' named]
  rcases law.along rfl rfl alike scene s all _ _ agrees with
    ⟨_, _, given, given', ⟨b, rfl, rfl⟩, -⟩ | failures
  · exact .inl ⟨b, given, given'⟩
  · exact .inr failures

theorem SameTruth.eq_ok {result result' : Except Error Datum} (same : SameTruth result result')
    {d : Datum} (given : result = .ok d) : result' = .ok d := by
  rcases same with ⟨b, truth, truth'⟩ | ⟨e, e', failed, -⟩
  · rw [truth', ← truth, given]
  · cases given.symm.trans failed

/-- The terms `(or (not (eq x (max x))) (not (lt x (max x))))` and
`(not (and (eq x (max x)) (lt x (max x))))` with the terms in them. There is one node for `(max x)`,
and one for each of the comparisons. -/
def comparisons : List Node :=
  let greatest : Node := .mk 0 .max [.symbol "x"]
  let equal : Node := .mk 1 .eq [.symbol "x", .term greatest]
  let less : Node := .mk 2 .lt [.symbol "x", .term greatest]
  let both : Node := .mk 3 .and [.term equal, .term less]
  let unequal : Node := .mk 4 .not [.term equal]
  let notLess : Node := .mk 5 .not [.term less]
  [.mk 7 .or [.term unequal, .term notLess], .mk 6 .not [.term both], notLess, unequal, both, less,
    equal, greatest]

theorem made_comparisons : Node.Made 8 comparisons := by
  refine .new (.new (.new (.new (.new (.new (.new (.new .none ?_) ?_) ?_) ?_) ?_) ?_) ?_) ?_ <;>
    simp

/-- A fact does not have the greatest `x` and less at once. On a fact without `y`, the disjunction
goes on to an integer and fails, and so does the conjunction of the negations. -/
theorem logical_laws_stopping :
    let scene : Scene := ⟨.empty, Register.contents ⟨#[⟨⟨[("x", [.int 1])]⟩, []⟩]⟩⟩
    let g := TermGraph.ofNode made_comparisons 1 (by decide)
    let g' := TermGraph.ofNode made_comparisons 0 (by decide)
    let view : Subject := .view ⟨.fact ⟨0⟩, .params .empty⟩
    let operands : List (Operand Term) := [.symbol "y", .literal (.int 5)]
    let h' := TermGraph.unshared (.node .and (operands.map negated)) 0
    g.Alike g' [([0, 0], [0, 0]), ([1, 0], [0, 1])] ∧
      g'.result scene false 0 view [⟨0⟩] = .ok (.bool true) ∧
      ∃ e, h'.result scene false 0 view [⟨0⟩] = .error e := by
  intro scene g g' view operands h'
  have alike : g.Alike g' [([0, 0], [0, 0]), ([1, 0], [0, 1])] := by
    refine TermGraph.alike_of_nodes rfl rfl fun part mem => ?_
    simp only [List.mem_cons, List.not_mem_nil, or_false] at mem
    rcases mem with rfl | rfl
    · rintro t ⟨⟩
      exact ⟨rfl, rfl⟩
    · rintro t ⟨⟩
      exact ⟨rfl, rfl⟩
  have backed : view.parameters = none → ∀ id, (scene.contents id).WellNamed := by
    intro bare
    cases bare
  have first := logical_laws (.conjunction _ : Law g.term g'.term _) alike (by decide) scene false
    false 0 0 backed [⟨0⟩]
  let h := TermGraph.unshared (.node .not [.term (.node .or operands)]) 0
  have law : Law h.term h'.term _ := .disjunction operands
  have second := logical_laws law (law.alike_unshared 0 0) rfl scene false false 0 0 backed [⟨0⟩]
  refine ⟨alike, first.eq_ok (by decide +kernel), ?_⟩
  rcases second with ⟨c, given, -⟩ | ⟨-, e, -, failed⟩
  · have fails : (h.result scene false 0 view [⟨0⟩]).isOk = false := by decide +kernel
    rw [given] at fails
    cases fails
  · exact ⟨e, failed⟩

end Term

end Annals
