import Annals.Proofs.Eval.Displacement
import Annals.Proofs.Query.Distinct

/-!
# Simplified terms give the same, or nothing instead of false

A conjunction or a disjunction is true or false whatever its operands give, and an operand without
a result counts as false. So simplifying a term changes its result in one way only: where a single
operand takes the place of the whole, it may give nothing where the whole gives false.

* `Term.joined` is what a conjunction or a disjunction makes of the results of its operands.
* `Term.joined_firstOccurrences`: operands that occurred before do not count.
* `Term.joining_apart`: in a pass of its own a term joins what its operands give in passes of their
  own, because it evaluates every operand at a place where the pass has not been.
* `Term.truthIn_simplify`: a term and what it is simplified to have the same truth value, if any.
* `Term.test_simplify` and `Term.evaluate_simplify` are the results for passes of their own.
-/

set_option autoImplicit false

namespace Annals.Term

section Joined

variable (value : Operand Term → Except Error Datum)

/-- The truth value of an operand, given the results of operands. -/
def truthIn (operand : Operand Term) : Except Error Bool := do
  (← value operand).truth

/-- The truth value of operands that are evaluated up to the first with the truth value `stop`:
of a conjunction for `false`, and of a disjunction for `true`. -/
def joined (stop : Bool) : List (Operand Term) → Except Error Bool
  | [] => .ok !stop
  | operand :: rest => do
    if (← truthIn value operand) = stop then return stop else joined stop rest

variable {value} {stop : Bool}

theorem joined_stop {operand : Operand Term} (truth : truthIn value operand = .ok stop)
    (rest : List (Operand Term)) : joined value stop (operand :: rest) = .ok stop := by
  rw [joined, truth]
  exact if_pos rfl

theorem joined_goOn {operand : Operand Term} (truth : truthIn value operand = .ok !stop)
    (rest : List (Operand Term)) :
    joined value stop (operand :: rest) = joined value stop rest := by
  rw [joined, truth]
  exact if_neg (by simp)

/-- Operands are joined to what the first one says, if it stops, and to what the others say, if it
does not. -/
theorem joined_cons_eq_ok {operand : Operand Term} {rest : List (Operand Term)} {b : Bool} :
    joined value stop (operand :: rest) = .ok b ↔
      truthIn value operand = .ok stop ∧ b = stop ∨
        truthIn value operand = .ok !stop ∧ joined value stop rest = .ok b := by
  cases truth : truthIn value operand with
  | error e =>
    rw [joined, truth]
    simp [bind, Except.bind]
  | ok c =>
    by_cases stops : c = stop
    · rw [stops] at truth
      rw [joined_stop truth, stops]
      simp [eq_comm]
    · rw [Bool.eq_not_of_ne stops] at truth ⊢
      rw [joined_goOn truth]
      simp

/-- Operands that occurred before do not count, if texts tell operands apart. -/
theorem joined_firstOccurrences (operands : List (Operand Term)) (seen : List String)
    (tell : ∀ a ∈ operands, ∀ b ∈ operands, operandText a = operandText b → a = b)
    (before : ∀ a ∈ operands, operandText a ∈ seen → truthIn value a = .ok !stop) :
    joined value stop (firstOccurrences seen operands) = joined value stop operands := by
  -- what was seen did not stop the evaluation, so that it would not stop it again
  induction operands generalizing seen with
  | nil => rfl
  | cons first rest ih =>
    have tellRest : ∀ a ∈ rest, ∀ b ∈ rest, operandText a = operandText b → a = b :=
      fun a isA b isB => tell a (List.mem_cons_of_mem first isA) b (List.mem_cons_of_mem first isB)
    rw [firstOccurrences]
    split
    · next old =>
      rw [joined_goOn (before first List.mem_cons_self old)]
      exact ih seen tellRest fun a mem => before a (List.mem_cons_of_mem first mem)
    · next new =>
      cases truth : truthIn value first with
      | error e => rw [joined, joined, truth]; rfl
      | ok b =>
        by_cases stops : b = stop
        · rw [stops] at truth
          rw [joined_stop truth, joined_stop truth]
        · have goesOn : truthIn value first = .ok !stop := by
            rw [truth, Bool.eq_not_of_ne stops]
          rw [joined_goOn goesOn, joined_goOn goesOn]
          refine ih _ tellRest fun a mem old => ?_
          rcases List.mem_cons.mp old with same | old
          · rw [tell a (List.mem_cons_of_mem first mem) first List.mem_cons_self same]
            exact goesOn
          · exact before a (List.mem_cons_of_mem first mem) old

/-- A result that another one is simplified to: itself, or nothing instead of false. -/
def Yields (d d' : Datum) : Prop := d' = d ∨ d = .bool false ∧ d' = .nil

/-- A result with a truth value yields that value. -/
theorem yields_of_truth {d : Datum} {b : Bool} (truth : d.truth = .ok b) : Yields (.bool b) d := by
  cases d with
  | nil =>
    cases truth
    exact .inr ⟨rfl, rfl⟩
  | bool c =>
    cases truth
    exact .inl rfl
  | values vs => cases truth

variable (value) in
/-- Conjunctions and disjunctions give the truth value that their operands are joined to. -/
def Joining : Prop := ∀ op : Operator, Joins op → ∀ operands d,
  value (.term (.node op operands)) = .ok d
    ↔ ∃ b, joined value (op == .or) operands = .ok b ∧ d = .bool b

theorem joined_single (operand : Operand Term) :
    joined value stop [operand] = truthIn value operand := by
  cases truth : truthIn value operand with
  | error e => rw [joined, truth]; rfl
  | ok b =>
    by_cases stops : b = stop
    · rw [stops] at truth ⊢
      exact joined_stop truth []
    · rw [Bool.eq_not_of_ne stops] at truth ⊢
      exact joined_goOn truth []

theorem truthIn_node (joining : Joining value) {op : Operator} (joins : Joins op)
    (operands : List (Operand Term)) {b : Bool} :
    truthIn value (.term (.node op operands)) = .ok b
      ↔ joined value (op == .or) operands = .ok b := by
  unfold truthIn
  simp only [bind_eq_ok, joining op joins]
  constructor
  · rintro ⟨_, ⟨c, join, rfl⟩, truth⟩
    rw [join]
    exact truth
  · intro join
    exact ⟨.bool b, ⟨b, join, rfl⟩, rfl⟩

/-- A single term has the truth value of the conjunction or the disjunction that it stands for. -/
theorem truthIn_collapse (joining : Joining value) {op : Operator} (joins : Joins op)
    (operands : List (Operand Term)) {b : Bool} :
    truthIn value (.term (collapse op operands)) = .ok b
      ↔ joined value (op == .or) operands = .ok b := by
  rcases collapse_cases op operands with ⟨t, single, same⟩ | same
  · rw [same, single, joined_single]
  · rw [same, truthIn_node joining joins]

mutual

/-- A term that has a truth value is simplified to one that has it too, and the other way around. -/
theorem truthIn_simplify (joining : Joining value) : ∀ t : Term, t.TextsTell → ∀ {b : Bool},
    truthIn value (.term t.simplify) = .ok b ↔ truthIn value (.term t) = .ok b
  | .node op operands, tell, b => by
    by_cases joins : Joins op
    · obtain ⟨tell, inner⟩ := tell joins
      rw [simplify_joins joins, truthIn_collapse joining joins, truthIn_node joining joins,
        joined_firstOccurrences _ [] tell (fun a _ seen => by cases seen)]
      exact joined_simplifyOperands joining operands inner
    · rw [simplify_other joins]

/-- Operands are joined to the same after they are simplified. -/
theorem joined_simplifyOperands (joining : Joining value) : ∀ operands : List (Operand Term),
    TextsTellIn operands → ∀ {stop b : Bool}, joined value stop (simplifyOperands operands) = .ok b
      ↔ joined value stop operands = .ok b
  | [], _, _, _ => Iff.rfl
  | operand :: rest, tell, stop, b => by
    rw [simplifyOperands, joined_cons_eq_ok, joined_cons_eq_ok,
      truthIn_simplifyOperand joining operand tell.1,
      truthIn_simplifyOperand joining operand tell.1,
      joined_simplifyOperands joining rest tell.2]

theorem truthIn_simplifyOperand (joining : Joining value) : ∀ operand : Operand Term,
    TextsTellOf operand → ∀ {b : Bool},
      truthIn value (simplifyOperand operand) = .ok b ↔ truthIn value operand = .ok b
  | .literal _, _, _ => Iff.rfl
  | .symbol _, _, _ => Iff.rfl
  | .term t, tell, _ => truthIn_simplify joining t tell

end

/-- A term that gives a result is simplified to one that yields that result. -/
theorem yields_simplify (joining : Joining value) {t : Term} (tell : t.TextsTell) {d : Datum}
    (result : value (.term t) = .ok d) :
    ∃ d', value (.term t.simplify) = .ok d' ∧ Yields d d' := by
  obtain ⟨op, operands⟩ := t
  by_cases joins : Joins op
  · obtain ⟨b, -, rfl⟩ := (joining op joins operands d).mp result
    have truth : truthIn value (.term (.node op operands)) = .ok b :=
      bind_eq_ok.mpr ⟨.bool b, result, rfl⟩
    obtain ⟨d', result', truth'⟩ := bind_eq_ok.mp ((truthIn_simplify joining _ tell).mpr truth)
    exact ⟨d', result', yields_of_truth truth'⟩
  · rw [simplify_other joins]
    exact ⟨d, result, .inl rfl⟩

end Joined

section Apart

open Operation

variable (scene : Scene) (tracing : Bool) (vacant : Nat) (s : Subject) (all : List FactId)

/-- The result of an operand in a pass of its own. -/
def apart (operand : Operand Term) : Except Error Datum :=
  ((resolve scene (Memo.strategy tracing) operand (.root 0) s all).run (.start vacant)).1

variable {scene tracing vacant s all}

/-- A pass has not been to the operands of a term from a position on. -/
structure Ahead (address : Address) (s : Subject) (position : Nat) (pass : Pass) : Prop where
  untouched : ∀ i, position ≤ i → pass.Untouched (address.operand i)
  knows : pass.Knows s

/-- The next operand of a term has the truth value that it has in a pass of its own. -/
theorem truthOf_ahead (known : (Pass.start vacant).Knows s) {address : Address} {position : Nat}
    {pass : Pass} (ahead : Ahead address s position pass) (operand : Operand Term) :
    ∃ after, (truthOf s all ⟨operand,
        resolve scene (Memo.strategy tracing) operand (address.operand position)⟩).run pass
          = (truthIn (apart scene tracing vacant s all) operand, after)
      ∧ Ahead address s (position + 1) after := by
  obtain ⟨result, beyond⟩ := resolve_untouched scene tracing operand all
    (ahead.untouched position (Nat.le_refl _)) (Pass.untouched_start (.root 0) vacant)
    ahead.knows known
  have next : Ahead address s (position + 1) ((resolve scene (Memo.strategy tracing) operand
      (address.operand position) s all).run pass).2 := by
    refine ⟨fun i later => ?_, ahead.knows.mono beyond.numbers⟩
    have other : i ≠ position := by omega
    exact (ahead.untouched i (by omega)).beyond beyond (Address.below_operand_ne other)
  refine ⟨_, ?_, next⟩
  unfold truthOf truthIn
  rw [Memo.run_bind]
  have result : _ = apart scene tracing vacant s all operand := result
  rw [← result]
  cases (resolve scene (Memo.strategy tracing) operand (address.operand position) s all).run
    pass with
  | mk r after =>
    cases r with
    | error e => rfl
    | ok d =>
      show (outcome d.truth : Memo Bool).run after = (d.truth, after)
      cases d.truth <;> rfl

theorem conjunction_ahead (known : (Pass.start vacant).Knows s) {address : Address}
    (operands : List (Operand Term)) {position : Nat} {pass : Pass}
    (ahead : Ahead address s position pass) :
    ((conjunction s all (arguments scene (Memo.strategy tracing) address position operands)).run
      pass).1 = joined (apart scene tracing vacant s all) false operands := by
  induction operands generalizing position pass with
  | nil => rfl
  | cons operand rest ih =>
    obtain ⟨after, run, next⟩ := truthOf_ahead known ahead operand
    rw [arguments, conjunction, Memo.run_bind, run, joined]
    cases truthIn (apart scene tracing vacant s all) operand with
    | error e => rfl
    | ok b =>
      cases b with
      | false => rfl
      | true => exact ih next

theorem disjunction_ahead (known : (Pass.start vacant).Knows s) {address : Address}
    (operands : List (Operand Term)) {position : Nat} {pass : Pass}
    (ahead : Ahead address s position pass) :
    ((disjunction s all (arguments scene (Memo.strategy tracing) address position operands)).run
      pass).1 = joined (apart scene tracing vacant s all) true operands := by
  induction operands generalizing position pass with
  | nil => rfl
  | cons operand rest ih =>
    obtain ⟨after, run, next⟩ := truthOf_ahead known ahead operand
    rw [arguments, disjunction, Memo.run_bind, run, joined]
    cases truthIn (apart scene tracing vacant s all) operand with
    | error e => rfl
    | ok b =>
      cases b with
      | true => rfl
      | false => exact ih next

/-- In a pass of its own, a term gives what its operator gives. -/
theorem apart_eq_ok {op : Operator} {operands : List (Operand Term)} {d : Datum} :
    apart scene tracing vacant s all (.term (.node op operands)) = .ok d ↔
      ((perform scene (Memo.strategy tracing) s all (.node op operands) (.root 0)
        (arguments scene (Memo.strategy tracing) (.root 0) 0 operands)).run
          (Pass.start vacant).missed).1 = .ok d := by
  have unknown : (Pass.start vacant).results.lookup (Key.of (.node op operands) (.root 0) s)
      = none := rfl
  rw [apart, resolve, evaluateWith, Memo.run_answer, unknown]
  dsimp only
  rw [Memo.run_named]
  cases (perform scene (Memo.strategy tracing) s all (.node op operands) (.root 0)
    (arguments scene (Memo.strategy tracing) (.root 0) 0 operands)).run
      (Pass.start vacant).missed with
  | mk result after =>
    cases result with
    | ok d => exact Iff.rfl
    | error e =>
      constructor
      · intro failed
        cases failed
      · intro failed
        cases failed

theorem run_bool_eq_ok {action : Memo Bool} {pass : Pass} {d : Datum} :
    ((do return .bool (← action) : Memo Datum).run pass).1 = .ok d
      ↔ ∃ b, (action.run pass).1 = .ok b ∧ d = .bool b := by
  rw [Memo.run_bind]
  cases action.run pass with
  | mk result after =>
    cases result with
    | error e =>
      constructor
      · intro failed
        cases failed
      · rintro ⟨_, failed, _⟩
        cases failed
    | ok b =>
      constructor
      · intro result
        exact ⟨b, rfl, (Except.ok.inj result).symm⟩
      · rintro ⟨c, same, rfl⟩
        cases same
        rfl

/-- In a pass of its own, a term joins what its operands give in passes of their own. -/
theorem joining_apart (known : (Pass.start vacant).Knows s) :
    Joining (apart scene tracing vacant s all) := by
  intro op joins operands d
  have ahead : Ahead (.root 0) s 0 (Pass.start vacant).missed :=
    ⟨fun i _ => ⟨fun _ _ _ => rfl, fun _ => rfl⟩, known⟩
  rw [apart_eq_ok]
  rcases joins with rfl | rfl
  · simp only [perform, Term.op]
    rw [run_bool_eq_ok, conjunction_ahead known operands ahead]
    rfl
  · simp only [perform, Term.op]
    rw [run_bool_eq_ok, disjunction_ahead known operands ahead]
    rfl

theorem withinTerm_eq_ok {α : Type} {t : Term} {result : Except Error α} {x : α} :
    withinTerm t result = .ok x ↔ result = .ok x := by
  cases result with
  | ok y => exact Iff.rfl
  | error e =>
    constructor
    · intro failed
      cases failed
    · intro failed
      cases failed

theorem evaluate_start_eq (known : (Pass.start vacant).Knows s) (t : Term) (root : Nat) :
    ((t.evaluate scene tracing root s all).run (.start vacant)).1
      = apart scene tracing vacant s all (.term t) :=
  (t.evaluateWith_untouched scene tracing all (Pass.untouched_start (.root root) vacant)
    (Pass.untouched_start (.root 0) vacant) known known).1

theorem run_test_eq_ok (known : (Pass.start vacant).Knows s) (t : Term) (root : Nat) {b : Bool} :
    ((t.test scene tracing root s all).run (.start vacant)).1 = .ok b
      ↔ truthIn (apart scene tracing vacant s all) (.term t) = .ok b := by
  rw [run_test, truthIn, ← evaluate_start_eq known t root, bind_eq_ok, bind_eq_ok]
  simp only [withinTerm_eq_ok]

/-- In passes of their own, a term and what it is simplified to have the same truth value, or
neither has one. -/
theorem test_simplify {t : Term} (tell : t.TextsTell) (known : (Pass.start vacant).Knows s)
    (root : Nat) {b : Bool} :
    ((t.simplify.test scene tracing root s all).run (.start vacant)).1 = .ok b
      ↔ ((t.test scene tracing root s all).run (.start vacant)).1 = .ok b := by
  rw [run_test_eq_ok known, run_test_eq_ok known]
  exact truthIn_simplify (joining_apart known) t tell

/-- A term that gives a result in a pass of its own is simplified to one that gives the same, or
nothing instead of false; that only if an operand took the place of a conjunction or of a
disjunction. -/
theorem evaluate_simplify {t : Term} (tell : t.TextsTell) (known : (Pass.start vacant).Knows s)
    (root : Nat) {d : Datum}
    (result : ((t.evaluate scene tracing root s all).run (.start vacant)).1 = .ok d) :
    ((t.simplify.evaluate scene tracing root s all).run (.start vacant)).1 = .ok d
      ∨ d = .bool false ∧ Joins t.op ∧ ¬Joins t.simplify.op
        ∧ ((t.simplify.evaluate scene tracing root s all).run (.start vacant)).1 = .ok .nil := by
  rw [evaluate_start_eq known] at result ⊢
  have joining : Joining (apart scene tracing vacant s all) := joining_apart known
  obtain ⟨d', result', rfl | ⟨rfl, rfl⟩⟩ := yields_simplify joining tell result
  · exact .inl result'
  · refine .inr ⟨rfl, ?_, ?_, result'⟩
    · cases t with
      | node op operands =>
        by_cases joins : Joins op
        · exact joins
        · rw [simplify_other joins, result] at result'
          cases result'
    · intro joins
      cases simple : t.simplify with
      | node op operands =>
        rw [simple] at joins result'
        obtain ⟨b, -, nothing⟩ := (joining op joins operands _).mp result'
        cases nothing

end Apart

end Annals.Term
