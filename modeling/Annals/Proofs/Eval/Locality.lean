import Annals.Proofs.Eval.Simulation
import Annals.Proofs.Store.Frame

/-!
# A rule looks at one fact

A rule is evaluated on a fact over no facts. Selectors then select nothing, and the bodies of
aggregations see neither a fact nor a parameter. So nothing but what the fact itself holds can
matter to the rule, which `Store.satisfies_local` says for stores.
-/

set_option autoImplicit false

namespace Annals

namespace Simulation

/-- Evaluations in a pass that are the same; views without a fact have the same numbers. -/
def sameInPass : Simulation Memo Memo where
  Matches a b := ∀ pass, a.run pass = b.run pass
  Gives b x := ∃ pass pass', b.run pass = (.ok x, pass')
  Fronts i j := i = j ∧ ∃ number, i = .vacant number
  pure_matches _ _ := rfl
  throw_matches _ _ := rfl
  bind_matches {α β a b f g} same rest pass := by
    rw [Memo.run_bind, Memo.run_bind, same pass]
    cases run : b.run pass with
    | mk result next =>
      cases result with
      | error e => rfl
      | ok x => exact rest x ⟨pass, next, run⟩ next
  named_matches {a b} t same pass := by
    rw [Memo.run_named, Memo.run_named, same pass]
  gives_outcome {α r x} gives := by
    obtain ⟨pass, pass', run⟩ := gives
    cases r with
    | error e => cases congrArg Prod.fst run
    | ok y => exact congrArg Prod.fst run

theorem sameInPass_strategies (tracing : Bool) :
    sameInPass.StrategiesMatch (Memo.strategy tracing) (Memo.strategy tracing) := by
  refine ⟨fun _ _ => rfl, fun {f g} h pass => ?_⟩
  rw [Memo.run_bind, Memo.run_bind, Memo.run_vacant]
  exact h _ _ ⟨rfl, pass.nextVacant, rfl⟩ pass.tookVacant

/-- Results under one key are answered alike. -/
theorem sameInPass_answer (tracing : Bool) {t : Term} {a a' : Address} {s s' : Subject}
    {x y : Memo Datum} (key : Key.of t a s = Key.of t a' s') (same : sameInPass.Matches x y) :
    sameInPass.Matches ((Memo.strategy tracing).answer t a s x)
      ((Memo.strategy tracing).answer t a' s' y) := by
  intro pass
  have computed : x.run pass.missed = y.run pass.missed := same pass.missed
  rw [Memo.run_answer, Memo.run_answer, key, computed]

end Simulation

namespace Term

variable {left right : Scene} {id : FactId}

/-- Evaluations over no facts, on one fact that holds the same in both scenes or on a view without
a fact and without parameters. -/
def onOneFact (tracing : Bool) (registry : left.registry = right.registry)
    (holds : left.contents id = right.contents id) :
    Simulation.sameInPass.Congruence left right (Memo.strategy tracing)
      (Memo.strategy tracing) where
  Related _ a a' s s' all := a = a' ∧ s = s' ∧ all = [] ∧
    (s = .fact id ∨ ∃ number, s = .view ⟨.vacant number, .params .empty⟩)
  strategies := Simulation.sameInPass_strategies tracing
  registry := registry
  facts {t a a' s s' all} related fact mem := by
    rw [related.2.2.1] at mem
    cases mem
  symbols {op operands a a' s s' all} related _ name _ := by
    obtain ⟨-, rfl, -, rfl | ⟨number, rfl⟩⟩ := related
    · exact congrArg (·.get? name) holds
    · simp only [Subject.lookup, View.lookup]
      cases parameterName? name with
      | none => rfl
      | some parameter => rfl
  operands related _ _ _ _ := by
    obtain ⟨rfl, same⟩ := related
    exact ⟨rfl, same⟩
  selector {t rest a a' s s' all} related fact mem := by
    rw [related.2.2.1] at mem
    cases mem
  body {t u a a' s s' all kept front front'} related gives leads := by
    obtain ⟨rfl, rfl, rfl, subject⟩ := related
    obtain ⟨pass, pass', run⟩ := gives
    obtain rfl : [] = kept := Except.ok.inj (congrArg Prod.fst run)
    obtain ⟨rfl, number, rfl⟩ := leads
    refine ⟨rfl, rfl, rfl, .inr ⟨number, ?_⟩⟩
    obtain rfl | ⟨number', rfl⟩ := subject
    · rfl
    · rfl
  memory {operands a a' s s' all} related d pass := by
    rw [related.1]
  answer {t a a' s s' all x y} related _ _ same := by
    obtain ⟨rfl, rfl, -⟩ := related
    exact Simulation.sameInPass_answer tracing rfl same

/-- The truth value of a term over no facts depends on what the subject holds, and on nothing
else. -/
theorem test_local (t : Term) (tracing : Bool) (registry : left.registry = right.registry)
    (holds : left.contents id = right.contents id) (root : Nat) (pass : Pass) :
    (t.test left tracing root (.fact id) []).run pass =
      (t.test right tracing root (.fact id) []).run pass := by
  have same := (onOneFact tracing registry holds).evaluateWith_matches t
    (a := .root root) ⟨rfl, rfl, rfl, .inl rfl⟩
  unfold test evaluate
  rw [Memo.run_bind, Memo.run_bind, same pass]

end Term

/-- Whether a fact satisfies a rule depends on what the fact holds, and on no other fact. -/
theorem Store.satisfies_local {s s' : Store} {id : FactId} (registry : s.registry = s'.registry)
    (holds : s.properties id = s'.properties id) (rule : Rule) :
    (s.satisfies rule id).1 = (s'.satisfies rule id).1 := by
  have same : (rule.term.test s.scene false 0 (.fact id) []).run (.start 0) =
      (rule.term.test s'.scene false 0 (.fact id) []).run (.start 0) :=
    rule.term.test_local false registry holds 0 (.start 0)
  simp only [Store.satisfies, Store.goOn_apply, same]

end Annals
