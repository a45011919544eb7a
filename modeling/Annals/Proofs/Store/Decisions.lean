import Annals.Proofs.Store.Compiled

/-!
# Simplified terms decide the same

A test takes no result for false. So where simplifying a term makes it give nothing instead of
false, a test does not notice, and a rule that is simplified is satisfied by the same facts.

* `Term.test_start` says what the test of a term without a memory finds in a pass of its own.
* `Term.simplify_decides` is the result.
-/

set_option autoImplicit false

namespace Annals

namespace Term

/-- The test of a term without a memory, in a pass of its own, tests what the term gives when
everything is computed anew. -/
theorem test_start {t : Term} (memoryless : t.remembers = false) (scene : Scene) (tracing : Bool)
    (root vacant : Nat) (s : Subject) (all : List FactId) :
    ((t.test scene tracing root s all).run (.start vacant)).1
      = (t.meaning scene s all >>= fun d => withinTerm t d.truth) := by
  rw [run_test, evaluate_start scene tracing memoryless]

/-- In passes of their own, tests of a term that was read without simplification, and that has no
memory, and of what it is simplified to find the same truth value, or both fail. So a rule made of
the one is satisfied by the facts that satisfy a rule made of the other. -/
theorem simplify_decides {limit : Nat} {query : String} {t : Term} {tokens : Nat}
    (read : Factory.verbatim.ofQuery limit query = .ok (t, tokens))
    (memoryless : t.remembers = false) :
    (∀ (scene : Scene) (tracing tracing' : Bool) (root root' vacant vacant' : Nat) (s : Subject)
        (all : List FactId),
      (∃ b, ((t.test scene tracing root s all).run (.start vacant)).1 = .ok b
        ∧ ((t.simplify.test scene tracing' root' s all).run (.start vacant')).1 = .ok b) ∨
      ∃ e e', ((t.test scene tracing root s all).run (.start vacant)).1 = .error e
        ∧ ((t.simplify.test scene tracing' root' s all).run (.start vacant')).1 = .error e') ∧
    ∀ (s : Store) (uid : Option String) (id : FactId) (b : Bool),
      (s.satisfies ⟨t.simplify, uid⟩ id).1 = .ok b ↔ (s.satisfies ⟨t, uid⟩ id).1 = .ok b := by
  have tell := textsTell_of_read read
  have memoryless' := remembers_simplify memoryless
  have same : ∀ (scene : Scene) (tracing tracing' : Bool) (root root' vacant vacant' : Nat)
      (s : Subject) (all : List FactId) (b : Bool),
      ((t.simplify.test scene tracing' root' s all).run (.start vacant')).1 = .ok b
        ↔ ((t.test scene tracing root s all).run (.start vacant)).1 = .ok b := by
    intro scene tracing tracing' root root' vacant vacant' s all b
    -- neither test depends on the numbers of its pass, so that they may be chosen
    obtain ⟨number, known⟩ := Pass.exists_knows s
    have decided : ((t.simplify.test scene tracing 0 s all).run (.start number)).1 = .ok b
        ↔ ((t.test scene tracing 0 s all).run (.start number)).1 = .ok b :=
      test_simplify tell known 0
    rwa [test_start memoryless', test_start memoryless] at decided ⊢
  refine ⟨fun scene tracing tracing' root root' vacant vacant' s all =>
    ok_or_error (same scene tracing tracing' root root' vacant vacant' s all), ?_⟩
  intro s uid id b
  exact same s.scene false false 0 0 0 0 (.fact id) [] b

open Query (lone)

/-- The query `(and (at 5 a) (at 5 a))` is simplified to `(at 5 a)`, which gives nothing on an empty
fact; the test takes both for false, and so does a rule. With an operand more, both fail. -/
theorem simplify_decides_nothing :
    let fifth : Operand Term := .term (.node .nth [.literal (.int 5), .symbol "a"])
    let t : Term := .node .and [fifth, fifth]
    let failing : Term := .node .or [.term t, .literal (.int 7), .term t]
    Factory.verbatim.ofQuery 2 "(and (at 5 a) (at 5 a))" = .ok (t, 13)
      ∧ ((t.simplify.evaluate lone.scene false 0 (.fact ⟨0⟩) [⟨0⟩]).run (.start 0)).1 = .ok .nil
      ∧ ((t.simplify.test lone.scene false 0 (.fact ⟨0⟩) [⟨0⟩]).run (.start 0)).1 = .ok false
      ∧ (lone.satisfies ⟨t.simplify, none⟩ ⟨0⟩).1 = .ok false
      ∧ ∃ e, ((failing.simplify.test lone.scene false 0 (.fact ⟨0⟩) [⟨0⟩]).run (.start 0)).1
        = .error e := by
  intro fifth t failing
  have read : Factory.verbatim.ofQuery 2 "(and (at 5 a) (at 5 a))" = .ok (t, 13) := by
    decide +kernel
  have read' : Factory.verbatim.ofQuery 3 "(or (and (at 5 a) (at 5 a)) 7 (and (at 5 a) (at 5 a)))"
      = .ok (failing, 30) := by decide +kernel
  have isFalse : ((t.test lone.scene false 0 (.fact ⟨0⟩) [⟨0⟩]).run (.start 0)).1 = .ok false := by
    decide +kernel
  obtain ⟨tests, rules⟩ := simplify_decides read rfl
  refine ⟨read, by decide +kernel, ?_, (rules lone none ⟨0⟩ false).mpr (by decide +kernel), ?_⟩
  · rcases tests lone.scene false false 0 0 0 0 (.fact ⟨0⟩) [⟨0⟩] with
      ⟨b, same, simple⟩ | ⟨e, e', fails, -⟩
    · rw [isFalse] at same
      cases same
      exact simple
    · rw [isFalse] at fails
      cases fails
  · rcases (simplify_decides read' rfl).1 lone.scene false false 0 0 0 0 (.fact ⟨0⟩) [⟨0⟩] with
      ⟨b, same, -⟩ | ⟨e, e', -, fails⟩
    · have failed : ∀ b, ((failing.test lone.scene false 0 (.fact ⟨0⟩) [⟨0⟩]).run (.start 0)).1
          ≠ .ok b := by
        intro b ok
        cases ok
      exact absurd same (failed b)
    · exact ⟨e', fails⟩

end Term

end Annals
