import Annals.Proofs.Eval.Digest

/-!
# Operands that two terms have in common

Two terms may have operands in common, which stand at other places in the one than in the other. If
the nodes inside of these operands are shared in the same way in both terms, then what is learnt of
them stays the same in the evaluations of the two, and so does what they give.

* `Digest.Agrees` says that two digests know the same of nodes that are paired with each other.
* `TermGraph.Alike` says that two graphs share the nodes in their common operands alike. It is so if
  the operands are the same nodes (`TermGraph.alike_of_nodes`), and if no two places share a node
  (`TermGraph.alike_unshared`).
* `TermGraph.resolve_matches` is what comes of it for a common operand.
-/

set_option autoImplicit false

namespace Annals

namespace Digest

/-- Two digests know the same of the nodes in every pair. -/
def Agrees (pairs : Address → Address → Prop) (known known' : Digest) : Prop :=
  ∀ node node', pairs node node' → known node = known' node'

/-- No node is in two pairs. -/
def Matching (pairs : Address → Address → Prop) : Prop :=
  ∀ node node' other other', pairs node node' → pairs other other' →
    (other = node ↔ other' = node')

theorem Agrees.learn {pairs : Address → Address → Prop} {known known' : Digest}
    (agrees : known.Agrees pairs known') (matching : Matching pairs) {node node' : Address}
    (pair : pairs node node') (d : Datum) :
    (known.learn node d).Agrees pairs (known'.learn node' d) := by
  intro other other' pair'
  unfold Digest.learn
  rw [agrees other other' pair']
  simp only [matching node node' other other' pair pair']

end Digest

namespace Simulation

/-- Computations with digests that know the same of paired nodes. -/
def agreeing (pairs : Address → Address → Prop) : Simulation Digested Digested :=
  .between (Digest.Agrees pairs) fun i j => i = j

variable {pairs : Address → Address → Prop}

theorem agreeing_strategies (sharing sharing' : Sharing) :
    (agreeing pairs).StrategiesMatch (Digested.strategy.shared sharing)
      (Digested.strategy.shared sharing') :=
  ⟨fun _ _ _ agrees => ⟨rfl, agrees⟩, fun same => same _ _ rfl⟩

/-- What is kept for two nodes of a pair is the same. -/
theorem agreeing_answer (matching : Digest.Matching pairs) {node node' : Address}
    (pair : pairs node node') {t : Term} (s s' : Subject) {x y : Digested Datum}
    (same : (agreeing pairs).Matches x y) :
    (agreeing pairs).Matches (Digested.strategy.answer t node s x)
      (Digested.strategy.answer t node' s' y) := by
  cases aggregate : t.op.isAggregate with
  | false => rwa [Digested.answer_plain x aggregate, Digested.answer_plain y aggregate]
  | true =>
    intro known known' agrees
    have here := agrees node node' pair
    cases found : known' node' with
    | some d =>
      rw [Digested.run_answer_known x aggregate (here.trans found),
        Digested.run_answer_known y aggregate found]
      exact ⟨rfl, agrees⟩
    | none =>
      rw [Digested.run_answer_new x aggregate (here.trans found),
        Digested.run_answer_new y aggregate found]
      obtain ⟨result, later⟩ := same known known' agrees
      cases run : x.run known with
      | mk r next =>
        cases run' : y.run known' with
        | mk r' next' =>
          rw [run, run'] at result later
          cases result
          cases r with
          | error e => exact ⟨rfl, later⟩
          | ok d =>
            refine ⟨?_, later.learn matching pair d⟩
            have last : next node = next' node' := later node node' pair
            dsimp only
            rw [last]

end Simulation

namespace TermGraph

/-- The nodes at one path from an operand in two graphs, where `parts` are the places of the
operands in the one and in the other. -/
def Paired (g g' : TermGraph) (parts : List (List Nat × List Nat)) (node node' : Address) : Prop :=
  ∃ part ∈ parts, ∃ path t, g.termAt (path ++ part.1) = some t ∧
    g.node (path ++ part.1) = node ∧ g'.node (path ++ part.2) = node'

/-- Two graphs share the nodes in their common operands alike. -/
def Alike (g g' : TermGraph) (parts : List (List Nat × List Nat)) : Prop :=
  ∀ part ∈ parts, ∀ part' ∈ parts, ∀ path path' t t',
    g.termAt (path ++ part.1) = some t → g.termAt (path' ++ part'.1) = some t' →
      (g.node (path ++ part.1) = g.node (path' ++ part'.1) ↔
        g'.node (path ++ part.2) = g'.node (path' ++ part'.2))

variable {g g' : TermGraph} {parts : List (List Nat × List Nat)}

theorem Alike.matching (alike : g.Alike g' parts) : Digest.Matching (Paired g g' parts) := by
  rintro _ _ _ _ ⟨part, mem, path, t, here, rfl, rfl⟩ ⟨part', mem', path', t', there, rfl, rfl⟩
  exact alike part' mem' part mem path' path t' t there here

/-- Where every place has a node of its own the places of the operands matter, and these are two
places on the one side if they are two places on the other. -/
theorem alike_unshared {t t' : Term} {root root' : Nat}
    (apart : ∀ part ∈ parts, ∀ part' ∈ parts, ∀ path path' : List Nat,
      path ++ part.1 = path' ++ part'.1 ↔ path ++ part.2 = path' ++ part'.2) :
    (unshared t root).Alike (unshared t' root') parts := by
  intro part mem part' mem' path path' _ _ _ _
  have places : ∀ (u : Term) (number : Nat) (p q : List Nat),
      (unshared u number).node p = (unshared u number).node q ↔ p = q :=
    fun u number p q => Address.below_inj
  rw [places, places]
  exact apart part mem part' mem' path path'

/-- Above the place of a term that is inside of another one there is a term. -/
theorem exists_above {position : Nat} {path : List Nat} {t : Term}
    (here : g.termAt (position :: path) = some t) :
    ∃ u, g.termAt path = some u ∧ u.operands[position]? = some (.term t) := by
  have split : ∃ first rest, (g.place path).path = first :: rest := by
    cases path with
    | nil => exact ⟨g.root, [], rfl⟩
    | cons first rest => exact ⟨first, rest ++ [g.root], rfl⟩
  obtain ⟨first, rest, places⟩ := split
  have there : Annals.termAt g.terms (position :: (g.place path).path) = some t := here
  unfold termAt
  rw [places] at there ⊢
  rw [Annals.termAt] at there
  · split at there
    · cases there
    · next u above =>
      split at there
      · next v found =>
        cases there
        exact ⟨u, above, found⟩
      · cases there
  · simp

/-- Operands that are the same nodes in both graphs share their nodes alike. -/
theorem alike_of_nodes (sharing : g'.sharing = g.sharing) (terms : g'.terms = g.terms)
    (same : ∀ part ∈ parts, ∀ t, g.termAt part.1 = some t →
      g'.termAt part.2 = some t ∧ g.node part.1 = g'.node part.2) : g.Alike g' parts := by
  have inside : ∀ part ∈ parts, ∀ path t, g.termAt (path ++ part.1) = some t →
      g'.termAt (path ++ part.2) = some t ∧
        g.node (path ++ part.1) = g'.node (path ++ part.2) := by
    intro part mem path
    induction path with
    | nil => exact same part mem
    | cons position path ih =>
      intro t here
      obtain ⟨u, above, found⟩ := exists_above here
      obtain ⟨above', node⟩ := ih u above
      refine ⟨termAt_operand above' found, ?_⟩
      simp only [TermGraph.termAt, terms] at above'
      simp only [TermGraph.node, sharing] at node ⊢
      exact g.fits.operand above above' node found
  intro part mem part' mem' path path' t t' here there
  rw [(inside part mem path t here).2, (inside part' mem' path' t' there).2]

section Moving

variable {left right : Scene}

/-- Evaluations at corresponding places in the common operands of two graphs, on subjects that look
the same. -/
def moving (alike : g.Alike g' parts) (registry : left.registry = right.registry)
    (contents : left.contents = right.contents) :
    (Simulation.agreeing (Paired g g' parts)).Congruence left right
      (Digested.strategy.shared g.sharing) (Digested.strategy.shared g'.sharing) where
  Related t a a' s s' _ := (∃ part ∈ parts, ∃ path, g.termAt (path ++ part.1) = some t ∧
    a = g.place (path ++ part.1) ∧ a' = g'.place (path ++ part.2)) ∧ s.Alike left.contents s'
  strategies := Simulation.agreeing_strategies _ _
  registry := registry
  facts _ id _ := congrFun contents id
  symbols related _ name _ := by
    rw [← contents]
    exact related.2.lookup name
  operands related _ i u found := by
    obtain ⟨⟨part, mem, path, here, rfl, rfl⟩, subjects⟩ := related
    exact ⟨⟨part, mem, i :: path, termAt_operand here found, rfl, rfl⟩, subjects⟩
  selector related id _ := by
    obtain ⟨⟨part, mem, path, here, rfl, rfl⟩, subjects⟩ := related
    exact ⟨⟨part, mem, 0 :: path, termAt_operand here rfl, rfl, rfl⟩, subjects.candidate id⟩
  body related _ leads := by
    obtain ⟨⟨part, mem, path, here, rfl, rfl⟩, subjects⟩ := related
    rw [Simulation.eq_of_leads _ (fun _ _ same => same) leads]
    exact ⟨⟨part, mem, 1 :: path, termAt_operand here rfl, rfl, rfl⟩, .view subjects.handed rfl⟩
  memory _ _ _ _ agrees := ⟨rfl, agrees⟩
  answer {t a a' s s' all x y} related _ _ same := by
    obtain ⟨⟨part, mem, path, here, rfl, rfl⟩, -⟩ := related
    have pair : Paired g g' parts (g.node (path ++ part.1)) (g'.node (path ++ part.2)) :=
      ⟨part, mem, path, t, here, rfl, rfl⟩
    exact Simulation.agreeing_answer alike.matching pair s s' same

/-- What is inside of a common operand gives the same in both graphs, and leaves digests that agree
if they agreed before. -/
theorem resolve_matches (alike : g.Alike g' parts) {part : List Nat × List Nat}
    (mem : part ∈ parts) (path : List Nat) (scene : Scene) (operand : Operand Term)
    (placed : ∀ t, operand = .term t → g.termAt (path ++ part.1) = some t) {s s' : Subject}
    (subjects : s.Alike scene.contents s') (all : List FactId) :
    (Simulation.agreeing (Paired g g' parts)).Matches
      (Term.resolve scene (Digested.strategy.shared g.sharing) operand (g.place (path ++ part.1)) s
        all)
      (Term.resolve scene (Digested.strategy.shared g'.sharing) operand
        (g'.place (path ++ part.2)) s' all) :=
  (moving alike (rfl : scene.registry = _) rfl).resolve_matches operand
    (fun name _ => subjects.lookup name)
    fun t term => ⟨⟨part, mem, path, placed t term, rfl, rfl⟩, subjects⟩

end Moving

end TermGraph

end Annals
