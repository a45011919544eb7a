import Annals.Proofs.Eval.Displacement
import Annals.Proofs.Query.Sharing

/-!
# Terms that share nodes

A term may stand in several places, in one root or in several roots, and then one result is kept for
all of them. `Sharing` says which places have one node, and `Strategy.shared` is an evaluation that
goes by nodes. All that matters about nodes is that none is inside of itself, which is so of the
nodes that can be made (`Sharing.ofNodes`).

What an evaluation computes, it keeps for nodes inside of the term alone: the evaluation of a term
leaves the results for all other nodes as they are, and its operator leaves those for the node of
the term itself (`Term.spares_perform`). So while a result is computed it is not kept by some other
computation in between.
-/

set_option autoImplicit false

namespace Annals

/-! ### Nodes at places -/

namespace Node

/-- The node at a place in some nodes, where the path leads from the node up to the index of the one
that it is in. -/
def nodeAt (held : List Node) : List Nat → Option Node
  | [] => none
  | [index] => held[index]?
  | position :: path =>
    match nodeAt held path with
    | none => none
    | some (mk _ _ operands) =>
      match operands[position]? with
      | some (.term x) => some x
      | _ => none

/-- Whether a node is inside of another one and not that node itself. -/
def Within (z : Node) : Node → Prop
  | mk _ _ operands => ∃ y, .term y ∈ operands ∧ z ∈ y.nodes

theorem sizeOf_lt_of_operand {operands : List (Operand Node)} {y : Node}
    (isOperand : .term y ∈ operands) : sizeOf y < sizeOf operands := by
  have smaller := List.sizeOf_lt_of_mem isOperand
  rw [Operand.term.sizeOf_spec] at smaller
  omega

theorem sizeOf_le_of_mem_nodes (x : Node) {z : Node} (mem : z ∈ x.nodes) : sizeOf z ≤ sizeOf x := by
  cases x with
  | mk number op operands =>
    rw [Node.nodes] at mem
    rcases List.mem_cons.mp mem with rfl | inside
    · exact Nat.le_refl _
    · obtain ⟨y, isOperand, inside⟩ := mem_nodesIn.mp inside
      have operand := sizeOf_lt_of_operand isOperand
      have smaller := sizeOf_le_of_mem_nodes y inside
      rw [mk.sizeOf_spec]
      omega
termination_by sizeOf x
decreasing_by
  subst_vars
  rw [mk.sizeOf_spec]
  omega

variable {held : List Node} {x y z : Node} {path place : List Nat}

theorem Within.ne (within : z.Within x) : z ≠ x := by
  rintro rfl
  cases z with
  | mk number op operands =>
    obtain ⟨y, isOperand, inside⟩ := within
    have operand := sizeOf_lt_of_operand isOperand
    have smaller := sizeOf_le_of_mem_nodes y inside
    rw [mk.sizeOf_spec] at smaller
    omega

theorem Within.mem_nodes (within : z.Within x) : z ∈ x.nodes := by
  cases x with
  | mk number op operands =>
    rw [Node.nodes]
    exact List.mem_cons_of_mem _ (mem_nodesIn.mpr within)

theorem Within.trans (inner : z.Within y) (outer : y.Within x) : z.Within x := by
  cases x with
  | mk number op operands =>
    obtain ⟨u, isOperand, inside⟩ := outer
    exact ⟨u, isOperand, mem_nodes_trans u inside inner.mem_nodes⟩

theorem ne_nil_of_nodeAt (found : nodeAt held place = some z) : place ≠ [] := by
  rintro rfl
  cases found

/-- The node at the place of an operand is inside of the node above. -/
theorem exists_above_of_nodeAt {position : Nat} (rooted : place ≠ [])
    (found : nodeAt held (position :: place) = some z) :
    ∃ x, nodeAt held place = some x ∧ z.Within x := by
  rw [nodeAt] at found
  · split at found
    · cases found
    · next above =>
      split at found
      · next y isOperand =>
        cases found
        exact ⟨_, above, z, List.mem_of_getElem? isOperand, mem_nodes_self z⟩
      · cases found
  · exact rooted

/-- Inside of the node at a place are the nodes at the places further down. -/
theorem within_of_nodeAt (further : path ≠ []) (rooted : place ≠ [])
    (found : nodeAt held (path ++ place) = some z) :
    ∃ x, nodeAt held place = some x ∧ z.Within x := by
  induction path generalizing z with
  | nil => exact absurd rfl further
  | cons position rest ih =>
    have higher : rest ++ place ≠ [] := by simp [rooted]
    obtain ⟨y, above, inner⟩ := exists_above_of_nodeAt higher found
    by_cases ended : rest = []
    · subst ended
      exact ⟨y, above, inner⟩
    · obtain ⟨x, here, outer⟩ := ih ended above
      exact ⟨x, here, inner.trans outer⟩

theorem exists_root_of_nodeAt (found : nodeAt held place = some z) : ∃ x ∈ held, z ∈ x.nodes := by
  induction place generalizing z with
  | nil => cases found
  | cons position rest ih =>
    by_cases ended : rest = []
    · subst ended
      exact ⟨z, List.mem_of_getElem? found, mem_nodes_self z⟩
    · obtain ⟨y, above, inner⟩ := exists_above_of_nodeAt ended found
      obtain ⟨x, isHeld, inside⟩ := ih above
      exact ⟨x, isHeld, mem_nodes_trans x inside inner.mem_nodes⟩

end Node

/-! ### Places that share a node -/

/-- What is below an operand is further below the term. -/
theorem Address.operand_below (address : Address) (i : Nat) (path : List Nat) :
    (address.operand i).below path = address.below (path ++ [i]) := by
  simp [below, operand]

theorem Address.below_ne (address : Address) (path : List Nat) (further : path ≠ []) :
    address.below path ≠ address := by
  intro same
  have lengths := congrArg (fun place => place.path.length) same
  simp only [below, List.length_append] at lengths
  have inner := List.length_pos_iff.mpr further
  omega

/-- Which places have the same node. -/
structure Sharing where
  /-- The place that stands for the node at a place. -/
  node : Address → Address
  /-- No node is inside of itself. -/
  apart : ∀ address path, path ≠ [] → node (address.below path) ≠ node address

namespace Sharing

/-- Every place has a node of its own. -/
def none : Sharing := ⟨id, Address.below_ne⟩

section Nodes

variable (held : List Node)

/-- The place that stands for the node at a place: the number of the node, if there is one. -/
def ofNode (address : Address) : Address :=
  match Node.nodeAt held address.path with
  | some x => .root x.number
  | .none => address

variable {held} {address : Address}

theorem ofNode_some {x : Node} (found : Node.nodeAt held address.path = some x) :
    ofNode held address = .root x.number := by
  rw [ofNode, found]

theorem ofNode_none (found : Node.nodeAt held address.path = .none) :
    ofNode held address = address := by
  rw [ofNode, found]

theorem ofNode_apart {next : Nat} (made : Node.Made next held) {path : List Nat}
    (further : path ≠ []) :
    ofNode held (address.below path) ≠ ofNode held address := by
  intro same
  have inner := List.length_pos_iff.mpr further
  cases here : Node.nodeAt held address.path with
  | none =>
    rw [ofNode_none here] at same
    cases below : Node.nodeAt held (address.below path).path with
    | none =>
      rw [ofNode_none below] at same
      exact address.below_ne path further same
    | some z =>
      rw [ofNode_some below] at same
      have rooted : address.path ≠ [] := by
        rw [← same]
        simp [Address.root]
      obtain ⟨x, found, -⟩ := Node.within_of_nodeAt further rooted below
      rw [here] at found
      cases found
  | some x =>
    have rooted := Node.ne_nil_of_nodeAt here
    rw [ofNode_some here] at same
    cases below : Node.nodeAt held (address.below path).path with
    | none =>
      rw [ofNode_none below] at same
      have lengths := congrArg (fun place => place.path.length) same
      have outer := List.length_pos_iff.mpr rooted
      simp only [Address.below, Address.root, List.length_append, List.length_singleton] at lengths
      omega
    | some z =>
      rw [ofNode_some below] at same
      have number : z.number = x.number := by
        simpa [Address.root] using same
      obtain ⟨y, found, within⟩ := Node.within_of_nodeAt further rooted below
      cases here.symm.trans found
      obtain ⟨y, isHeld, inside⟩ := Node.exists_root_of_nodeAt here
      have further := Node.mem_nodes_trans y inside within.mem_nodes
      exact within.ne (made.apart.same z x ⟨y, isHeld, further⟩ ⟨y, isHeld, inside⟩ number)

/-- The sharing of nodes that are held, of which each is a root with its index for a number. -/
def ofNodes {next : Nat} (made : Node.Made next held) : Sharing where
  node := ofNode held
  apart _ _ := ofNode_apart made

end Nodes

end Sharing

/-- The evaluation that takes terms with one node for the same. -/
def Strategy.shared {m : Type → Type} (strategy : Strategy m) (sharing : Sharing) : Strategy m where
  answer t address := strategy.answer t (sharing.node address)
  exchange address := strategy.exchange (sharing.node address)
  report := strategy.report
  vacant := strategy.vacant

theorem Strategy.shared_answer {m : Type → Type} (strategy : Strategy m) (sharing : Sharing)
    (t : Term) (address : Address) (subject : Subject) (action : m Datum) :
    (strategy.shared sharing).answer t address subject action =
      strategy.answer t (sharing.node address) subject action := rfl

/-- What goes by nodes makes views and reports as what goes by places does. -/
theorem Simulation.StrategiesMatch.shared {m n : Type → Type} [Monad m] [MonadExceptOf Error m]
    [Monad n] [MonadExceptOf Error n] {sim : Simulation m n} {strategy : Strategy m}
    {strategy' : Strategy n} (strategies : sim.StrategiesMatch strategy strategy')
    (sharing sharing' : Sharing) :
    sim.StrategiesMatch (strategy.shared sharing) (strategy'.shared sharing') :=
  ⟨strategies.report, strategies.vacant⟩

/-! ### What is left as it is -/

section Leaves

variable {σ α β γ : Type}

/-- A computation leaves what there is to see of a state as it is, whatever the state. -/
def Leaves (look : σ → γ) (a : ExceptT Error (StateM σ) α) : Prop :=
  ∀ s, look (a.run s).2 = look s

variable {look : σ → γ}

theorem Leaves.bind {a : ExceptT Error (StateM σ) α} {f : α → ExceptT Error (StateM σ) β}
    (first : Leaves look a) (rest : ∀ x, (∃ s, (a.run s).1 = .ok x) → Leaves look (f x)) :
    Leaves look (a >>= f) := by
  intro s
  rw [Memo.run_bind]
  have left := first s
  cases ended : a.run s with
  | mk result next =>
    rw [ended] at left
    cases result with
    | error e => exact left
    | ok x => exact (rest x ⟨s, congrArg Prod.fst ended⟩ next).trans left

theorem Leaves.named {a : ExceptT Error (StateM σ) Datum} (leaves : Leaves look a) (t : Term) :
    Leaves look (Term.named t a) := by
  intro s
  rw [Memo.run_named]
  have left := leaves s
  cases ended : a.run s with
  | mk result next =>
    rw [ended] at left
    cases result with
    | error e => exact left
    | ok d => exact left

/-- Computations of which the second one leaves what there is to see of a state as it is. -/
def Simulation.leaving (look : σ → γ) :
    Simulation (ExceptT Error (StateM σ)) (ExceptT Error (StateM σ)) where
  Matches _ b := Leaves look b
  Gives b x := ∃ s, (b.run s).1 = .ok x
  Fronts i j := i = j
  pure_matches _ _ := rfl
  throw_matches _ _ := rfl
  bind_matches first rest := first.bind rest
  named_matches t leaves := leaves.named t
  gives_outcome := Memo.eq_ok_of_outcome

/-- What a strategy does for other nodes than a given one leaves what there is to see of a state as
it is. -/
structure Strategy.Spares (strategy : Strategy (ExceptT Error (StateM σ))) (look : σ → γ)
    (own : Address) : Prop where
  report : ∀ e, Leaves look (strategy.report e)
  vacant : Leaves look strategy.vacant
  exchange : ∀ address d, own ≠ address → Leaves look (strategy.exchange address d)
  answer : ∀ t address s x, own ≠ address → Leaves look x →
    Leaves look (strategy.answer t address s x)

theorem Strategy.Spares.strategies {strategy : Strategy (ExceptT Error (StateM σ))} {own : Address}
    (spares : strategy.Spares look own) (sharing : Sharing) :
    (Simulation.leaving look).StrategiesMatch (strategy.shared sharing)
      (strategy.shared sharing) :=
  ⟨spares.report, fun same => Leaves.bind spares.vacant fun i _ => same i i rfl⟩

end Leaves

namespace Memo

/-- Whatever a pass knows, a computation in it leaves the result under a key as it is. -/
abbrev Spares {α : Type} (key : Key) (a : Memo α) : Prop :=
  Leaves (fun pass => pass.results.lookup key) a

variable (tracing : Bool)

/-- What is kept for another node leaves a result as it is. -/
theorem strategy_spares (key : Key) :
    (strategy tracing).Spares (fun pass => pass.results.lookup key) key.address where
  report _ _ := rfl
  vacant _ := rfl
  exchange _ _ _ _ := rfl
  answer t address subject a other spares pass := by
    have different : key ≠ Key.of t address subject := by
      intro same
      apply other
      rw [same, Key.address_of]
    rw [run_answer]
    cases pass.results.lookup (Key.of t address subject) with
    | some d => rfl
    | none =>
      have spared := spares pass.missed
      dsimp only
      cases ended : a.run pass.missed with
      | mk result next =>
        rw [ended] at spared
        cases result with
        | error e => exact spared
        | ok d =>
          refine (lookup_cons_of_ne different).trans (Eq.trans ?_ spared)
          cases tracing with
          | true => rfl
          | false => rfl

/-- What is remembered for another node leaves what is remembered for a node as it is. -/
theorem strategy_spares_remembered (own : Address) :
    (strategy tracing).Spares (fun pass => pass.remembered.lookup own) own where
  report _ _ := rfl
  vacant _ := rfl
  exchange _ _ other _ := lookup_cons_of_ne other
  answer t address subject a _ spares pass := by
    rw [run_answer]
    cases pass.results.lookup (Key.of t address subject) with
    | some d => rfl
    | none =>
      have spared := spares pass.missed
      dsimp only
      cases ended : a.run pass.missed with
      | mk result next =>
        rw [ended] at spared
        cases result with
        | error e => exact spared
        | ok d => cases tracing <;> exact spared

end Memo

namespace Term

variable {left right scene : Scene} {σ γ : Type} {strategy : Strategy (ExceptT Error (StateM σ))}
  {look : σ → γ} {own : Address}

/-- Evaluations at places inside of which no place has a given node. -/
def elsewhere (spares : strategy.Spares look own) (sharing : Sharing)
    (registry : left.registry = right.registry) (contents : left.contents = right.contents) :
    (Simulation.leaving look).Congruence left right (strategy.shared sharing)
      (strategy.shared sharing) where
  Related _ _ a s s' _ := (∀ path, own ≠ sharing.node (a.below path)) ∧ s = s'
  strategies := spares.strategies sharing
  registry := registry
  facts _ id _ := congrFun contents id
  symbols related _ name _ := by rw [related.2, contents]
  operands related _ i _ _ := by
    refine ⟨fun path => ?_, related.2⟩
    rw [Address.operand_below]
    exact related.1 (path ++ [i])
  selector related id _ := by
    refine ⟨fun path => ?_, by rw [related.2]⟩
    rw [Address.operand_below]
    exact related.1 (path ++ [0])
  body {t u a a' s s' all kept front front'} related _ leads := by
    have same : front = front' := Simulation.eq_of_leads _ (fun _ _ same => same) leads
    refine ⟨fun path => ?_, by rw [related.2, same]⟩
    rw [Address.operand_below]
    exact related.1 (path ++ [1])
  memory related d := spares.exchange _ d (related.1 [])
  answer related _ _ leaves := spares.answer _ _ _ _ (related.1 []) leaves

/-- An operand does nothing for the node of the term that it is an operand of. -/
theorem leaves_operand {sharing : Sharing} {address : Address}
    (spares : strategy.Spares look (sharing.node address)) (operand : Operand Term) (i : Nat)
    (subject : Subject) (all : List FactId) :
    Leaves look (resolve scene (strategy.shared sharing) operand (address.operand i) subject
      all) := by
  refine (elsewhere spares sharing (rfl : scene.registry = _) rfl).resolve_matches operand
    (a := address.operand i) (fun _ _ => rfl) ?_
  intro u _
  refine ⟨fun path same => ?_, rfl⟩
  apply sharing.apart address (path ++ [i]) (by simp)
  rw [same, Address.operand_below]

/-- The operator of a term does nothing for the node of the term, because no operand has this node,
unless it remembers. -/
theorem leaves_perform {sharing : Sharing} {address : Address}
    (spares : strategy.Spares look (sharing.node address)) (t : Term) (subject : Subject)
    (all : List FactId)
    (exchange : ∀ d, Leaves look (strategy.exchange (sharing.node address) d)) :
    Leaves look (Operation.perform scene (strategy.shared sharing) subject all t address
      (arguments scene (strategy.shared sharing) address 0 t.operands)) := by
  let args := arguments scene (strategy.shared sharing) address 0 t.operands
  have operands : List.Forall₂ (fun a b => a.operand = b.operand ∧ ∀ subject all,
      (Simulation.leaving look).Matches (a.value subject all) (b.value subject all)) args args := by
    rw [List.forall₂_same]
    intro a mem
    obtain ⟨i, -, value⟩ := mem_arguments mem
    refine ⟨rfl, fun subject all => ?_⟩
    rw [value, Nat.zero_add]
    exact leaves_operand spares a.operand i subject all
  have leaves : (Simulation.leaving look).Matches
      (Operation.perform scene (strategy.shared sharing) subject all t address args)
      (Operation.perform scene (strategy.shared sharing) subject all t address args) :=
    Simulation.perform_matches_of_values _ (spares.strategies sharing) (fun _ _ same => same)
      subject all t operands exchange
  exact leaves

/-- The operator of a term at a place leaves the results for the node there as they are. -/
theorem spares_perform {sharing : Sharing} {tracing : Bool} {key : Key} {address : Address}
    (own : key.address = sharing.node address) (t : Term) (subject : Subject) (all : List FactId) :
    Memo.Spares key (Operation.perform scene ((Memo.strategy tracing).shared sharing) subject all t
      address (arguments scene ((Memo.strategy tracing).shared sharing) address 0 t.operands)) := by
  have spares := Memo.strategy_spares tracing key
  rw [own] at spares
  exact leaves_perform spares t subject all fun _ _ => rfl

end Term

end Annals
