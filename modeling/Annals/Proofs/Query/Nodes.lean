import Annals.Query.Node

/-!
# The numbers of nodes

Numbers are given to nodes one after the other, and a node may stand in many places. So a number
stands for one node only: `Node.Apart` says so of all the nodes that somebody may hold and of the
number for the next new one, and `Node.Coherent` of the nodes in one node.

* `Node.Numbered` says that the nodes in a list of operands are old ones or were made in order;
  `Node.Numbered.cons` and `Node.Numbered.node` add an operand and a node.
* `Node.Apart.extend`: nodes that were made in order stay apart from the old ones.
-/

set_option autoImplicit false

namespace Annals.Node

/-! ### The nodes in a node -/

mutual

/-- The nodes in a node, itself included, as often as they stand there. -/
def nodes : Node → List Node
  | mk number op operands => mk number op operands :: nodesIn operands

/-- The nodes in an operand. -/
def nodesOf : Operand Node → List Node
  | .literal _ => []
  | .symbol _ => []
  | .term x => nodes x

/-- The nodes in the operands of a list. -/
def nodesIn : List (Operand Node) → List Node
  | [] => []
  | operand :: rest => nodesOf operand ++ nodesIn rest

end

theorem mem_nodes_self (x : Node) : x ∈ x.nodes := by
  cases x with
  | mk number op operands =>
    rw [nodes]
    exact List.mem_cons_self

theorem mem_nodesIn {operands : List (Operand Node)} {z : Node} :
    z ∈ nodesIn operands ↔ ∃ y, .term y ∈ operands ∧ z ∈ y.nodes := by
  induction operands with
  | nil => simp [nodesIn]
  | cons first rest ih =>
    rw [nodesIn, List.mem_append, ih]
    cases first with
    | literal v => simp [nodesOf]
    | symbol name => simp [nodesOf]
    | term x => simp [nodesOf]

theorem nodesIn_single (x : Node) : nodesIn [.term x] = x.nodes := by
  rw [nodesIn, nodesOf, nodesIn, List.append_nil]

mutual

/-- The nodes in a node of a node are nodes in it. -/
theorem mem_nodes_trans : ∀ (x : Node) {y z : Node}, y ∈ x.nodes → z ∈ y.nodes → z ∈ x.nodes
  | mk number op operands, y, z, inner, mem => by
    rw [nodes] at inner ⊢
    rcases List.mem_cons.mp inner with rfl | inner
    · rw [nodes] at mem
      exact mem
    · exact List.mem_cons_of_mem _ (mem_nodesIn_trans operands inner mem)

theorem mem_nodesIn_trans : ∀ (operands : List (Operand Node)) {y z : Node},
    y ∈ nodesIn operands → z ∈ y.nodes → z ∈ nodesIn operands
  | [], y, z, inner, mem => by cases inner
  | first :: rest, y, z, inner, mem => by
    rw [nodesIn] at inner ⊢
    rcases List.mem_append.mp inner with inner | inner
    · exact List.mem_append_left _ (mem_nodesOf_trans first inner mem)
    · exact List.mem_append_right _ (mem_nodesIn_trans rest inner mem)

theorem mem_nodesOf_trans : ∀ (operand : Operand Node) {y z : Node},
    y ∈ nodesOf operand → z ∈ y.nodes → z ∈ nodesOf operand
  | .literal _, y, z, inner, mem => by cases inner
  | .symbol _, y, z, inner, mem => by cases inner
  | .term x, y, z, inner, mem => by
    rw [nodesOf] at inner ⊢
    exact mem_nodes_trans x inner mem

end

/-- The old nodes were made before the next one, and one number stands for one of them. -/
structure Apart (old : Node → Prop) (next : Nat) : Prop where
  below : ∀ z, old z → z.number < next
  same : ∀ y z, old y → old z → y.number = z.number → y = z

/-- All nodes in a node were made before the next one, and one number stands for one node. -/
def Coherent (next : Nat) (x : Node) : Prop := Apart (· ∈ x.nodes) next

section Coherent

variable {number next next' : Nat} {op : Operator} {operands : List (Operand Node)} {x y : Node}

theorem Apart.mono {old older : Node → Prop} (apart : Apart old next) (le : next ≤ next')
    (fewer : ∀ z, older z → old z) : Apart older next' :=
  ⟨fun z isOld => Nat.lt_of_lt_of_le (apart.below z (fewer z isOld)) le,
    fun y z isOld isOld' => apart.same y z (fewer y isOld) (fewer z isOld')⟩

theorem Coherent.later (coherent : x.Coherent next) (le : next ≤ next') : x.Coherent next' :=
  Apart.mono coherent le fun _ mem => mem

theorem Coherent.of_mem (coherent : x.Coherent next) (mem : y ∈ x.nodes) : y.Coherent next :=
  Apart.mono coherent (Nat.le_refl next) fun _ inner => mem_nodes_trans x mem inner

theorem Coherent.operand (coherent : (Node.mk number op operands).Coherent next)
    (mem : .term y ∈ operands) : y.Coherent next := by
  refine coherent.of_mem ?_
  rw [nodes]
  exact List.mem_cons_of_mem _ (mem_nodesIn.mpr ⟨y, mem, mem_nodes_self y⟩)

end Coherent

/-! ### Numbers -/

/-- The nodes in operands are old ones, or they were made one after the other with the numbers from
`low` on and below `high`. -/
structure Numbered (old : Node → Prop) (low high : Nat) (operands : List (Operand Node)) :
    Prop where
  le : low ≤ high
  bounds : ∀ z ∈ nodesIn operands, old z ∨ low ≤ z.number ∧ z.number < high
  distinct : ∀ z ∈ nodesIn operands, ∀ w ∈ nodesIn operands,
    low ≤ z.number → z.number = w.number → z = w

section Numbered

variable {old : Node → Prop} {low mid high : Nat} {operands rest : List (Operand Node)}
variable {operand : Operand Node}

theorem numbered_of_old (le : low ≤ high) (older : ∀ z, old z → z.number < low)
    (all : ∀ z ∈ nodesIn operands, old z) : Numbered old low high operands := by
  refine ⟨le, fun z mem => .inl (all z mem), fun z mem w _ atLeast _ => ?_⟩
  exact absurd (older z (all z mem)) (Nat.not_lt.mpr atLeast)

theorem Numbered.subset (numbered : Numbered old low high operands)
    (fewer : ∀ operand ∈ rest, operand ∈ operands) : Numbered old low high rest := by
  have among : ∀ z ∈ nodesIn rest, z ∈ nodesIn operands := by
    intro z mem
    obtain ⟨y, isOperand, inner⟩ := mem_nodesIn.mp mem
    exact mem_nodesIn.mpr ⟨y, fewer _ isOperand, inner⟩
  exact ⟨numbered.le, fun z mem => numbered.bounds z (among z mem),
    fun z mem w mem' => numbered.distinct z (among z mem) w (among w mem')⟩

/-- An operand was made before the others. -/
theorem Numbered.cons (older : ∀ z, old z → z.number < low)
    (first : Numbered old low mid [operand]) (others : Numbered old mid high rest) :
    Numbered old low high (operand :: rest) := by
  have split : ∀ z, z ∈ nodesIn (operand :: rest) ↔ z ∈ nodesIn [operand] ∨ z ∈ nodesIn rest := by
    intro z
    simp only [nodesIn, List.append_nil, List.mem_append]
  have le := first.le
  have le' := others.le
  -- a number from `low` on is that of a new node, and it shows which part the node is in
  have inFirst : ∀ z ∈ nodesIn [operand], low ≤ z.number → z.number < mid := by
    intro z mem atLeast
    rcases first.bounds z mem with isOld | new
    · have := older z isOld
      omega
    · exact new.2
  have inRest : ∀ z ∈ nodesIn rest, low ≤ z.number → mid ≤ z.number := by
    intro z mem atLeast
    rcases others.bounds z mem with isOld | new
    · have := older z isOld
      omega
    · exact new.1
  refine ⟨by omega, fun z mem => ?_, fun z mem w mem' atLeast same => ?_⟩
  · rcases (split z).mp mem with mem | mem
    · exact (first.bounds z mem).imp_right fun new => ⟨new.1, by omega⟩
    · exact (others.bounds z mem).imp_right fun new => ⟨by omega, new.2⟩
  · rcases (split z).mp mem with mem | mem <;> rcases (split w).mp mem' with mem' | mem'
    · exact first.distinct z mem w mem' atLeast same
    · have before := inFirst z mem atLeast
      have after := inRest w mem' (by omega)
      omega
    · have after := inRest z mem atLeast
      have before := inFirst w mem' (by omega)
      omega
    · exact others.distinct z mem w mem' (inRest z mem atLeast) same

/-- A node is made after its operands. -/
theorem Numbered.node (older : ∀ z, old z → z.number < low)
    (numbered : Numbered old low high operands) (op : Operator) :
    Numbered old low (high + 1) [.term (Node.mk high op operands)] := by
  have le := numbered.le
  have below : ∀ z ∈ nodesIn operands, z.number < high := by
    intro z mem
    rcases numbered.bounds z mem with isOld | new
    · have := older z isOld
      omega
    · exact new.2
  refine ⟨by omega, ?_, ?_⟩
  · rw [nodesIn_single, nodes]
    refine List.forall_mem_cons.mpr ⟨.inr ⟨le, Nat.lt_succ_self high⟩, fun z mem => ?_⟩
    exact (numbered.bounds z mem).imp_right fun new => ⟨new.1, by omega⟩
  · rw [nodesIn_single, nodes]
    intro z mem w mem' atLeast same
    rcases List.mem_cons.mp mem with rfl | mem <;> rcases List.mem_cons.mp mem' with rfl | mem'
    · rfl
    · exact absurd same.symm (Nat.ne_of_lt (below w mem'))
    · exact absurd same (Nat.ne_of_lt (below z mem))
    · exact numbered.distinct z mem w mem' atLeast same

/-- Nodes that were made in order stay apart from the old ones. -/
theorem Apart.extend (apart : Apart old low) {x : Node}
    (numbered : Numbered old low high [.term x]) :
    Apart (fun z => z ∈ x.nodes ∨ old z) high := by
  obtain ⟨le, bounds, distinct⟩ := numbered
  rw [nodesIn_single] at bounds distinct
  have below : ∀ z, old z → z.number < high :=
    fun z isOld => Nat.lt_of_lt_of_le (apart.below z isOld) le
  -- only an old node has a number below `low`
  have isOld : ∀ z, z ∈ x.nodes ∨ old z → z.number < low → old z := by
    intro z among early
    rcases among with mem | isOld
    · exact (bounds z mem).resolve_right fun new => Nat.not_le.mpr early new.1
    · exact isOld
  have isNew : ∀ z, z ∈ x.nodes ∨ old z → low ≤ z.number → z ∈ x.nodes :=
    fun z among late => among.resolve_right fun isOld =>
      Nat.not_le.mpr (apart.below z isOld) late
  refine ⟨fun z among => ?_, fun y z among among' same => ?_⟩
  · rcases among with mem | isOld
    · rcases bounds z mem with isOld | new
      · exact below z isOld
      · exact new.2
    · exact below z isOld
  · rcases Nat.lt_or_ge y.number low with early | late
    · exact apart.same y z (isOld y among early) (isOld z among' (same ▸ early)) same
    · exact distinct y (isNew y among late) z (isNew z among' (same ▸ late)) late same

end Numbered

mutual

/-- Making a node of a term keeps the term. -/
theorem term_ofTerm : ∀ (t : Term) (next : Nat), (ofTerm t next).1.term = t
  | .node op operands, next => by
    rw [ofTerm, term, operandTerms_ofOperands operands next]

theorem operandTerms_ofOperands : ∀ (operands : List (Operand Term)) (next : Nat),
    operandTerms (ofOperands operands next).1 = operands
  | [], next => by rw [ofOperands, operandTerms]
  | first :: rest, next => by
    rw [ofOperands, operandTerms, operandTerm_ofOperand first next, operandTerms_ofOperands rest _]

theorem operandTerm_ofOperand : ∀ (operand : Operand Term) (next : Nat),
    operandTerm (ofOperand operand next).1 = operand
  | .literal v, next => by rw [ofOperand, operandTerm]
  | .symbol name, next => by rw [ofOperand, operandTerm]
  | .term t, next => by rw [ofOperand, operandTerm, term_ofTerm t next]

end

end Annals.Node
