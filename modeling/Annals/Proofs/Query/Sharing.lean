import Annals.Proofs.Query.Nodes
import Annals.Proofs.Query.Normal

/-!
# Simplifying nodes

A node is simplified to a node of the simplified term. Whether that is the node itself, a node in it
or a new one is decided by comparing numbers and lengths, which is sound as long as a number stands
for one node only.

* `Node.Made` says which nodes somebody may hold who makes nodes and simplifies them, in any order;
  `Node.Made.apart` is what can be relied on then, and `Node.made_ofTerm` makes any term.
* `Node.term_simplify`: simplifying a coherent node simplifies its term.
* `Node.simplify_of_term`: a node whose term stays as it is comes out as itself and takes no number.
* `Node.simplify_normal` is the result: nothing is left to do after a node was simplified, so that
  simplifying it again gives the very same node.
-/

set_option autoImplicit false

namespace Annals

open Term (Joins)

namespace Node

section Lists

variable {number next : Nat} {op : Operator} {operands kept : List (Operand Node)}

theorem length_operandTerms (operands : List (Operand Node)) :
    (operandTerms operands).length = operands.length := by
  induction operands with
  | nil => rfl
  | cons first rest ih => rw [operandTerms, List.length_cons, List.length_cons, ih]

theorem firstOccurrences_sublist (seen : List String) (operands : List (Operand Node)) :
    (firstOccurrences seen operands).Sublist operands := by
  induction operands generalizing seen with
  | nil => exact List.Sublist.slnil
  | cons first rest ih =>
    simp only [firstOccurrences]
    split
    · exact (ih seen).cons first
    · exact (ih _).cons_cons first

/-- First occurrences are those of the terms. -/
theorem operandTerms_firstOccurrences (seen : List String) (operands : List (Operand Node)) :
    operandTerms (firstOccurrences seen operands)
      = Term.firstOccurrences seen (operandTerms operands) := by
  induction operands generalizing seen with
  | nil => rfl
  | cons first rest ih =>
    simp only [firstOccurrences, operandTerms, Term.firstOccurrences]
    split
    · exact ih seen
    · rw [operandTerms, ih]

theorem unchanged_self (operands : List (Operand Node)) : unchanged operands operands = true := by
  induction operands with
  | nil => rfl
  | cons first rest ih =>
    rw [unchanged, List.zip_cons_cons, List.all_cons, Bool.and_eq_true]
    refine ⟨?_, ih⟩
    cases first with
    | term x => exact beq_self_eq_true x.number
    | literal v => rfl
    | symbol name => rfl

theorem length_simplifyOperands (operands : List (Operand Node)) (next : Nat) :
    (simplifyOperands operands next).1.length = operands.length := by
  induction operands generalizing next with
  | nil => rfl
  | cons first rest ih => rw [simplifyOperands, List.length_cons, List.length_cons, ih]

theorem operandTerms_ne (several : ∀ x, kept ≠ [.term x]) (t : Term) :
    operandTerms kept ≠ [.term t] := by
  intro single
  cases kept with
  | nil => cases single
  | cons first rest =>
    rw [operandTerms] at single
    obtain ⟨isTerm, none⟩ := List.cons.inj single
    have nothing : rest = [] := by
      rw [← List.length_eq_zero_iff, ← length_operandTerms, none, List.length_nil]
    cases first with
    | literal v => cases isTerm
    | symbol name => cases isTerm
    | term x => exact several x (by rw [nothing])

theorem simplify_joins (joins : Joins op) : simplify (mk number op operands) next
    = settle number op operands (firstOccurrences [] (simplifyOperands operands next).1)
        (simplifyOperands operands next).2 := by
  rcases joins with rfl | rfl
  · simp only [simplify]
  · simp only [simplify]

theorem simplify_other (other : ¬Joins op) :
    simplify (mk number op operands) next = (mk number op operands, next) := by
  cases op with
  | and => exact absurd (.inl rfl) other
  | or => exact absurd (.inr rfl) other
  | _ => simp only [simplify]

/-- What can be left of a node. -/
theorem settle_cases (number : Nat) (op : Operator) (operands kept : List (Operand Node))
    (next : Nat) :
    (∃ x, kept = [.term x] ∧ settle number op operands kept next = (x, next)) ∨
    (∀ x, kept ≠ [.term x]) ∧
      (kept.length = operands.length ∧ unchanged operands kept = true
          ∧ settle number op operands kept next = (mk number op operands, next) ∨
        ¬(kept.length = operands.length ∧ unchanged operands kept = true)
          ∧ settle number op operands kept next = (mk next op kept, next + 1)) := by
  unfold settle
  split
  · next x => exact .inl ⟨x, rfl, rfl⟩
  · next several =>
    refine .inr ⟨several, ?_⟩
    by_cases same : kept.length = operands.length ∧ unchanged operands kept = true
    · exact .inl ⟨same.1, same.2, if_pos same⟩
    · exact .inr ⟨same, if_neg same⟩

end Lists

/-! ### Nodes that stay -/

mutual

/-- A node whose term is not changed comes out as itself, and takes no number. -/
theorem simplify_of_term : ∀ (x : Node), x.term.simplify = x.term →
    ∀ next, x.simplify next = (x, next)
  | mk number op operands, same, next => by
    by_cases joins : Joins op
    · rw [term] at same
      obtain ⟨simple, first, several⟩ := Term.simplify_eq_self joins same
      have kept : firstOccurrences [] operands = operands := by
        refine (firstOccurrences_sublist [] operands).eq_of_length ?_
        rw [← length_operandTerms, operandTerms_firstOccurrences, first, length_operandTerms]
      rw [simplify_joins joins, simplifyOperands_of_terms operands simple next, kept]
      rcases settle_cases number op operands operands next with
        ⟨x, single, -⟩ | ⟨-, ⟨-, -, settled⟩ | ⟨changed, -⟩⟩
      · rw [single] at several
        exact absurd rfl (several x.term)
      · exact settled
      · exact absurd ⟨rfl, unchanged_self operands⟩ changed
    · exact simplify_other joins

theorem simplifyOperands_of_terms : ∀ (operands : List (Operand Node)),
    Term.simplifyOperands (operandTerms operands) = operandTerms operands →
    ∀ next, simplifyOperands operands next = (operands, next)
  | [], _, next => rfl
  | first :: rest, same, next => by
    rw [operandTerms, Term.simplifyOperands] at same
    obtain ⟨here, later⟩ := List.cons.inj same
    simp only [simplifyOperands, simplifyOperand_of_term first here next,
      simplifyOperands_of_terms rest later next]

theorem simplifyOperand_of_term : ∀ (operand : Operand Node),
    Term.simplifyOperand (operandTerm operand) = operandTerm operand →
    ∀ next, simplifyOperand operand next = (operand, next)
  | .literal _, _, next => rfl
  | .symbol _, _, next => rfl
  | .term x, same, next => by
    have inner : x.term.simplify = x.term := Operand.term.inj same
    simp only [simplifyOperand, simplify_of_term x inner next]

end

/-! ### Coherent nodes -/

mutual

/-- The nodes in what a node is simplified to are old ones or were made in order. -/
theorem numbered_simplify (old : Node → Prop) : ∀ (x : Node) (next : Nat),
    (∀ z, old z → z.number < next) → (∀ z ∈ x.nodes, old z) →
    Numbered old next (x.simplify next).2 [.term (x.simplify next).1]
  | mk number op operands, next, older, all => by
    by_cases joins : Joins op
    · have inside : ∀ z ∈ nodesIn operands, old z := by
        intro z mem
        refine all z ?_
        rw [nodes]
        exact List.mem_cons_of_mem _ mem
      have simple := numbered_simplifyOperands old operands next older inside
      have kept := simple.subset (fun operand mem =>
        (firstOccurrences_sublist [] (simplifyOperands operands next).1).mem mem)
      rw [simplify_joins joins]
      rcases settle_cases number op operands
          (firstOccurrences [] (simplifyOperands operands next).1)
          (simplifyOperands operands next).2 with
        ⟨x, single, settled⟩ | ⟨-, ⟨-, -, settled⟩ | ⟨-, settled⟩⟩
      · rw [settled]
        rw [single] at kept
        exact kept
      · rw [settled]
        exact numbered_of_old simple.le older (by rw [nodesIn_single]; exact all)
      · rw [settled]
        exact kept.node older op
    · rw [simplify_other joins]
      exact numbered_of_old (Nat.le_refl next) older (by rw [nodesIn_single]; exact all)

theorem numbered_simplifyOperands (old : Node → Prop) : ∀ (operands : List (Operand Node))
    (next : Nat), (∀ z, old z → z.number < next) → (∀ z ∈ nodesIn operands, old z) →
    Numbered old next (simplifyOperands operands next).2 (simplifyOperands operands next).1
  | [], next, older, all => numbered_of_old (Nat.le_refl next) older all
  | first :: rest, next, older, all => by
    rw [nodesIn] at all
    have here := numbered_simplifyOperand old first next older
      (fun z mem => all z (List.mem_append_left _ mem))
    have later := numbered_simplifyOperands old rest (simplifyOperand first next).2
      (fun z isOld => Nat.lt_of_lt_of_le (older z isOld) here.le)
      (fun z mem => all z (List.mem_append_right _ mem))
    rw [simplifyOperands]
    exact here.cons older later

theorem numbered_simplifyOperand (old : Node → Prop) : ∀ (operand : Operand Node) (next : Nat),
    (∀ z, old z → z.number < next) → (∀ z ∈ nodesOf operand, old z) →
    Numbered old next (simplifyOperand operand next).2 [(simplifyOperand operand next).1]
  | .literal _, next, older, _ =>
    numbered_of_old (Nat.le_refl next) older (fun _ mem => by cases mem)
  | .symbol _, next, older, _ =>
    numbered_of_old (Nat.le_refl next) older (fun _ mem => by cases mem)
  | .term x, next, older, all => by
    rw [simplifyOperand]
    exact numbered_simplify old x next older all

end

section Coherent

variable {next : Nat} {x : Node}

theorem Coherent.numbered_simplify (coherent : x.Coherent next) :
    Numbered (· ∈ x.nodes) next (x.simplify next).2 [.term (x.simplify next).1] :=
  Node.numbered_simplify _ x next coherent.below (fun _ mem => mem)

/-- What a node is simplified to is the node itself if it has its number. -/
theorem simplify_of_number (coherent : x.Coherent next)
    (same : (x.simplify next).1.number = x.number) : (x.simplify next).1 = x := by
  have here := mem_nodes_self (x.simplify next).1
  have bounds := coherent.numbered_simplify.bounds (x.simplify next).1 (by rwa [nodesIn_single])
  rcases bounds with old | ⟨new, -⟩
  · exact coherent.same _ x old (mem_nodes_self x) same
  · rw [same] at new
    exact absurd (coherent.below x (mem_nodes_self x)) (Nat.not_lt.mpr new)

theorem coherent_first {first : Operand Node} {rest : List (Operand Node)}
    (coherent : ∀ y, .term y ∈ first :: rest → y.Coherent next) (y : Node)
    (isFirst : first = .term y) : y.Coherent next :=
  coherent y (isFirst ▸ List.mem_cons_self)

theorem le_simplifyOperand {operand : Operand Node}
    (coherent : ∀ y, operand = .term y → y.Coherent next) :
    next ≤ (simplifyOperand operand next).2 := by
  cases operand with
  | literal v => exact Nat.le_refl next
  | symbol name => exact Nat.le_refl next
  | term y => exact (coherent y rfl).numbered_simplify.le

/-- Simplified operands with the numbers of the operands are the operands themselves. -/
theorem simplifyOperands_of_unchanged {operands : List (Operand Node)}
    (coherent : ∀ y, .term y ∈ operands → y.Coherent next)
    (same : unchanged operands (simplifyOperands operands next).1 = true) :
    (simplifyOperands operands next).1 = operands := by
  induction operands generalizing next with
  | nil => rfl
  | cons first rest ih =>
    rw [simplifyOperands, unchanged, List.zip_cons_cons, List.all_cons, Bool.and_eq_true] at same
    have le := le_simplifyOperand (coherent_first coherent)
    have later := ih (fun y mem => (coherent y (List.mem_cons_of_mem first mem)).later le) same.2
    simp only [simplifyOperands, later]
    congr 1
    cases first with
    | literal v => rfl
    | symbol name => rfl
    | term y =>
      have number := beq_iff_eq.mp same.1
      exact congrArg Operand.term
        (simplify_of_number (coherent y List.mem_cons_self) number.symm)

end Coherent

mutual

/-- Simplifying a coherent node simplifies its term. -/
theorem term_simplify : ∀ (x : Node) {next : Nat}, x.Coherent next →
    (x.simplify next).1.term = x.term.simplify
  | mk number op operands, next, coherent => by
    by_cases joins : Joins op
    · have inner : ∀ y, .term y ∈ operands → y.Coherent next := fun y mem => coherent.operand mem
      rw [simplify_joins joins, term, Term.simplify_joins joins,
        ← operandTerms_simplifyOperands operands inner, ← operandTerms_firstOccurrences]
      rcases settle_cases number op operands
          (firstOccurrences [] (simplifyOperands operands next).1)
          (simplifyOperands operands next).2 with
        ⟨x, single, settled⟩ | ⟨several, ⟨length, same, settled⟩ | ⟨-, settled⟩⟩
      · rw [settled, single]
        rfl
      · -- nothing was left out, and the operands that are terms are the same ones
        have all := (firstOccurrences_sublist [] (simplifyOperands operands next).1).eq_of_length
          (length.trans (length_simplifyOperands operands next).symm)
        rw [settled, Term.collapse_of_ne (operandTerms_ne several), all]
        rw [all] at same
        rw [simplifyOperands_of_unchanged inner same, term]
      · rw [settled, Term.collapse_of_ne (operandTerms_ne several), term]
    · rw [simplify_other joins, term, Term.simplify_other joins]

theorem operandTerms_simplifyOperands : ∀ (operands : List (Operand Node)) {next : Nat},
    (∀ y, .term y ∈ operands → y.Coherent next) →
    operandTerms (simplifyOperands operands next).1
      = Term.simplifyOperands (operandTerms operands)
  | [], _, _ => rfl
  | first :: rest, next, coherent => by
    have le := le_simplifyOperand (coherent_first coherent)
    have here := operandTerm_simplifyOperand first (coherent_first coherent)
    have later := operandTerms_simplifyOperands rest fun y mem =>
      (coherent y (List.mem_cons_of_mem first mem)).later le
    rw [simplifyOperands, operandTerms, operandTerms, Term.simplifyOperands, here, later]

theorem operandTerm_simplifyOperand : ∀ (operand : Operand Node) {next : Nat},
    (∀ y, operand = .term y → y.Coherent next) →
    operandTerm (simplifyOperand operand next).1 = Term.simplifyOperand (operandTerm operand)
  | .literal _, _, _ => rfl
  | .symbol _, _, _ => rfl
  | .term x, next, coherent => by
    rw [simplifyOperand, operandTerm, operandTerm, Term.simplifyOperand,
      term_simplify x (coherent x rfl)]

end

/-! ### Nodes that were made -/

/-- The nodes that somebody may hold, where `next` is the number for the next new one. A node is
made of others that are held, a node in one that is held can be taken, and numbers may be taken by
others. -/
inductive Made : Nat → List Node → Prop
  | none : Made 0 []
  | new {next : Nat} {held : List Node} {op : Operator} {operands : List (Operand Node)}
    (made : Made next held) (parts : ∀ y, .term y ∈ operands → y ∈ held) :
    Made (next + 1) (mk next op operands :: held)
  | part {next : Nat} {held : List Node} {x y : Node} (made : Made next held) (isHeld : x ∈ held)
    (inside : y ∈ x.nodes) : Made next (y :: held)
  | simplify {next : Nat} {held : List Node} {x : Node} (made : Made next held)
    (isHeld : x ∈ held) : Made (x.simplify next).2 ((x.simplify next).1 :: held)
  | later {next later : Nat} {held : List Node} (made : Made next held) (le : next ≤ later) :
    Made later held

theorem mem_nodes_of_held {y z : Node} {held : List Node} (among : ∃ x ∈ y :: held, z ∈ x.nodes) :
    z ∈ y.nodes ∨ ∃ x ∈ held, z ∈ x.nodes := by
  obtain ⟨x, isHeld, mem⟩ := among
  rcases List.mem_cons.mp isHeld with rfl | isHeld
  · exact .inl mem
  · exact .inr ⟨x, isHeld, mem⟩

/-- The nodes in nodes that are held are apart. -/
theorem Made.apart {next : Nat} {held : List Node} (made : Made next held) :
    Apart (fun z => ∃ x ∈ held, z ∈ x.nodes) next := by
  induction made with
  | none =>
    refine ⟨?_, ?_⟩
    · rintro z ⟨x, isHeld, -⟩
      cases isHeld
    · rintro y z ⟨x, isHeld, -⟩
      cases isHeld
  | @new next held op operands made parts ih =>
    have old : ∀ z ∈ nodesIn operands, ∃ x ∈ held, z ∈ x.nodes := by
      intro z mem
      obtain ⟨y, isOperand, inside⟩ := mem_nodesIn.mp mem
      exact ⟨y, parts y isOperand, inside⟩
    have numbered := (numbered_of_old (Nat.le_refl next) ih.below old).node ih.below op
    exact (ih.extend numbered).mono (Nat.le_refl _) fun z => mem_nodes_of_held
  | @part next held x y made isHeld inside ih =>
    refine ih.mono (Nat.le_refl next) fun z among => ?_
    rcases mem_nodes_of_held among with mem | old
    · exact ⟨x, isHeld, mem_nodes_trans x inside mem⟩
    · exact old
  | @simplify next held x made isHeld ih =>
    have numbered := numbered_simplify _ x next ih.below fun z mem => ⟨x, isHeld, mem⟩
    exact (ih.extend numbered).mono (Nat.le_refl _) fun z => mem_nodes_of_held
  | later made le ih => exact ih.mono le fun _ among => among

theorem Made.coherent {next : Nat} {held : List Node} {x : Node} (made : Made next held)
    (isHeld : x ∈ held) : x.Coherent next :=
  made.apart.mono (Nat.le_refl next) fun _ mem => ⟨x, isHeld, mem⟩

mutual

/-- Every term can be made, whatever is held. -/
theorem made_ofTerm : ∀ (t : Term) {next : Nat} {held : List Node}, Made next held →
    ∃ held', held ⊆ held' ∧ (ofTerm t next).1 ∈ held' ∧ Made (ofTerm t next).2 held'
  | .node op operands, next, held, made => by
    obtain ⟨held', more, parts, made'⟩ := made_ofOperands operands made
    rw [ofTerm]
    exact ⟨_, List.subset_cons_of_subset _ more, List.mem_cons_self, .new made' parts⟩

theorem made_ofOperands : ∀ (operands : List (Operand Term)) {next : Nat} {held : List Node},
    Made next held → ∃ held', held ⊆ held' ∧
      (∀ y, .term y ∈ (ofOperands operands next).1 → y ∈ held') ∧
      Made (ofOperands operands next).2 held'
  | [], next, held, made =>
    ⟨held, List.Subset.refl held, fun _ mem => absurd mem List.not_mem_nil, made⟩
  | first :: rest, next, held, made => by
    obtain ⟨held', more, here, made'⟩ := made_ofOperand first made
    obtain ⟨held'', more', others, made''⟩ := made_ofOperands rest made'
    rw [ofOperands]
    refine ⟨held'', List.Subset.trans more more', fun y mem => ?_, made''⟩
    rcases List.mem_cons.mp mem with isFirst | isOther
    · exact more' (here y isFirst.symm)
    · exact others y isOther

theorem made_ofOperand : ∀ (operand : Operand Term) {next : Nat} {held : List Node},
    Made next held → ∃ held', held ⊆ held' ∧
      (∀ y, (ofOperand operand next).1 = .term y → y ∈ held') ∧
      Made (ofOperand operand next).2 held'
  | .literal _, next, held, made =>
    ⟨held, List.Subset.refl held, (fun _ same => nomatch same), made⟩
  | .symbol _, next, held, made =>
    ⟨held, List.Subset.refl held, (fun _ same => nomatch same), made⟩
  | .term t, next, held, made => by
    obtain ⟨held', more, isHeld, made'⟩ := made_ofTerm t made
    rw [ofOperand]
    refine ⟨held', more, fun y same => ?_, made'⟩
    rw [← Operand.term.inj same]
    exact isHeld

end

/-- What is made of a term is coherent. -/
theorem coherent_ofTerm (t : Term) : (ofTerm t 0).1.Coherent (ofTerm t 0).2 := by
  obtain ⟨held, -, isHeld, made⟩ := made_ofTerm t .none
  exact made.coherent isHeld

section Normal

variable {next : Nat} {x : Node}

/-- Simplifying gives the very same node if and only if it does not change the term. -/
theorem simplify_eq_self_iff (coherent : x.Coherent next) :
    (x.simplify next).1.number = x.number ↔ x.term.simplify = x.term := by
  constructor
  · intro same
    rw [← term_simplify x coherent, simplify_of_number coherent same]
  · intro same
    rw [simplify_of_term x same]

/-- Whatever nodes were made and simplified before, a node is simplified to one for which nothing is
left to do. Of the conjunctions and disjunctions that are reached in it through others, none has two
operands of one text, or a single operand that is a term. Its text is not longer and its terms are
not nested deeper than before. If it is simplified again, at any time, then the very same node comes
out and no other is made. -/
theorem simplify_normal {held : List Node} (made : Made next held) (isHeld : x ∈ held) :
    let y := (x.simplify next).1
    y.term = x.term.simplify ∧
    (∀ u, Term.Reaches y.term u → (u.operands.map Term.operandText).Nodup
      ∧ ∀ t, u.operands ≠ [.term t]) ∧
    (y.term.text.length ≤ x.term.text.length
      ∧ y.term.text.utf8ByteSize ≤ x.term.text.utf8ByteSize) ∧
    y.term.depth ≤ x.term.depth ∧
    ∀ later, y.simplify later = (y, later) := by
  intro y
  have isTerm : y.term = x.term.simplify := term_simplify x (made.coherent isHeld)
  rw [isTerm]
  refine ⟨rfl, fun u reaches => ?_, Term.length_text_simplify x.term,
    (Term.contains_simplify x.term).shallow, simplify_of_term y ?_⟩
  · have settled := Term.settled_of_reaches x.term reaches
    exact ⟨settled.distinct, settled.several⟩
  · rw [isTerm, Term.simplify_simplify]

/-- A node that stands three times in another one is the one operand of a term that is left of it;
the conjunction around it is made anew, and simplified again it is the very same. -/
theorem simplify_normal_shared :
    let shared : Node := .mk 0 .present [.symbol "a"]
    let twice : Node := .mk 1 .and [.term shared, .term shared]
    let either : Node := .mk 2 .or [.term twice, .term shared]
    let whole : Node := .mk 3 .and [.term either, .symbol "b"]
    let simple : Node := .mk 4 .and [.term shared, .symbol "b"]
    Made 4 [whole, either, twice, shared] ∧ either.simplify 4 = (shared, 4)
      ∧ whole.simplify 4 = (simple, 5) ∧ simple.term.depth ≤ whole.term.depth
      ∧ ∀ later, simple.simplify later = (simple, later) := by
  intro shared twice either whole simple
  have made : Made 4 [whole, either, twice, shared] := by
    refine .new (.new (.new (.new .none ?_) ?_) ?_) ?_ <;> simp [either, twice, shared]
  have simplified : whole.simplify 4 = (simple, 5) := rfl
  obtain ⟨-, -, -, shallow, again⟩ := simplify_normal made List.mem_cons_self
  rw [simplified] at shallow again
  exact ⟨made, rfl, simplified, shallow, again⟩

end Normal

end Node

/-- A term stays itself if and only if it is its own simplification. -/
theorem Term.staysItself_iff (t : Term) : t.staysItself = true ↔ t.simplify = t := by
  have coherent := Node.coherent_ofTerm t
  have iff := Node.simplify_eq_self_iff coherent
  rw [Node.term_ofTerm] at iff
  rw [staysItself, ← iff]
  exact beq_iff_eq

end Annals
