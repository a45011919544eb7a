import Mathlib.Data.String.Basic
import Mathlib.Data.List.Flatten
import Annals.Proofs.Query.Lexing
import Annals.Proofs.Query.Simplify

/-!
# What is left of a term that was simplified

Leaving out an operand can leave a single one, and putting it in the place of the whole can repeat
an operand of the term around it. Still nothing is left to do after a term was simplified once,
because operands are simplified before they are compared. Text is only ever left out.

* `Term.Reaches` leads from a conjunction or a disjunction to the ones among its operands, and
  `Term.Settled` says of one that there is nothing left to do about it.
* `Term.settled_of_reaches`: whatever a simplified term reaches is settled.
* `Term.simplify_eq_self` says what is true of a conjunction or a disjunction that is not changed.
* `Term.text_simplify_sublist`: the text of the simplified term is left of the text of the term.
-/

set_option autoImplicit false

namespace Annals.Term

/-- There is a way from a term to a term in it through conjunctions and disjunctions only, both ends
included. -/
inductive Reaches : Term → Term → Prop
  | root {t : Term} (joins : Joins t.op) : Reaches t t
  | operand {t u v : Term} (joins : Joins t.op) (mem : .term v ∈ t.operands) (inner : Reaches v u) :
    Reaches t u

/-- A term has no two operands of one text, and no single operand that is a term. -/
structure Settled (t : Term) : Prop where
  distinct : (t.operands.map operandText).Nodup
  several : ∀ u, t.operands ≠ [.term u]

/-- First occurrences have different texts, none of which was seen before. -/
theorem nodup_firstOccurrences (seen : List String) (operands : List (Operand Term)) :
    ((firstOccurrences seen operands).map operandText).Nodup
      ∧ ∀ operand ∈ firstOccurrences seen operands, operandText operand ∉ seen := by
  induction operands generalizing seen with
  | nil => exact ⟨List.nodup_nil, fun _ mem => absurd mem List.not_mem_nil⟩
  | cons first rest ih =>
    simp only [firstOccurrences]
    split
    · exact ih seen
    · next new =>
      obtain ⟨distinct, unseen⟩ := ih (operandText first :: seen)
      refine ⟨List.nodup_cons.mpr ⟨?_, distinct⟩, List.forall_mem_cons.mpr ⟨new, ?_⟩⟩
      · intro mem
        obtain ⟨later, isLater, same⟩ := List.mem_map.mp mem
        exact unseen later isLater (same ▸ List.mem_cons_self)
      · exact fun later mem old => unseen later mem (List.mem_cons_of_mem _ old)

theorem collapse_of_ne {op : Operator} {operands : List (Operand Term)}
    (several : ∀ t, operands ≠ [.term t]) : collapse op operands = .node op operands := by
  rcases collapse_cases op operands with ⟨t, single, -⟩ | same
  · exact absurd single (several t)
  · exact same

mutual

/-- What a simplified term reaches through conjunctions and disjunctions is settled. -/
theorem settled_of_reaches : ∀ (t : Term) {u : Term}, Reaches t.simplify u → u.Settled
  | .node op operands, u, reaches => by
    by_cases joins : Joins op
    · rw [simplify_joins joins] at reaches
      have inner : ∀ v, .term v ∈ firstOccurrences [] (simplifyOperands operands) →
          Reaches v u → u.Settled := fun v mem =>
        settled_of_reaches_operands operands (firstOccurrences_subset [] _ _ mem)
      by_cases single : ∃ v, firstOccurrences [] (simplifyOperands operands) = [.term v]
      · obtain ⟨v, single⟩ := single
        rw [single] at reaches inner
        exact inner v List.mem_cons_self reaches
      · have several := not_exists.mp single
        rw [collapse_of_ne several] at reaches
        cases reaches with
        | root => exact ⟨(nodup_firstOccurrences [] _).1, several⟩
        | operand _ mem reaches => exact inner _ mem reaches
    · rw [simplify_other joins] at reaches
      cases reaches with
      | root joins' => exact absurd joins' joins
      | operand joins' => exact absurd joins' joins

theorem settled_of_reaches_operands : ∀ (operands : List (Operand Term)) {v : Term},
    .term v ∈ simplifyOperands operands → ∀ {u : Term}, Reaches v u → u.Settled
  | [], _, mem, _, _ => nomatch mem
  | first :: rest, v, mem, u, reaches => by
    rcases List.mem_cons.mp mem with same | later
    · exact settled_of_reaches_operand first same reaches
    · exact settled_of_reaches_operands rest later reaches

theorem settled_of_reaches_operand : ∀ (operand : Operand Term) {v : Term},
    .term v = simplifyOperand operand → ∀ {u : Term}, Reaches v u → u.Settled
  | .literal _, _, same, _, _ => nomatch same
  | .symbol _, _, same, _, _ => nomatch same
  | .term t, v, same, u, reaches => by
    rw [Operand.term.inj same] at reaches
    exact settled_of_reaches t reaches

end

theorem length_simplifyOperands (operands : List (Operand Term)) :
    (simplifyOperands operands).length = operands.length := by
  induction operands with
  | nil => rfl
  | cons first rest ih => rw [simplifyOperands, List.length_cons, List.length_cons, ih]

/-- A conjunction or a disjunction that is not changed has simplified operands, with different
texts, and more than a term for an operand. -/
theorem simplify_eq_self {op : Operator} (joins : Joins op) {operands : List (Operand Term)}
    (same : simplify (.node op operands) = .node op operands) :
    simplifyOperands operands = operands ∧ firstOccurrences [] operands = operands
      ∧ ∀ t, operands ≠ [.term t] := by
  rw [simplify_joins joins] at same
  by_cases single : ∃ t, firstOccurrences [] (simplifyOperands operands) = [.term t]
  · -- the whole would stand in its own place
    obtain ⟨t, single⟩ := single
    have mem : .term t ∈ firstOccurrences [] (simplifyOperands operands) := by
      rw [single]
      exact List.mem_cons_self
    obtain ⟨operand, isOperand, isT⟩ := mem_simplifyOperands.mp (firstOccurrences_subset [] _ _ mem)
    have shallow := (contains_simplifyOperand operand).shallow
    have inside := operandsDepth_le_iff.mp (Nat.le_refl (operandsDepth operands)) operand isOperand
    have whole : t = .node op operands := by
      rw [single] at same
      exact same
    rw [isT, whole] at shallow
    simp only [operandDepth, depth] at shallow inside
    omega
  · have several := not_exists.mp single
    rw [collapse_of_ne several] at same
    have kept : firstOccurrences [] (simplifyOperands operands) = operands := (Term.node.inj same).2
    have simple : simplifyOperands operands = operands := by
      have all := (firstOccurrences_sublist [] (simplifyOperands operands)).eq_of_length
        (by rw [kept, length_simplifyOperands])
      rw [← all, kept]
    rw [simple] at kept
    refine ⟨simple, kept, fun t isSingle => several t ?_⟩
    rw [simple, kept, isSingle]

/-! ### Text -/

/-- The characters of the texts of operands, with a space before each. -/
def spaced (operands : List (Operand Term)) : List Char :=
  operands.flatMap fun operand => ' ' :: (operandText operand).toList

theorem text_node_toList (op : Operator) (operands : List (Operand Term)) :
    (text (.node op operands)).toList = '(' :: (op.name.toList ++ (spaced operands ++ [')'])) := by
  have texts : operandTexts operands = operands.map operandText := by
    induction operands with
    | nil => rfl
    | cons first rest ih => rw [operandTexts, ih, List.map_cons]
  rw [text_toList, texts, List.flatMap_map]
  rfl

theorem text_collapse_sublist (op : Operator) (operands : List (Operand Term)) :
    (collapse op operands).text.toList.Sublist (text (.node op operands)).toList := by
  rcases collapse_cases op operands with ⟨t, single, same⟩ | same
  · have inside : t.text.toList.Sublist (spaced operands) := by
      rw [single, spaced, List.flatMap_singleton]
      exact List.sublist_cons_self _ _
    rw [same, text_node_toList]
    exact ((inside.trans (List.sublist_append_left _ _)).trans
      (List.sublist_append_right _ _)).cons _
  · rw [same]

theorem text_node_sublist (op : Operator) {operands operands' : List (Operand Term)}
    (fewer : (spaced operands).Sublist (spaced operands')) :
    (text (.node op operands)).toList.Sublist (text (.node op operands')).toList := by
  rw [text_node_toList, text_node_toList]
  exact ((List.Sublist.refl _).append (fewer.append (List.Sublist.refl _))).cons_cons _

mutual

/-- The text of a simplified term is what is left of the text of the term. -/
theorem text_simplify_sublist : ∀ t : Term, t.simplify.text.toList.Sublist t.text.toList
  | .node op operands => by
    by_cases joins : Joins op
    · rw [simplify_joins joins]
      refine (text_collapse_sublist op _).trans (text_node_sublist op ?_)
      exact ((firstOccurrences_sublist [] _).flatMap _).trans (spaced_simplify_sublist operands)
    · rw [simplify_other joins]

theorem spaced_simplify_sublist : ∀ operands : List (Operand Term),
    (spaced (simplifyOperands operands)).Sublist (spaced operands)
  | [] => List.Sublist.refl _
  | first :: rest => by
    rw [simplifyOperands, spaced, spaced, List.flatMap_cons, List.flatMap_cons]
    exact ((operandText_simplify_sublist first).cons_cons _).append (spaced_simplify_sublist rest)

theorem operandText_simplify_sublist : ∀ operand : Operand Term,
    (operandText (simplifyOperand operand)).toList.Sublist (operandText operand).toList
  | .literal _ => List.Sublist.refl _
  | .symbol _ => List.Sublist.refl _
  | .term t => text_simplify_sublist t

end

/-- The text of a simplified term is not longer, neither in characters nor in bytes. -/
theorem length_text_simplify (t : Term) :
    t.simplify.text.length ≤ t.text.length
      ∧ t.simplify.text.utf8ByteSize ≤ t.text.utf8ByteSize := by
  have left := text_simplify_sublist t
  have bytes := String.utf8Len_le_of_sublist left
  rw [← String.utf8ByteSize_ofList, ← String.utf8ByteSize_ofList, String.ofList_toList,
    String.ofList_toList] at bytes
  refine ⟨?_, bytes⟩
  rw [← String.length_toList, ← String.length_toList]
  exact left.length_le

end Annals.Term
