import Annals.Proofs.Eval.Shared

/-!
# Which terms share a node

A pass goes by places, and a place in terms with numbers is the place of one term (`termAt`). A node
is one term, wherever it stands, and it has the same operands there. `Sharing.Fits` says that a
sharing is of this kind. It is so where every place has a node of its own (`Sharing.fits_none`), and
where the terms are nodes that can be made (`Sharing.fits_ofNodes`). A term with such a sharing is a
`TermGraph`.
-/

set_option autoImplicit false

namespace Annals

/-- The term at a place in terms with numbers, where the path leads from the term up to the
number. -/
def termAt (terms : Nat → Option Term) : List Nat → Option Term
  | [] => none
  | [number] => terms number
  | position :: path =>
    match termAt terms path with
    | none => none
    | some t =>
      match t.operands[position]? with
      | some (.term u) => some u
      | _ => none

section

variable {terms : Nat → Option Term} {address : Address}

/-- The operands of a term are at the places of its operands. -/
theorem termAt_operand {t u : Term} {i : Nat} (here : termAt terms address.path = some t)
    (found : t.operands[i]? = some (.term u)) :
    termAt terms (address.operand i).path = some u := by
  obtain ⟨path⟩ := address
  cases path with
  | nil => cases here
  | cons j rest => simp only [Address.operand, termAt, here, found]

/-- An operand is at a place, which matters only if it is a term. -/
def Operand.Placed (terms : Nat → Option Term) (address : Address) (operand : Operand Term) :
    Prop :=
  ∀ t, operand = .term t → termAt terms address.path = some t

theorem Operand.Placed.operand {op : Operator} {operands : List (Operand Term)} {i : Nat}
    {b : Operand Term} (placed : Placed terms address (.term (.node op operands)))
    (found : operands[i]? = some b) : Placed terms (address.operand i) b := by
  rintro u rfl
  exact termAt_operand (placed _ rfl) found

theorem Operand.Placed.root {t : Term} {number : Nat} (numbered : terms number = some t) :
    Placed terms (.root number) (.term t) := by
  rintro u ⟨⟩
  exact numbered

end

/-- A node is one term, and the operands of the term are the same nodes wherever it stands. -/
structure Sharing.Fits (sharing : Sharing) (terms : Nat → Option Term) : Prop where
  term : ∀ {a b : Address} {t u : Term}, termAt terms a.path = some t →
    termAt terms b.path = some u → sharing.node a = sharing.node b → t = u
  operand : ∀ {a b : Address} {t u : Term} {i : Nat}, termAt terms a.path = some t →
    termAt terms b.path = some t → sharing.node a = sharing.node b →
      t.operands[i]? = some (.term u) →
        sharing.node (a.operand i) = sharing.node (b.operand i)

namespace Sharing

/-- Where every place has a node of its own there are no two places to compare. -/
theorem fits_none (terms : Nat → Option Term) : Sharing.none.Fits terms where
  term := by
    rintro a b t u here there rfl
    exact Option.some.inj (here.symm.trans there)
  operand := by
    rintro a b t u i - - rfl -
    rfl

section Nodes

variable {held : List Node}

/-- An operand that is a term is a node. -/
theorem exists_operandNode {operands : List (Operand Node)} {i : Nat} {u : Term}
    (found : (Node.operandTerms operands)[i]? = some (.term u)) :
    ∃ y, operands[i]? = some (.term y) ∧ y.term = u := by
  induction operands generalizing i with
  | nil => cases found
  | cons first rest ih =>
    cases i with
    | zero =>
      cases first with
      | literal v => cases found
      | symbol name => cases found
      | term y => exact ⟨y, rfl, Operand.term.inj (Option.some.inj found)⟩
    | succ i => exact ih found

/-- The terms of nodes, by the indices of the nodes. -/
def termsOf (held : List Node) (index : Nat) : Option Term := held[index]?.map Node.term

/-- The operands of a node are at the places of its operands. -/
theorem nodeAt_operand {address : Address} {number : Nat} {op : Operator}
    {operands : List (Operand Node)} {i : Nat} {y : Node}
    (here : Node.nodeAt held address.path = some (.mk number op operands))
    (found : operands[i]? = some (.term y)) :
    Node.nodeAt held (address.operand i).path = some y := by
  rw [Address.operand, Node.nodeAt]
  · simp only [here, found]
  · exact Node.ne_nil_of_nodeAt here

/-- At every place of a term there is a node with this term. -/
theorem exists_nodeAt {path : List Nat} {t : Term} (here : termAt (termsOf held) path = some t) :
    ∃ x, Node.nodeAt held path = some x ∧ x.term = t := by
  induction path generalizing t with
  | nil => cases here
  | cons position path ih =>
    cases path with
    | nil => exact Option.map_eq_some_iff.mp here
    | cons next rest =>
      rw [termAt] at here
      · split at here
        · cases here
        · next u above =>
          split at here
          · next v found =>
            cases here
            obtain ⟨⟨number, op, operands⟩, isNode, rfl⟩ := ih above
            obtain ⟨y, isOperand, same⟩ := exists_operandNode found
            exact ⟨y, @nodeAt_operand _ ⟨next :: rest⟩ _ _ _ _ _ isNode isOperand, same⟩
          · cases here
      · simp

theorem fits_ofNodes {next : Nat} (made : Node.Made next held) :
    (ofNodes made).Fits (termsOf held) := by
  -- nodes with one number are the same node
  have same : ∀ {a b : Address} {x y : Node}, Node.nodeAt held a.path = some x →
      Node.nodeAt held b.path = some y → (ofNodes made).node a = (ofNodes made).node b → x = y := by
    intro a b x y here there shared
    have shared : ofNode held a = ofNode held b := shared
    rw [ofNode_some here, ofNode_some there] at shared
    have number : x.number = y.number := by simpa [Address.root] using shared
    exact made.apart.same x y (Node.exists_root_of_nodeAt here) (Node.exists_root_of_nodeAt there)
      number
  constructor
  · intro a b t u here there shared
    obtain ⟨x, isNode, rfl⟩ := exists_nodeAt here
    obtain ⟨y, isNode', rfl⟩ := exists_nodeAt there
    rw [same isNode isNode' shared]
  · intro a b t u i here there shared found
    obtain ⟨⟨number, op, operands⟩, isNode, rfl⟩ := exists_nodeAt here
    obtain ⟨y, isNode', -⟩ := exists_nodeAt there
    obtain rfl := same isNode isNode' shared
    obtain ⟨z, isOperand, -⟩ := exists_operandNode found
    show ofNode held _ = ofNode held _
    rw [ofNode_some (nodeAt_operand isNode isOperand),
      ofNode_some (nodeAt_operand isNode' isOperand)]

end Nodes

end Sharing

/-- A term with the nodes in it. -/
structure TermGraph where
  sharing : Sharing
  /-- The terms at all roots that the sharing is about. -/
  terms : Nat → Option Term
  fits : sharing.Fits terms
  root : Nat
  term : Term
  isTerm : terms root = some term

namespace TermGraph

/-- The graph of a term where every place has a node of its own. -/
def unshared (t : Term) (root : Nat) : TermGraph :=
  ⟨.none, fun _ => some t, Sharing.fits_none _, root, t, rfl⟩

/-- The graph of the term of one of the nodes that were made. -/
def ofNode {next : Nat} {held : List Node} (made : Node.Made next held) (index : Nat)
    (isHeld : index < held.length) : TermGraph :=
  ⟨.ofNodes made, Sharing.termsOf held, Sharing.fits_ofNodes made, index, held[index].term,
    congrArg (Option.map Node.term) (List.getElem?_eq_getElem isHeld)⟩

variable (g : TermGraph)

/-- The place at the end of a path, which leads up to the root. -/
def place (path : List Nat) : Address := (Address.root g.root).below path

def node (path : List Nat) : Address := g.sharing.node (g.place path)

/-- The term at the end of a path. -/
def termAt (path : List Nat) : Option Term := Annals.termAt g.terms (g.place path).path

theorem termAt_nil : g.termAt [] = some g.term := g.isTerm

/-- The evaluation of a graph in a monad. -/
def evaluateWith {m : Type → Type} [Monad m] [MonadExceptOf Error m] (scene : Scene)
    (strategy : Strategy m) (subject : Subject) (all : List FactId) : m Datum :=
  g.term.evaluateWith scene (strategy.shared g.sharing) (.root g.root) subject all

/-- The result of a graph on a subject, in a pass of its own. -/
def result (scene : Scene) (tracing : Bool) (vacant : Nat) (subject : Subject)
    (all : List FactId) : Except Error Datum :=
  ((g.evaluateWith scene (Memo.strategy tracing) subject all).run (.start vacant)).1

theorem result_unshared (scene : Scene) (tracing : Bool) (t : Term) (root vacant : Nat)
    (subject : Subject) (all : List FactId) :
    (unshared t root).result scene tracing vacant subject all =
      ((t.evaluate scene tracing root subject all).run (.start vacant)).1 := rfl

end TermGraph

/-- The terms `(not (max x))` and `(or (eq x (max x)) (lt x (max x)))` with the terms in them. There
is one node for `(max x)`. -/
def Node.rivals : List Node :=
  let greatest : Node := .mk 0 .max [.symbol "x"]
  let equal : Node := .mk 1 .eq [.symbol "x", .term greatest]
  let less : Node := .mk 2 .lt [.symbol "x", .term greatest]
  [.mk 4 .not [.term greatest], .mk 3 .or [.term equal, .term less], less, equal, greatest]

theorem Node.made_rivals : Made 5 rivals := by
  refine .new (.new (.new (.new (.new .none ?_) ?_) ?_) ?_) ?_ <;> simp

end Annals
