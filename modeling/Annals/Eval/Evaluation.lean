import Annals.Eval.Operation

/-!
# Evaluation

A term is evaluated by giving its operator the operands as arguments: a literal is its value, a
symbol is looked up on the subject, and a term is evaluated in turn. What fails is reported with
the text of the innermost term that failed.

`Term.evaluateWith` is the evaluation in any monad, and `Term.meaning` the one that computes
everything anew: no result is kept, nothing is remembered between subjects, nothing is reported.
-/

set_option autoImplicit false

namespace Annals

namespace Term

section

variable {m : Type → Type} [Monad m] [MonadExceptOf Error m]
variable (scene : Scene) (strategy : Strategy m)

/-- Do something, and report what fails with the text of a term. -/
def named (t : Term) (action : m Datum) : m Datum :=
  tryCatch action fun e => throw (e.within t.text)

mutual

/-- The result of the term at a place on a subject, with a list of all facts. -/
def evaluateWith : Term → Address → Subject → List FactId → m Datum
  | node op operands, address, subject, all =>
    strategy.answer (node op operands) address subject
      (named (node op operands)
        (Operation.perform scene strategy subject all (node op operands) address
          (arguments address 0 operands)))

/-- The arguments for the operands from a position on. -/
def arguments : Address → Nat → List (Operand Term) → List (Argument m)
  | _, _, [] => []
  | address, position, operand :: rest =>
    ⟨operand, resolve operand (address.operand position)⟩ :: arguments address (position + 1) rest

/-- The result of an operand; `address` is the place of the term in it. -/
def resolve : Operand Term → Address → Subject → List FactId → m Datum
  | .literal v, _, _, _ => pure (.single v)
  | .symbol name, _, subject, _ =>
    pure (((subject.lookup scene.contents name).map Datum.ofValues).getD .nil)
  | .term t, address, subject, all => evaluateWith t address subject all

end

/-- There is an argument for every operand. -/
theorem length_arguments (address : Address) (position : Nat) (operands : List (Operand Term)) :
    (arguments scene strategy address position operands).length = operands.length := by
  induction operands generalizing position with
  | nil => rfl
  | cons operand rest ih => exact congrArg (· + 1) (ih (position + 1))

variable {scene strategy}

/-- An argument is an operand of some position, which is evaluated at the place of that operand. -/
theorem mem_arguments {address : Address} {position : Nat} {operands : List (Operand Term)}
    {a : Argument m} (mem : a ∈ arguments scene strategy address position operands) :
    ∃ i, operands[i]? = some a.operand ∧
      a.value = resolve scene strategy a.operand (address.operand (position + i)) := by
  induction operands generalizing position with
  | nil => cases mem
  | cons operand rest ih =>
    rcases List.mem_cons.mp mem with rfl | later
    · exact ⟨0, rfl, rfl⟩
    · obtain ⟨i, found, value⟩ := ih later
      refine ⟨i + 1, found, ?_⟩
      rw [value, Nat.add_assoc, Nat.add_comm 1 i]

end

/-- The evaluation that computes everything anew. -/
def direct : Strategy (Except Error) where
  answer _ _ _ action := action
  exchange _ _ := .ok .nil
  report _ := .ok ()
  vacant := .ok (.vacant 0)

/-- The result of a term on a subject, computed without any memory. -/
def meaning (scene : Scene) (t : Term) (subject : Subject) (all : List FactId) :
    Except Error Datum :=
  evaluateWith scene direct t (.root 0) subject all

end Term

end Annals
