import Mathlib.Data.List.Induction
import Annals.Proofs.Eval.Transparency
import Annals.Proofs.Fact.Undo
import Annals.Proofs.Value.Order

/-!
# Extrema of a property

The extremum of a property is found in one pass over all values, which keeps the best one so far and
gives it up only for a value that compares with it as wanted. Not all values can be compared, and
being equal is not transitive once integers are rounded. It is enough that the order is strict: what
the last best value did not give way to, it would have given way to with an earlier one.

* `Value.IsExtreme` is what can be said of the best value, and `isExtreme_of_extremum` says it.
* `Term.extrema_of_histories` is about `(min p)` and `(max p)` over any list of facts.
-/

set_option autoImplicit false

namespace Annals

/-- A value in a list such that no value of the list compares with it as wanted. -/
structure Value.IsExtreme (wanted : Ordering) (values : List Value) (v : Value) : Prop where
  mem : v ∈ values
  unbeaten : ∀ w ∈ values, w.compare? v ≠ some wanted

/-- How a value compares with one that it is better than, for an operator that looks for the best
value. -/
def Operator.wanted? : Operator → Option Ordering
  | .min => some .lt
  | .max => some .gt
  | _ => none

theorem Operator.wanted?_ne_eq {op : Operator} {wanted : Ordering}
    (extreme : op.wanted? = some wanted) : wanted ≠ .eq := by
  rintro rfl
  cases op <;> cases extreme

section Lists

variable {wanted : Ordering} {values : List Value} {v : Value}

theorem extremum_concat (wanted : Ordering) (values : List Value) (v : Value) :
    extremum wanted (values ++ [v]) = better wanted (extremum wanted values) v := by
  unfold extremum
  rw [List.foldl_append]
  rfl

/-- There is a best value unless there is no value. -/
theorem extremum_eq_none_iff : extremum wanted values = none ↔ values = [] := by
  constructor
  · intro none
    cases values using List.reverseRecOn with
    | nil => rfl
    | append_singleton before last =>
      rw [extremum_concat] at none
      unfold better at none
      split at none
      · cases none
      · split at none <;> cases none
  · rintro rfl
    rfl

/-- The best value of a list is in the list, and none in it is better. -/
theorem isExtreme_of_extremum (strict : wanted ≠ .eq) (best : extremum wanted values = some v) :
    Value.IsExtreme wanted values v := by
  induction values using List.reverseRecOn generalizing v with
  | nil => cases best
  | append_singleton before last ih =>
    rw [extremum_concat] at best
    cases sofar : extremum wanted before with
    | none =>
      rw [sofar] at best
      cases best
      rw [extremum_eq_none_iff.mp sofar]
      refine ⟨List.mem_singleton_self last, fun w mem => ?_⟩
      rw [List.mem_singleton.mp mem]
      exact last.compare?_self_ne strict
    | some b =>
      have extreme := ih sofar
      rw [sofar] at best
      unfold better at best
      dsimp only at best
      split at best
      · rename_i beats
        cases best
        refine ⟨List.mem_append_right before (List.mem_singleton_self last),
          fun w mem ordered => ?_⟩
        rcases List.mem_append.mp mem with older | same
        -- a value that is better than the new one would have been better than the old one
        · exact extreme.unbeaten w older (Value.compare?_trans strict ordered beats)
        · rw [List.mem_singleton.mp same] at ordered
          exact last.compare?_self_ne strict ordered
      · rename_i notBetter
        cases best
        refine ⟨List.mem_append_left [last] extreme.mem, fun w mem => ?_⟩
        rcases List.mem_append.mp mem with older | same
        · exact extreme.unbeaten w older
        · rw [List.mem_singleton.mp same]
          exact notBetter

end Lists

section Histories

variable {contents : Contents} {name : String} {facts : List FactId}

theorem mem_historyOver {v : Value} : v ∈ historyOver contents name facts ↔
    ∃ id ∈ facts, ∃ history, (contents id).get? name = some history ∧ v ∈ history := by
  unfold historyOver
  rw [List.mem_flatMap]
  constructor
  · rintro ⟨id, mem, held⟩
    cases found : (contents id).get? name with
    | none =>
      rw [found] at held
      cases held
    | some history =>
      rw [found] at held
      exact ⟨id, mem, history, found, held⟩
  · rintro ⟨id, mem, history, found, held⟩
    refine ⟨id, mem, ?_⟩
    rw [found]
    exact held

/-- There is no value of a property only if no fact has it, as no history is empty. -/
theorem historyOver_eq_nil_iff (solid : ∀ id ∈ facts, (contents id).Solid) :
    historyOver contents name facts = [] ↔ ∀ id ∈ facts, (contents id).get? name = none := by
  unfold historyOver
  rw [List.flatMap_eq_nil_iff]
  refine forall₂_congr fun id mem => ?_
  cases found : (contents id).get? name with
  | none => exact ⟨fun _ => rfl, fun _ => rfl⟩
  | some history =>
    have nonempty : history ≠ [] := solid id mem _ (Properties.mem_of_lookup found)
    exact ⟨fun empty => absurd empty nonempty, fun none => by cases none⟩

end Histories

namespace Term

/-- What an extremum gives is the best of all values of the property. -/
theorem meaning_extremum {op : Operator} {wanted : Ordering} (extreme : op.wanted? = some wanted)
    (scene : Scene) (name : String) (subject : Subject) (all : List FactId) :
    (node op [.symbol name]).meaning scene subject all
      = .ok (((extremum wanted (historyOver scene.contents name all)).map Datum.single).getD
          .nil) := by
  cases op <;> cases extreme <;> rfl

/-- Over any list of facts, `(min p)` and `(max p)` give nothing only if no fact has the property.
Otherwise they give one of its values, and no value of it in any of the facts is less, or greater.
The values may be of all kinds, mixed in any order, and may be values that cannot be compared. -/
theorem extrema_of_histories (scene : Scene) (tracing : Bool) (root vacant : Nat)
    (subject : Subject) (all : List FactId) (name : String)
    (solid : ∀ id ∈ all, (scene.contents id).Solid) {op : Operator} {wanted : Ordering}
    (extreme : op.wanted? = some wanted) :
    ∃ d, (((node op [.symbol name]).evaluate scene tracing root subject all).run
        (.start vacant)).1 = .ok d ∧
      (d = .nil ↔ ∀ id ∈ all, (scene.contents id).get? name = none) ∧
      (d ≠ .nil → ∃ v, d = .single v ∧
        (∃ id ∈ all, ∃ history, (scene.contents id).get? name = some history ∧ v ∈ history) ∧
        ∀ id ∈ all, ∀ history, (scene.contents id).get? name = some history →
          ∀ w ∈ history, w.compare? v ≠ some wanted) := by
  have memoryless : (node op [.symbol name]).remembers = false := by
    cases op <;> first | rfl | cases extreme
  rw [evaluate_start scene tracing memoryless, meaning_extremum extreme]
  refine ⟨_, rfl, ?_, ?_⟩
  · rw [← historyOver_eq_nil_iff solid,
      ← (extremum_eq_none_iff : extremum wanted _ = none ↔ _)]
    cases extremum wanted (historyOver scene.contents name all) with
    | none => exact ⟨fun _ => rfl, fun _ => rfl⟩
    | some v => constructor <;> intro none <;> cases none
  · intro given
    cases best : extremum wanted (historyOver scene.contents name all) with
    | none =>
      rw [best] at given
      exact absurd rfl given
    | some v =>
      have best := isExtreme_of_extremum (Operator.wanted?_ne_eq extreme) best
      refine ⟨v, rfl, mem_historyOver.mp best.mem, ?_⟩
      intro id mem history found w held
      exact best.unbeaten w (mem_historyOver.mpr ⟨id, mem, history, found, held⟩)

/-- Three facts, of which the first two have `x`: as an integer, and as a number that the integer is
rounded to, with the integer below and a text. -/
def mixed : Scene where
  registry := .empty
  contents := Register.contents ⟨#[
    ⟨⟨[("x", [.int 9007199254740993])]⟩, []⟩,
    ⟨⟨[("x", [.float ⟨0x4340000000000000⟩, .int 9007199254740992, .str "z"])]⟩, []⟩,
    ⟨⟨[("y", [.int 1])]⟩, []⟩]⟩

/-- The number is as great as the integer that is rounded to it, and as small as the one below. -/
theorem extrema_of_histories_mixed :
    let all : List FactId := [⟨2⟩, ⟨0⟩, ⟨1⟩]
    (∀ id ∈ all, (mixed.contents id).Solid) ∧
      (((node .max [.symbol "x"]).evaluate mixed false 0 (.fact ⟨2⟩) all).run (.start 0)).1
        = .ok (.single (.int 9007199254740993)) ∧
      (((node .min [.symbol "x"]).evaluate mixed false 0 (.fact ⟨2⟩) all).run (.start 0)).1
        = .ok (.single (.int 9007199254740992)) ∧
      ∀ id ∈ all, ∀ history, (mixed.contents id).get? "x" = some history → ∀ w ∈ history,
        w.compare? (.int 9007199254740993) ≠ some .gt ∧
        w.compare? (.int 9007199254740992) ≠ some .lt := by
  intro all
  have solid : ∀ id ∈ all, (mixed.contents id).Solid := by
    unfold Properties.Solid
    decide
  have greatest : (((node .max [.symbol "x"]).evaluate mixed false 0 (.fact ⟨2⟩) all).run
      (.start 0)).1 = .ok (.single (.int 9007199254740993)) := by decide +kernel
  have least : (((node .min [.symbol "x"]).evaluate mixed false 0 (.fact ⟨2⟩) all).run
      (.start 0)).1 = .ok (.single (.int 9007199254740992)) := by decide +kernel
  obtain ⟨d, given, -, above⟩ :=
    extrema_of_histories mixed false 0 0 (.fact ⟨2⟩) all "x" solid
      (rfl : Operator.max.wanted? = _)
  obtain ⟨d', given', -, below⟩ :=
    extrema_of_histories mixed false 0 0 (.fact ⟨2⟩) all "x" solid
      (rfl : Operator.min.wanted? = _)
  obtain rfl := Except.ok.inj (greatest.symm.trans given)
  obtain rfl := Except.ok.inj (least.symm.trans given')
  obtain ⟨v, same, -, unbeaten⟩ := above nofun
  obtain ⟨v', same', -, unbeaten'⟩ := below nofun
  cases same
  cases same'
  refine ⟨solid, greatest, least, fun id mem history found w held => ⟨?_, ?_⟩⟩
  · exact unbeaten id mem history found w held
  · exact unbeaten' id mem history found w held

end Term

end Annals
