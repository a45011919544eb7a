import Annals.Eval.Operation
import Annals.Proofs.Fact.Undo
import Annals.Proofs.Query.Symbols

/-!
# Subjects that look the same

An evaluation sees of a subject what it looks up in it, and the parameters that it hands on to the
subjects of aggregations. These are facts in front of the parameters, or facts by themselves if
there are no parameters; but a body sees a view in any case. So an evaluation that begins without
parameters comes to see the same fact in two ways. No property has a name that would tell them apart
(`Properties.WellNamed`).

* `Subject.Alike` is what two subjects have to have in common, and aggregations hand it on.
* `Subject.Carries` says which subjects an evaluation can come to. Those with one identity look the
  same (`Subject.Carries.alike`).
-/

set_option autoImplicit false

namespace Annals

theorem isSome_parameterName? (name : String) :
    (parameterName? name).isSome = Term.isParameter name := by
  unfold parameterName? Term.isParameter
  cases name.toList with
  | nil => rfl
  | cons first rest =>
    by_cases dollar : first = '$'
    · simp [dollar]
    · simp [dollar]

/-- Every property has a well formed name. -/
def Properties.WellNamed (p : Properties) : Prop := ∀ name ∈ p.names, isPropertyName name = true

theorem Register.wellNamed {r : Register} (cells : ∀ cell ∈ r.cells, cell.properties.WellNamed)
    (id : FactId) : (r.contents id).WellNamed := by
  unfold contents cell
  rw [Array.getD_eq_getD_getElem?]
  cases found : r.cells[id.index]? with
  | none => exact fun name mem => absurd mem List.not_mem_nil
  | some cell => exact cells cell (Array.mem_of_getElem? found)

/-- No property has the name of a parameter. -/
theorem Properties.WellNamed.get?_parameter {p : Properties} (wellNamed : p.WellNamed)
    {name parameter : String} (named : parameterName? name = some parameter) :
    p.get? name = none := by
  cases found : p.get? name with
  | none => rfl
  | some history =>
    have plain := wellNamed name (List.mem_map_of_mem (Properties.mem_of_lookup found))
    have unnamed := Token.isParameter_eq_false plain
    rw [← isSome_parameterName?, named] at unnamed
    cases unnamed

namespace Operation

variable (parameters : Option Backing) (id : FactId)

/-- What a selector sees has the identity of the fact, with parameters and without. -/
theorem identity_candidate : (candidate parameters id).identity = .fact id := by
  cases parameters with
  | none => rfl
  | some backing => rfl

theorem parameters_candidate : (candidate parameters id).parameters = parameters := by
  cases parameters with
  | none => rfl
  | some backing => rfl

end Operation

namespace Subject

/-- The parameters behind the views that an aggregation makes of a subject. -/
def handed (s : Subject) : Backing := s.parameters.getD (.params .empty)

variable {contents : Contents} {s s' : Subject}

/-- Two subjects with the same identity and the same parameters are the same. -/
theorem eq_of_parameters (identity : s.identity = s'.identity)
    (parameters : s.parameters = s'.parameters) : s = s' := by
  cases s with
  | fact id =>
    cases s' with
    | fact id' => exact congrArg _ (Identity.fact.inj identity)
    | view v => cases parameters
  | view v =>
    cases s' with
    | fact id' => cases parameters
    | view v' =>
      cases v
      cases v'
      have front := identity
      have backing := Option.some.inj parameters
      simp only [Subject.identity] at front
      simp only at backing
      rw [front, backing]

/-- Without a fact in front and with the same parameters subjects see the same, whatever their
numbers. -/
theorem lookup_of_fact? (fact : s.identity.fact? = s'.identity.fact?)
    (parameters : s.parameters = s'.parameters) (contents : Contents) (name : String) :
    s.lookup contents name = s'.lookup contents name := by
  cases s with
  | fact id =>
    cases s' with
    | fact id' =>
      cases Option.some.inj fact
      rfl
    | view v => cases parameters
  | view v =>
    cases s' with
    | fact id => cases parameters
    | view v' =>
      obtain ⟨front, backing⟩ := v
      obtain ⟨front', backing'⟩ := v'
      cases parameters
      have facts : front.fact? = front'.fact? := fact
      simp only [lookup, View.lookup, facts]

/-- A fact by itself looks as it does in front of no parameters, if no property has the name of a
parameter. -/
theorem lookup_bare (wellNamed : ∀ id, (contents id).WellNamed) (id : FactId) (name : String) :
    (Subject.fact id).lookup contents name
      = (Subject.view ⟨.fact id, .params .empty⟩).lookup contents name := by
  show (contents id).get? name = View.lookup contents _ name
  unfold View.lookup
  cases named : parameterName? name with
  | none => rfl
  | some parameter => exact (wellNamed id).get?_parameter named

/-- Two subjects look the same and hand on the same parameters. -/
structure Alike (contents : Contents) (s s' : Subject) : Prop where
  /-- If only one of them has parameters, then no property has the name of one. -/
  parameters : s.parameters = s'.parameters ∨
    s.handed = s'.handed ∧ ∀ id, (contents id).WellNamed
  lookup : ∀ name, s.lookup contents name = s'.lookup contents name

namespace Alike

theorem refl (contents : Contents) (s : Subject) : Alike contents s s := ⟨.inl rfl, fun _ => rfl⟩

theorem of_parameters (fact : s.identity.fact? = s'.identity.fact?)
    (parameters : s.parameters = s'.parameters) : Alike contents s s' :=
  ⟨.inl parameters, lookup_of_fact? fact parameters contents⟩

theorem handed (alike : Alike contents s s') : s.handed = s'.handed := by
  rcases alike.parameters with parameters | ⟨handed, -⟩
  · exact congrArg (Option.getD · _) parameters
  · exact handed

theorem trans {s'' : Subject} (first : Alike contents s s') (second : Alike contents s' s'') :
    Alike contents s s'' := by
  refine ⟨?_, fun name => (first.lookup name).trans (second.lookup name)⟩
  rcases first.parameters with same | ⟨-, wellNamed⟩
  · rcases second.parameters with same' | ⟨-, wellNamed⟩
    · exact .inl (same.trans same')
    · exact .inr ⟨first.handed.trans second.handed, wellNamed⟩
  · exact .inr ⟨first.handed.trans second.handed, wellNamed⟩

/-- Subjects of one identity with the same parameters, or with none and with none of any name. -/
theorem of_identity (identity : s.identity = s'.identity)
    (parameters : s.parameters = s'.parameters ∨
      s.handed = s'.handed ∧ ∀ id, (contents id).WellNamed) : Alike contents s s' := by
  refine ⟨parameters, ?_⟩
  rcases parameters with parameters | ⟨handed, wellNamed⟩
  · rw [eq_of_parameters identity parameters]
    exact fun _ => rfl
  · cases s with
    | fact id =>
      cases s' with
      | fact id' =>
        cases identity
        exact fun _ => rfl
      | view v =>
        obtain ⟨front, backing⟩ := v
        cases identity
        cases handed
        exact lookup_bare wellNamed id
    | view v =>
      obtain ⟨front, backing⟩ := v
      cases s' with
      | fact id =>
        cases identity
        cases handed
        exact fun name => (lookup_bare wellNamed id name).symm
      | view v' =>
        obtain ⟨front', backing'⟩ := v'
        cases identity
        cases handed
        exact fun _ => rfl

/-- Selectors see alike what alike subjects hand on. -/
theorem candidate (alike : Alike contents s s') (id : FactId) :
    Alike contents (Operation.candidate s.parameters id)
      (Operation.candidate s'.parameters id) := by
  apply of_identity
  · rw [Operation.identity_candidate, Operation.identity_candidate]
  · unfold Subject.handed
    rw [Operation.parameters_candidate, Operation.parameters_candidate]
    exact alike.parameters

/-- Bodies see alike what alike subjects hand on. -/
theorem view (handed : s.handed = s'.handed) {front front' : Identity}
    (fronts : front.fact? = front'.fact?) :
    Alike contents (.view ⟨front, s.parameters.getD (.params .empty)⟩)
      (.view ⟨front', s'.parameters.getD (.params .empty)⟩) :=
  of_parameters fronts (congrArg some handed)

end Alike

/-- A subject has the parameters of an evaluation; it may have none if no property has the name of a
parameter, and if there are none in the evaluation. -/
structure Carries (contents : Contents) (backing : Backing) (s : Subject) : Prop where
  handed : s.handed = backing
  parameters : s.parameters = some backing ∨ ∀ id, (contents id).WellNamed

namespace Carries

variable {backing : Backing}

/-- Subjects of one identity look the same in an evaluation. -/
theorem alike (carries : s.Carries contents backing) (carries' : s'.Carries contents backing)
    (identity : s.identity = s'.identity) : Alike contents s s' := by
  have handed := carries.handed.trans carries'.handed.symm
  apply Alike.of_identity identity
  rcases carries.parameters with parameters | wellNamed
  · rcases carries'.parameters with parameters' | wellNamed
    · exact .inl (parameters.trans parameters'.symm)
    · exact .inr ⟨handed, wellNamed⟩
  · exact .inr ⟨handed, wellNamed⟩

theorem candidate (carries : s.Carries contents backing) (id : FactId) :
    (Operation.candidate s.parameters id).Carries contents backing := by
  refine ⟨?_, ?_⟩
  · unfold Subject.handed
    rw [Operation.parameters_candidate]
    exact carries.handed
  · rw [Operation.parameters_candidate]
    exact carries.parameters

theorem view (carries : s.Carries contents backing) (front : Identity) :
    (Subject.view ⟨front, s.parameters.getD (.params .empty)⟩).Carries contents backing :=
  ⟨carries.handed, .inl (congrArg some carries.handed)⟩

/-- The subject of an evaluation carries its own parameters. -/
theorem self (s : Subject) (named : s.parameters = none → ∀ id, (contents id).WellNamed) :
    s.Carries contents s.handed := by
  refine ⟨rfl, ?_⟩
  unfold Subject.handed
  cases parameters : s.parameters with
  | none => exact .inr (named parameters)
  | some backing => exact .inl rfl

end Carries

end Subject

end Annals
