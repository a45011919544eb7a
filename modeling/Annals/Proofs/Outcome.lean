import Annals.Query.Grammar

/-!
# Outcomes of steps that can fail

What the steps of a computation returned when the whole computation succeeded.
-/

set_option autoImplicit false

namespace Annals

variable {ε α β : Type}

/-- Two steps succeed if the first one does and the second one does with its result. -/
theorem bind_eq_ok {result : Except ε α} {f : α → Except ε β} {b : β} :
    (result >>= f) = .ok b ↔ ∃ a, result = .ok a ∧ f a = .ok b := by
  constructor
  · intro ok
    cases result with
    | error e => cases ok
    | ok a => exact ⟨a, rfl, ok⟩
  · rintro ⟨a, rfl, ok⟩
    exact ok

theorem ok_eq_ok {a a' : α} : (.ok a : Except ε α) = .ok a' ↔ a' = a :=
  ⟨fun same => (Except.ok.inj same).symm, fun same => congrArg Except.ok same.symm⟩

/-- A step and a function of its result succeed if the step does. -/
theorem bind_pure_eq_ok {f : α → β} {result : Except ε α} {b : β} :
    (do return f (← result)) = Except.ok b ↔ ∃ a, result = .ok a ∧ b = f a := by
  rw [bind_eq_ok]
  exact exists_congr fun a => and_congr_right fun _ => ok_eq_ok

theorem map_eq_ok {f : α → β} {result : Except ε α} {b : β} :
    result.map f = .ok b ↔ ∃ a, result = .ok a ∧ b = f a := by
  constructor
  · intro ok
    cases result with
    | error e => cases ok
    | ok a =>
      cases ok
      exact ⟨a, rfl, rfl⟩
  · rintro ⟨a, rfl, rfl⟩
    rfl

/-- Results that are the same wherever one of them is there are the same, or both are failures. -/
theorem ok_or_error {result result' : Except ε α}
    (same : ∀ x, result' = .ok x ↔ result = .ok x) :
    (∃ x, result = .ok x ∧ result' = .ok x) ∨ ∃ e e', result = .error e ∧ result' = .error e' := by
  cases result with
  | ok x => exact .inl ⟨x, rfl, (same x).mpr rfl⟩
  | error e =>
    cases result' with
    | ok x => cases (same x).mp rfl
    | error e' => exact .inr ⟨e, e', rfl, rfl⟩

/-- What a traversal returns comes from what it traverses. -/
theorem exists_of_mapM {f : α → Except ε β} {source : List α} {target : List β}
    (read : source.mapM f = .ok target) : ∀ b ∈ target, ∃ a ∈ source, f a = .ok b := by
  induction source generalizing target with
  | nil =>
    cases read
    intro b mem
    cases mem
  | cons a rest ih =>
    rw [List.mapM_cons] at read
    obtain ⟨b, first, others⟩ := bind_eq_ok.mp read
    obtain ⟨bs, after, same⟩ := bind_eq_ok.mp others
    cases same
    intro c mem
    rcases List.mem_cons.mp mem with rfl | mem
    · exact ⟨a, List.mem_cons_self, first⟩
    · obtain ⟨d, isSource, reads⟩ := ih after c mem
      exact ⟨d, List.mem_cons_of_mem a isSource, reads⟩

/-- A traversal succeeds if every step does, and then it returns what the steps return. -/
theorem mapM_eq_ok_iff {f : α → Except ε β} {g : α → β} {P : α → Prop}
    (step : ∀ a b, f a = .ok b ↔ P a ∧ b = g a) {source : List α} {target : List β} :
    source.mapM f = .ok target ↔ (∀ a ∈ source, P a) ∧ target = source.map g := by
  induction source generalizing target with
  | nil =>
    simp only [List.mapM_nil, List.not_mem_nil, false_implies, implies_true, true_and, List.map_nil]
    exact ok_eq_ok
  | cons a rest ih =>
    rw [List.mapM_cons, bind_eq_ok, List.forall_mem_cons]
    constructor
    · rintro ⟨b, first, others⟩
      obtain ⟨bs, later, same⟩ := bind_eq_ok.mp others
      obtain ⟨holds, rfl⟩ := (step a b).mp first
      obtain ⟨all, rfl⟩ := ih.mp later
      exact ⟨⟨holds, all⟩, (Except.ok.inj same).symm⟩
    · rintro ⟨⟨holds, all⟩, rfl⟩
      exact ⟨g a, (step a _).mpr ⟨holds, rfl⟩, bind_eq_ok.mpr ⟨_, ih.mpr ⟨all, rfl⟩, rfl⟩⟩

/-- A fold succeeds if every step does, and then it is the fold of what the steps return. -/
theorem foldlM_eq_ok_iff {f : β → α → Except ε β} {g : β → α → β} {P : α → Prop}
    (step : ∀ b a b', f b a = .ok b' ↔ P a ∧ b' = g b a) {source : List α} {b b' : β} :
    source.foldlM f b = .ok b' ↔ (∀ a ∈ source, P a) ∧ b' = source.foldl g b := by
  induction source generalizing b with
  | nil =>
    simp only [List.foldlM_nil, List.not_mem_nil, false_implies, implies_true, true_and,
      List.foldl_nil]
    exact ok_eq_ok
  | cons a rest ih =>
    rw [List.foldlM_cons, bind_eq_ok, List.forall_mem_cons, List.foldl_cons]
    constructor
    · rintro ⟨next, first, later⟩
      obtain ⟨holds, rfl⟩ := (step b a next).mp first
      obtain ⟨all, same⟩ := ih.mp later
      exact ⟨⟨holds, all⟩, same⟩
    · rintro ⟨⟨holds, all⟩, same⟩
      exact ⟨g b a, (step b a _).mpr ⟨holds, rfl⟩, ih.mpr ⟨all, same⟩⟩

/-- A traversal that undoes a function returns what that function was applied to. -/
theorem mapM_map_eq {f : α → Except ε β} {g : β → α} {target : List β}
    (undoes : ∀ b ∈ target, f (g b) = .ok b) : (target.map g).mapM f = .ok target := by
  induction target with
  | nil => rfl
  | cons b rest ih =>
    rw [List.map_cons, List.mapM_cons, undoes b List.mem_cons_self,
      ih (fun c mem => undoes c (List.mem_cons_of_mem b mem))]
    rfl

end Annals
