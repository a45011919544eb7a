import Annals.Proofs.Eval.Independence
import Annals.Proofs.Store.Proper

/-!
# Views behind views

Behind a view there may be other views, one behind the other, and at the end of such a chain there
is a fact or a mapping. A parameter is looked up at the end, past all the facts that stand in front
along the way, and a plain name is looked up in the fact in front of the whole view. The names of a
view are those of all of them.

* `Backing.chain` makes a backing of what stands in front along the way and of what is at the end,
  and `Backing.exists_chain` says that there is no other backing.
* `Backing.lookup_chain`, `Backing.mem_mergeInto_chain` and `Backing.nodup_mergeInto` say what the
  walks along a chain come to, whatever its length.
* `View.chain_resolves` puts them together.
-/

set_option autoImplicit false

namespace Annals

/-! ### Names that are merged -/

section Merge

variable {names more : List String} {name : String}

theorem mem_mergeNames : name ∈ mergeNames names more ↔ name ∈ names ∨ name ∈ more := by
  unfold mergeNames
  induction more generalizing names with
  | nil => simp
  | cons first rest ih =>
    rw [List.foldl_cons, ih, List.mem_cons, ← or_assoc]
    apply or_congr_left
    split
    · next known =>
      constructor
      · exact .inl
      · rintro (mem | rfl)
        · exact mem
        · exact known
    · rw [List.mem_append, List.mem_singleton]

theorem nodup_mergeNames (distinct : names.Nodup) : (mergeNames names more).Nodup := by
  unfold mergeNames
  induction more generalizing names with
  | nil => exact distinct
  | cons first rest ih =>
    rw [List.foldl_cons]
    apply ih
    split
    · exact distinct
    · next new =>
      rw [List.nodup_append]
      refine ⟨distinct, by simp, ?_⟩
      rintro known mem other once rfl
      rw [List.mem_singleton] at once
      exact new (once ▸ mem)

end Merge

/-! ### Chains -/

namespace Backing

/-- What is at the end of a chain of views. -/
inductive Terminal where
  | fact (id : FactId)
  | params (p : Params)
  deriving DecidableEq

namespace Terminal

/-- What the fact or the mapping holds under a name. -/
def get? (contents : Contents) (name : String) : Terminal → Option (List Value)
  | fact id => (contents id).get? name
  | params p => p.get? name

def names (contents : Contents) : Terminal → List String
  | fact id => (contents id).names
  | params p => p.names

/-- The backing without any view. -/
def backing : Terminal → Backing
  | fact id => .fact id
  | params p => .params p

end Terminal

/-- The backing with a view for each of some fronts, one behind the other. -/
def chain (fronts : List (Option FactId)) (terminal : Terminal) : Backing :=
  fronts.foldr view terminal.backing

theorem exists_chain (backing : Backing) : ∃ fronts terminal, backing = chain fronts terminal := by
  induction backing with
  | fact id => exact ⟨[], .fact id, rfl⟩
  | params p => exact ⟨[], .params p, rfl⟩
  | view front backing ih =>
    obtain ⟨fronts, terminal, rfl⟩ := ih
    exact ⟨front :: fronts, terminal, rfl⟩

variable {contents : Contents} {names : List String} {name : String}

/-- A parameter is what is held at the end, whatever stands in front along the way. -/
theorem lookup_chain (fronts : List (Option FactId)) (terminal : Terminal) :
    (chain fronts terminal).lookup contents name = terminal.get? contents name := by
  induction fronts with
  | nil => cases terminal <;> rfl
  | cons front rest ih => exact ih

theorem mem_mergeInto_chain (fronts : List (Option FactId)) (terminal : Terminal) :
    name ∈ (chain fronts terminal).mergeInto contents names ↔ name ∈ names ∨
      (∃ id, some id ∈ fronts ∧ name ∈ (contents id).names) ∨ name ∈ terminal.names contents := by
  induction fronts generalizing names with
  | nil =>
    cases terminal <;> simp [chain, Terminal.backing, mergeInto, mem_mergeNames, Terminal.names]
  | cons front rest ih =>
    cases front with
    | none =>
      have next : (chain (none :: rest) terminal).mergeInto contents names
          = (chain rest terminal).mergeInto contents names := rfl
      rw [next, ih]
      simp
    | some id =>
      have next : (chain (some id :: rest) terminal).mergeInto contents names
          = (chain rest terminal).mergeInto contents (mergeNames names (contents id).names) := rfl
      rw [next, ih]
      simp [mem_mergeNames, or_and_right, exists_or, or_assoc]

theorem nodup_mergeInto (distinct : names.Nodup) (backing : Backing) :
    (backing.mergeInto contents names).Nodup := by
  induction backing generalizing names with
  | fact id => exact nodup_mergeNames distinct
  | params p => exact nodup_mergeNames distinct
  | view front backing ih =>
    apply ih
    cases front with
    | none => exact distinct
    | some id => exact nodup_mergeNames distinct

end Backing

/-! ### What views hold -/

theorem parameterName?_dollar (name : String) : parameterName? ("$" ++ name) = some name := by
  unfold parameterName?
  rw [String.toList_append]
  exact congrArg some String.ofList_toList

theorem mem_keys_of_lookup {entries : List (String × List Value)} {name : String}
    (found : (entries.lookup name).isSome) : name ∈ entries.map Prod.fst := by
  obtain ⟨history, found⟩ := Option.isSome_iff_exists.mp found
  exact List.mem_map_of_mem (Properties.mem_of_lookup found)

theorem Backing.Terminal.mem_names {contents : Contents} {name : String} {terminal : Terminal}
    (found : (terminal.get? contents name).isSome) : name ∈ terminal.names contents := by
  cases terminal with
  | fact id => exact mem_keys_of_lookup found
  | params p => exact mem_keys_of_lookup found

/-- What a fact of some store holds at some time. -/
def Properties.Held (p : Properties) : Prop :=
  ∃ config registry s, (Store.create config registry).LeadsTo s ∧ ∃ id, p = s.properties id

theorem Properties.Held.nodup {p : Properties} (held : p.Held) : p.names.Nodup := by
  obtain ⟨config, registry, s, led, id, rfl⟩ := held
  have orderly := led.stable Cell.stable_orderly
    (Store.stable_create Cell.stable_orderly config registry) id
  exact orderly.1.names

namespace View

variable {contents : Contents} {view : View} {name : String}

theorem lookup_dollar (view : View) (name : String) :
    view.lookup contents ("$" ++ name) = view.backing.lookup contents name := by
  simp only [lookup, parameterName?_dollar]

theorem lookup_plain (view : View) (plain : Term.isParameter name = false) :
    view.lookup contents name = view.front.fact?.bind fun id => (contents id).get? name :=
  (Subject.view view).lookup_plain plain

/-- The names of the fact in front of a view. -/
def ownNames (contents : Contents) (view : View) : List String :=
  match view.front.fact? with
  | some id => (contents id).names
  | none => []

theorem mem_ownNames :
    name ∈ view.ownNames contents ↔
      ∃ id, view.front.fact? = some id ∧ name ∈ (contents id).names := by
  unfold ownNames
  cases view.front.fact? <;> simp

theorem nodup_ownNames (held : ∀ id, (contents id).Held) : (view.ownNames contents).Nodup := by
  unfold ownNames
  split
  · next id _ => exact (held id).nodup
  · exact List.nodup_nil

/-- What a view holds, however many views are behind it, with the facts that stand in front along
the way and with the fact or the mapping at the end.

* A name with a dollar sign has what is held at the end under the name without it.
* A plain name has what the fact in front of the view holds, and nothing without one.
* The names of the view are those of the fact in front, of the facts along the way and of the end,
  each of them once; so a name is among them if it is a plain name that has values, or if it has
  values with a dollar sign in front. -/
theorem chain_resolves (contents : Contents) (held : ∀ id, (contents id).Held) (view : View) :
    ∃ fronts terminal, view.backing = .chain fronts terminal ∧
      (∀ name, view.lookup contents ("$" ++ name) = terminal.get? contents name) ∧
      (∀ name, Term.isParameter name = false →
        view.lookup contents name = view.front.fact?.bind fun id => (contents id).get? name) ∧
      (view.names contents).Nodup ∧
      (∀ name, name ∈ view.names contents ↔
        (∃ id, view.front.fact? = some id ∧ name ∈ (contents id).names) ∨
          (∃ id, some id ∈ fronts ∧ name ∈ (contents id).names) ∨
          name ∈ terminal.names contents) ∧
      ∀ name, (Term.isParameter name = false ∧ (view.lookup contents name).isSome ∨
        (view.lookup contents ("$" ++ name)).isSome) → name ∈ view.names contents := by
  obtain ⟨fronts, terminal, behind⟩ := view.backing.exists_chain
  have atEnd : ∀ name, view.lookup contents ("$" ++ name) = terminal.get? contents name := by
    intro name
    rw [lookup_dollar, behind, Backing.lookup_chain]
  have names : ∀ name, name ∈ view.names contents ↔
      (∃ id, view.front.fact? = some id ∧ name ∈ (contents id).names) ∨
        (∃ id, some id ∈ fronts ∧ name ∈ (contents id).names) ∨
        name ∈ terminal.names contents := by
    intro name
    rw [← mem_ownNames, ← Backing.mem_mergeInto_chain fronts terminal, ← behind]
    rfl
  refine ⟨fronts, terminal, behind, atEnd, fun name plain => view.lookup_plain plain, ?_, names, ?_⟩
  · exact Backing.nodup_mergeInto (nodup_ownNames held) view.backing
  · intro name resolves
    apply (names name).mpr
    rcases resolves with ⟨plain, found⟩ | found
    · rw [view.lookup_plain plain] at found
      obtain ⟨history, found⟩ := Option.isSome_iff_exists.mp found
      obtain ⟨id, front, found⟩ := Option.bind_eq_some_iff.mp found
      refine .inl ⟨id, front, mem_keys_of_lookup ?_⟩
      rw [show (contents id).entries.lookup name = some history from found]
      rfl
    · rw [atEnd] at found
      exact .inr (.inr (Backing.Terminal.mem_names found))

/-- A view of three facts, one behind the other, with a view that has no fact in front between the
second and the third: the middle one has an `x` as the first one has, which as a parameter is
nothing, and the last one has a `bar` as the middle one has, which as a parameter is its own. -/
theorem chain_resolves_shadowed :
    let written (s : Store) (index : Nat) (name : String) (value : Int64) : Store :=
      (s.write ⟨⟨index⟩, []⟩ name (.int value)).2
    let blank := (Store.create .standard .empty).insert.2.insert.2.insert.2
    let s := written (written (written (written (written (written blank
      0 "foo" 42) 0 "x" 1) 1 "x" 2) 1 "bar" 5) 2 "bar" 13) 2 "baz" 7
    let view : View := ⟨.fact ⟨0⟩, .view (some ⟨1⟩) (.view none (.fact ⟨2⟩))⟩
    (∀ id, (s.properties id).Held) ∧
      view.lookup s.properties "$bar" = some [.int 13] ∧
      view.lookup s.properties "bar" = none ∧ view.lookup s.properties "$x" = none ∧
      view.lookup s.properties "x" = some [.int 1] ∧
      view.names s.properties = ["foo", "x", "bar", "baz"] ∧
      (view.names s.properties).Nodup ∧ "bar" ∈ view.names s.properties := by
  intro written blank s view
  have blankLed : (Store.create .standard .empty).LeadsTo blank :=
    (((Store.LeadsTo.refl _).step (.insert _)).step (.insert _)).step (.insert _)
  have writing : ∀ {s index name value}, (Store.create .standard .empty).LeadsTo s →
      (Store.create .standard .empty).LeadsTo (written s index name value) :=
    fun led => led.step (.write _ _ _ _)
  have led : (Store.create .standard .empty).LeadsTo s :=
    writing (writing (writing (writing (writing (writing blankLed)))))
  have held : ∀ id, (s.properties id).Held := fun id => ⟨_, _, s, led, id, rfl⟩
  obtain ⟨_, _, -, -, -, distinct, -, contained⟩ := chain_resolves s.properties held view
  have bar : view.lookup s.properties "$bar" = some [.int 13] := by decide +kernel
  refine ⟨held, bar, by decide +kernel, by decide +kernel, by decide +kernel, by decide +kernel,
    distinct, contained "bar" (.inr ?_)⟩
  show (view.lookup s.properties "$bar").isSome
  rw [bar]
  rfl

end View

end Annals
