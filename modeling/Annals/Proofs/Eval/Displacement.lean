import Annals.Proofs.Eval.Likeness
import Annals.Proofs.Eval.Simulation

/-!
# Places that a pass has not been to

What a pass knows about the places below a given one is all that can matter to the evaluation of a
term there. So a term that is evaluated at a place for the first time gives what it gives in a pass
of its own, whatever the pass has done elsewhere; and the evaluation leaves everything elsewhere as
it is. The two passes number the views without a fact differently, and that does not matter either.

* `Pass.Displaced` says that one pass knows below a place what another one knows below another
  place, up to these numbers. `Pass.Beyond` says what an evaluation leaves as it is.
* `Term.relocated` shows that evaluations keep both.
* `Term.evaluateWith_untouched` is the result.
-/

set_option autoImplicit false

namespace Annals

/-- The place that a path leads to from another one. -/
def Address.below (base : Address) (path : List Nat) : Address := ⟨path ++ base.path⟩

theorem Address.below_inj {base : Address} {path path' : List Nat} :
    base.below path = base.below path' ↔ path = path' := by
  simp only [below, mk.injEq, List.append_left_inj]

/-- Identities that stand for each other in two passes, which number the views without a fact from
`k` and from `k'` on; the views before those are in use in both. -/
inductive Identity.Displaced (k k' : Nat) : Identity → Identity → Prop
  | fact (id : FactId) : Displaced k k' (.fact id) (.fact id)
  | known {number : Nat} (before : number < k) (before' : number < k') :
    Displaced k k' (.vacant number) (.vacant number)
  | new (offset : Nat) : Displaced k k' (.vacant (k + offset)) (.vacant (k' + offset))

/-- An identity stands for one other identity, and the other way round. -/
theorem Identity.Displaced.eq_iff {k k' : Nat} {i j i' j' : Identity} (first : i.Displaced k k' j)
    (second : i'.Displaced k k' j') : i = i' ↔ j = j' := by
  cases first <;> cases second <;> simp <;> omega

def Key.address : Key → Address
  | .onSubject address _ => address
  | .overAll address => address

theorem Key.address_of (t : Term) (address : Address) (subject : Subject) :
    (Key.of t address subject).address = address := by
  unfold Key.of
  split
  · rfl
  · rfl

section Passes

variable (base base' : Address) (k k' : Nat)

/-- Keys of results that stand for each other. -/
inductive Key.Displaced : Key → Key → Prop
  | onSubject (path : List Nat) {i j : Identity} (same : i.Displaced k k' j) :
    Displaced (.onSubject (base.below path) i) (.onSubject (base'.below path) j)
  | overAll (path : List Nat) : Displaced (.overAll (base.below path)) (.overAll (base'.below path))

/-- One pass knows below one place what another pass knows below another place. -/
structure Pass.Displaced (pass pass' : Pass) : Prop where
  numbers : ∃ offset, pass.nextVacant = k + offset ∧ pass'.nextVacant = k' + offset
  results : ∀ key key', Key.Displaced base base' k k' key key' →
    pass.results.lookup key = pass'.results.lookup key'
  remembered : ∀ path,
    pass.remembered.lookup (base.below path) = pass'.remembered.lookup (base'.below path)

/-- What a pass knows about other places than those below a given one is as before. -/
structure Pass.Beyond (pass after : Pass) : Prop where
  numbers : pass.nextVacant ≤ after.nextVacant
  results : ∀ key : Key, (∀ path, key.address ≠ base.below path) →
    after.results.lookup key = pass.results.lookup key
  remembered : ∀ address, (∀ path, address ≠ base.below path) →
    after.remembered.lookup address = pass.remembered.lookup address

end Passes

section

variable {base base' : Address} {k k' : Nat} {pass pass' after : Pass}

theorem Key.Displaced.eq_iff {key key' other other' : Key}
    (first : Key.Displaced base base' k k' key key')
    (second : Key.Displaced base base' k k' other other') : other = key ↔ other' = key' := by
  cases first with
  | onSubject path same =>
    cases second with
    | onSubject path' same' =>
      simp only [Key.onSubject.injEq, Address.below_inj, same'.eq_iff same]
    | overAll path' => simp
  | overAll path =>
    cases second with
    | onSubject path' same' => simp
    | overAll path' => simp only [Key.overAll.injEq, Address.below_inj]

theorem lookup_cons_of_eq_iff {α β : Type} [DecidableEq α] {entries entries' : List (α × β)}
    {a a' b b' : α} {x : β} (same : b = a ↔ b' = a')
    (older : entries.lookup b = entries'.lookup b') :
    ((a, x) :: entries).lookup b = ((a', x) :: entries').lookup b' := by
  by_cases here : b = a
  · rw [here, same.mp here, List.lookup_cons_self, List.lookup_cons_self]
  · have there : b' ≠ a' := fun there => here (same.mpr there)
    simp only [List.lookup_cons, beq_false_of_ne here, beq_false_of_ne there]
    exact older

theorem lookup_cons_of_ne {α β : Type} [DecidableEq α] {entries : List (α × β)} {a b : α} {x : β}
    (other : b ≠ a) : ((a, x) :: entries).lookup b = entries.lookup b := by
  simp only [List.lookup_cons, beq_false_of_ne other]

namespace Pass.Displaced

/-- Counts and reports do not matter. -/
theorem unrelated (h : Displaced base base' k k' pass pass') {next next' : Pass}
    (numbers : next.nextVacant = pass.nextVacant) (numbers' : next'.nextVacant = pass'.nextVacant)
    (results : next.results = pass.results) (results' : next'.results = pass'.results)
    (remembered : next.remembered = pass.remembered)
    (remembered' : next'.remembered = pass'.remembered) :
    Displaced base base' k k' next next' := by
  refine ⟨?_, ?_, ?_⟩
  · rw [numbers, numbers']
    exact h.numbers
  · rw [results, results']
    exact h.results
  · rw [remembered, remembered']
    exact h.remembered

theorem keep (h : Displaced base base' k k' pass pass') {key key' : Key}
    (same : Key.Displaced base base' k k' key key') (d : Datum) :
    Displaced base base' k k' (pass.keep key d) (pass'.keep key' d) :=
  ⟨h.numbers, fun other other' same' => lookup_cons_of_eq_iff (same.eq_iff same')
    (h.results other other' same'), h.remembered⟩

theorem remember (h : Displaced base base' k k' pass pass') (path : List Nat) (d : Datum) :
    Displaced base base' k k' (pass.remember (base.below path) d)
      (pass'.remember (base'.below path) d) :=
  ⟨h.numbers, h.results, fun other => lookup_cons_of_eq_iff
    (Address.below_inj.trans Address.below_inj.symm) (h.remembered other)⟩

/-- The next views without a fact stand for each other. -/
theorem vacant (h : Displaced base base' k k' pass pass') :
    (Identity.vacant pass.nextVacant).Displaced k k' (.vacant pass'.nextVacant) ∧
      Displaced base base' k k' pass.tookVacant pass'.tookVacant := by
  obtain ⟨offset, number, number'⟩ := h.numbers
  rw [number, number']
  refine ⟨.new offset, ?_, h.results, h.remembered⟩
  refine ⟨offset + 1, ?_, ?_⟩
  · simp only [tookVacant, number]
    omega
  · simp only [tookVacant, number']
    omega

end Pass.Displaced

namespace Pass.Beyond

theorem refl (base : Address) (pass : Pass) : Beyond base pass pass :=
  ⟨Nat.le_refl _, fun _ _ => rfl, fun _ _ => rfl⟩

/-- Counts and reports do not matter. -/
theorem of_same (numbers : after.nextVacant = pass.nextVacant)
    (results : after.results = pass.results) (remembered : after.remembered = pass.remembered) :
    Beyond base pass after := by
  refine ⟨Nat.le_of_eq numbers.symm, ?_, ?_⟩
  · intro key _
    rw [results]
  · intro address _
    rw [remembered]

theorem trans {last : Pass} (first : Beyond base pass after) (second : Beyond base after last) :
    Beyond base pass last :=
  ⟨Nat.le_trans first.numbers second.numbers,
    fun key other => (second.results key other).trans (first.results key other),
    fun address other => (second.remembered address other).trans (first.remembered address other)⟩

theorem keep (h : Beyond base pass after) {key : Key} {path : List Nat}
    (here : key.address = base.below path) (d : Datum) : Beyond base pass (after.keep key d) := by
  refine ⟨h.numbers, fun other elsewhere => ?_, h.remembered⟩
  have apart : other ≠ key := by
    rintro rfl
    exact elsewhere path here
  exact (lookup_cons_of_ne apart).trans (h.results other elsewhere)

theorem remember (base : Address) (pass : Pass) (path : List Nat) (d : Datum) :
    Beyond base pass (pass.remember (base.below path) d) :=
  ⟨Nat.le_refl _, fun _ _ => rfl, fun _ elsewhere => lookup_cons_of_ne (elsewhere path)⟩

theorem vacant (base : Address) (pass : Pass) : Beyond base pass pass.tookVacant :=
  ⟨Nat.le_succ _, fun _ _ => rfl, fun _ _ => rfl⟩

end Pass.Beyond

end

namespace Simulation

/-- Evaluations below two places, in two passes of which the one knows about its place what the
other one knows about the other place. -/
def displaced (base base' : Address) (k k' : Nat) : Simulation Memo Memo where
  Matches a b := ∀ pass pass', Pass.Displaced base base' k k' pass pass' →
    (a.run pass).1 = (b.run pass').1 ∧
      Pass.Displaced base base' k k' (a.run pass).2 (b.run pass').2 ∧
      Pass.Beyond base pass (a.run pass).2
  Gives b x := ∃ pass, (b.run pass).1 = .ok x
  Fronts := Identity.Displaced k k'
  pure_matches _ pass _ h := ⟨rfl, h, .refl base pass⟩
  throw_matches _ pass _ h := ⟨rfl, h, .refl base pass⟩
  bind_matches {α β a b f g} first rest pass pass' h := by
    obtain ⟨result, kept, beyond⟩ := first pass pass' h
    rw [Memo.run_bind, Memo.run_bind]
    cases run : a.run pass with
    | mk x next =>
      cases run' : b.run pass' with
      | mk x' next' =>
        rw [run, run'] at result kept
        rw [run] at beyond
        cases result
        cases x with
        | error e => exact ⟨rfl, kept, beyond⟩
        | ok x =>
          have given : (b.run pass').1 = .ok x := congrArg Prod.fst run'
          obtain ⟨result, kept, later⟩ := rest x ⟨pass', given⟩ next next' kept
          exact ⟨result, kept, beyond.trans later⟩
  named_matches {a b} t same pass pass' h := by
    obtain ⟨result, kept, beyond⟩ := same pass pass' h
    rw [Memo.run_named, Memo.run_named]
    cases run : a.run pass with
    | mk x next =>
      cases run' : b.run pass' with
      | mk x' next' =>
        rw [run, run'] at result kept
        rw [run] at beyond
        cases result
        cases x with
        | error e => exact ⟨rfl, kept, beyond⟩
        | ok x => exact ⟨rfl, kept, beyond⟩
  gives_outcome := Memo.eq_ok_of_outcome

end Simulation

/-- Identities that stand for each other are of the same fact, or of none. -/
theorem Identity.Displaced.fact? {k k' : Nat} {i j : Identity} (same : i.Displaced k k' j) :
    i.fact? = j.fact? := by
  cases same <;> rfl

namespace Term

variable {left right : Scene} (tracing : Bool) (base base' : Address) (k k' : Nat)

/-- Evaluations at two places that one path leads to, on subjects that stand for each other, in
scenes with the same operators and the same facts. -/
def relocated (registry : left.registry = right.registry)
    (contents : left.contents = right.contents) :
    (Simulation.displaced base base' k k').Congruence left right (Memo.strategy tracing)
      (Memo.strategy tracing) where
  Related _ a a' s s' _ := (∃ path, a = base.below path ∧ a' = base'.below path) ∧
    s.identity.Displaced k k' s'.identity ∧ s.parameters = s'.parameters
  strategies := by
    refine ⟨fun e pass pass' h => ⟨rfl, h.unrelated rfl rfl rfl rfl rfl rfl, ?_⟩,
      fun {f g} h pass pass' displaced => ?_⟩
    · exact .of_same rfl rfl rfl
    · obtain ⟨same, next⟩ := displaced.vacant
      rw [Memo.run_bind, Memo.run_bind, Memo.run_vacant, Memo.run_vacant]
      obtain ⟨result, kept, beyond⟩ := h _ _ same pass.tookVacant pass'.tookVacant next
      exact ⟨result, kept, (Pass.Beyond.vacant base pass).trans beyond⟩
  registry := registry
  facts _ id _ := congrFun contents id
  symbols related _ name _ := by
    rw [contents]
    exact Subject.lookup_of_fact? related.2.1.fact? related.2.2 _ name
  operands related _ i _ _ := by
    obtain ⟨⟨path, rfl, rfl⟩, alike⟩ := related
    exact ⟨⟨i :: path, rfl, rfl⟩, alike⟩
  selector {t rest a a' s s' all} related id _ := by
    obtain ⟨⟨path, rfl, rfl⟩, -, parameters⟩ := related
    refine ⟨⟨0 :: path, rfl, rfl⟩, ?_⟩
    rw [parameters]
    cases s'.parameters with
    | none => exact ⟨.fact id, rfl⟩
    | some backing => exact ⟨.fact id, rfl⟩
  body {t u a a' s s' all kept front front'} related _ leads := by
    obtain ⟨⟨path, rfl, rfl⟩, -, parameters⟩ := related
    refine ⟨⟨1 :: path, rfl, rfl⟩, ?_, ?_⟩
    -- without a selected fact the view has a number of its own, the next one of each pass
    · cases kept with
      | nil => exact leads
      | cons id rest =>
        rw [leads.1, leads.2]
        exact .fact id
    · rw [parameters]
      rfl
  memory {operands a a' s s' all} related d pass pass' h := by
    obtain ⟨⟨path, rfl, rfl⟩, -⟩ := related
    have before := h.remembered path
    refine ⟨?_, h.remember path d, .remember base pass path d⟩
    show Except.ok _ = Except.ok _
    rw [before]
  answer {t a a' s s' all x y} related _ _ same pass pass' h := by
    obtain ⟨⟨path, rfl, rfl⟩, identity, -⟩ := related
    have key : Key.Displaced base base' k k' (Key.of t (base.below path) s)
        (Key.of t (base'.below path) s') := by
      unfold Key.of
      split
      · exact .overAll path
      · exact .onSubject path identity
    have here := Key.address_of t (base.below path) s
    rw [Memo.run_answer, Memo.run_answer, h.results _ _ key]
    cases pass'.results.lookup (Key.of t (base'.below path) s') with
    | some d => exact ⟨rfl, h.unrelated rfl rfl rfl rfl rfl rfl, .of_same rfl rfl rfl⟩
    | none =>
      have missed : Pass.Displaced base base' k k' pass.missed pass'.missed :=
        h.unrelated rfl rfl rfl rfl rfl rfl
      obtain ⟨result, kept, beyond⟩ := same pass.missed pass'.missed missed
      have first : Pass.Beyond base pass pass.missed := .of_same rfl rfl rfl
      have beyond := first.trans beyond
      cases run : x.run pass.missed with
      | mk r next =>
        cases run' : y.run pass'.missed with
        | mk r' next' =>
          rw [run, run'] at result kept
          rw [run] at beyond
          cases result
          cases r with
          | error e => exact ⟨rfl, kept, beyond⟩
          | ok d =>
            refine ⟨rfl, Pass.Displaced.keep ?_ key d, Pass.Beyond.keep ?_ here d⟩
            · cases tracing with
              | true => exact kept.unrelated rfl rfl rfl rfl rfl rfl
              | false => exact kept
            · cases tracing with
              | true => exact beyond.trans (.of_same rfl rfl rfl)
              | false => exact beyond

end Term

/-- A pass knows nothing about the places below a given one. -/
structure Pass.Untouched (base : Address) (pass : Pass) : Prop where
  results : ∀ key : Key, ∀ path, key.address = base.below path → pass.results.lookup key = none
  remembered : ∀ path, pass.remembered.lookup (base.below path) = none

/-- A pass and a subject whose identity, if it is the number of a view, is not given again. -/
def Pass.Knows (pass : Pass) (s : Subject) : Prop :=
  ∀ number, s.identity = .vacant number → number < pass.nextVacant

section

variable {base base' : Address} {pass pass' after : Pass}

theorem Pass.untouched_start (base : Address) (vacant : Nat) : (Pass.start vacant).Untouched base :=
  ⟨fun _ _ _ => rfl, fun _ => rfl⟩

/-- What goes on below one place does not touch another place. -/
theorem Pass.Untouched.beyond (h : pass.Untouched base') (beyond : Beyond base pass after)
    (apart : ∀ path path', base'.below path ≠ base.below path') : after.Untouched base' := by
  refine ⟨fun key path here => ?_, fun path => ?_⟩
  · rw [beyond.results key fun path' there => apart path path' (here.symm.trans there)]
    exact h.results key path here
  · rw [beyond.remembered _ (apart path)]
    exact h.remembered path

/-- The places below two operands of a term are different. -/
theorem Address.below_operand_ne {address : Address} {i j : Nat} (other : i ≠ j)
    (path path' : List Nat) : (address.operand i).below path ≠ (address.operand j).below path' := by
  intro same
  have places := congrArg Address.path same
  simp only [below, operand] at places
  have ends := (List.append_inj' places rfl).2
  exact other (List.cons.inj ends).1

theorem Pass.Knows.mono {s : Subject} (knows : pass.Knows s)
    (later : pass.nextVacant ≤ after.nextVacant) : after.Knows s :=
  fun number here => Nat.lt_of_lt_of_le (knows number here) later

/-- A pass can be started that gives no view the number of a given subject. -/
theorem Pass.exists_knows (s : Subject) : ∃ vacant, (Pass.start vacant).Knows s := by
  cases here : s.identity with
  | fact id => exact ⟨0, fun number there => by rw [here] at there; cases there⟩
  | vacant n =>
    refine ⟨n + 1, fun number there => ?_⟩
    rw [here] at there
    cases there
    exact Nat.lt_succ_self n

theorem Pass.Untouched.displaced (h : pass.Untouched base) (h' : pass'.Untouched base') :
    Displaced base base' pass.nextVacant pass'.nextVacant pass pass' := by
  refine ⟨⟨0, rfl, rfl⟩, fun key key' same => ?_, fun path => ?_⟩
  · cases same with
    | onSubject path _ => rw [h.results _ path rfl, h'.results _ path rfl]
    | overAll path => rw [h.results _ path rfl, h'.results _ path rfl]
  · rw [h.remembered path, h'.remembered path]

/-- A term that is evaluated at a place for the first time gives what it gives at any other such
place, and leaves everything elsewhere as it is. -/
theorem Term.evaluateWith_untouched (scene : Scene) (tracing : Bool) (t : Term) {s : Subject}
    (all : List FactId) (untouched : pass.Untouched base) (untouched' : pass'.Untouched base')
    (knows : pass.Knows s) (knows' : pass'.Knows s) :
    ((t.evaluateWith scene (Memo.strategy tracing) base s all).run pass).1 =
        ((t.evaluateWith scene (Memo.strategy tracing) base' s all).run pass').1 ∧
      pass.Beyond base ((t.evaluateWith scene (Memo.strategy tracing) base s all).run pass).2 := by
  have identity : s.identity.Displaced pass.nextVacant pass'.nextVacant s.identity := by
    cases here : s.identity with
    | fact id => exact .fact id
    | vacant number => exact .known (knows number here) (knows' number here)
  obtain ⟨result, -, beyond⟩ :=
    (relocated tracing base base' pass.nextVacant pass'.nextVacant (rfl : scene.registry = _)
      rfl).evaluateWith_matches t ⟨⟨[], rfl, rfl⟩, identity, rfl⟩ pass pass'
        (untouched.displaced untouched')
  exact ⟨result, beyond⟩

theorem Term.resolve_untouched (scene : Scene) (tracing : Bool) (operand : Operand Term)
    {s : Subject} (all : List FactId) (untouched : pass.Untouched base)
    (untouched' : pass'.Untouched base') (knows : pass.Knows s) (knows' : pass'.Knows s) :
    ((resolve scene (Memo.strategy tracing) operand base s all).run pass).1 =
        ((resolve scene (Memo.strategy tracing) operand base' s all).run pass').1 ∧
      pass.Beyond base ((resolve scene (Memo.strategy tracing) operand base s all).run pass).2 := by
  cases operand with
  | literal v => exact ⟨rfl, .refl base pass⟩
  | symbol name => exact ⟨rfl, .refl base pass⟩
  | term t => exact t.evaluateWith_untouched scene tracing all untouched untouched' knows knows'

end

end Annals
