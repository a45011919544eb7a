import Annals.Proofs.Eval.Simplified
import Annals.Proofs.Eval.Transparency
import Annals.Proofs.Store.Frame

/-!
# What a compiled query finds

A query is compiled to the simplified form of its term. Is that allowed? Nearly: a conjunction or a
disjunction gives a truth value, and the only operand that is left of it need not. Where it gives
nothing, the query fails instead of passing over the fact.

* `Query.found` are the facts on which a term is true when everything is computed anew. A scan
  evaluates the term on one fact after the other in one pass, and finds these facts if the term does
  not remember operands from one subject to the next (`Query.collect_eq_found`).
* `Query.simplified_finds` says what a simplified term gives, and what a compiled query finds.
-/

set_option autoImplicit false

namespace Annals

namespace Query

variable (q : Query) (params : Option Params) (s : Store)

/-- What a fact is examined as. -/
def subject (id : FactId) : Subject := (Scan.start q params s).subject id

/-- Whether the query finds a fact, with the result of its term computed anew. -/
def finds (id : FactId) : Except Error Bool := do
  let result ← q.term.meaning s.scene (q.subject params s id) s.ledger.sequence
  withinTerm q.term result.decision

/-- The facts in a list that the query finds, unless it fails on one of them. -/
def found : List FactId → Except Error (List Handle)
  | [] => .ok []
  | id :: rest =>
    match q.finds params s id with
    | .ok true => (found rest).map (q.handle id :: ·)
    | .ok false => found rest
    | .error e => .error (q.wrap e)

end Query

namespace Scan

variable {q : Query} {ps : Option Params} {s s' : Store} {scan : Scan}

/-- A scan of a query on its way through a store. -/
structure Underway (q : Query) (ps : Option Params) (s : Store) (scan : Scan) (s' : Store) :
    Prop where
  query : scan.query = q
  params : scan.params = ps
  all : scan.all = s.ledger.sequence
  running : scan.ended = false
  faithful : scan.pass.Faithful s.scene ⟨ps.map .params, s.ledger.sequence⟩ q.term
  reports : s.OnlyReports s'

namespace Underway

theorem start (q : Query) (ps : Option Params) (s : Store) :
    Underway q ps s (.start q ps s) s := by
  refine ⟨rfl, rfl, rfl, rfl, fun _ _ kept => ?_, .refl s⟩
  cases kept

/-- Examining a fact tells whether the query finds it. -/
theorem examine (h : Underway q ps s scan s') (memoryless : q.term.remembers = false)
    (id : FactId) : (scan.examine id s').1 = q.finds ps s id ∧
      Underway q ps s (scan.examine id s').2.1 (scan.examine id s').2.2 ∧
      (scan.examine id s').2.1.position = scan.position + 1 := by
  obtain ⟨rfl, rfl, all, running, faithful, events, rfl⟩ := h
  have subject : scan.subject id = scan.query.subject scan.params s id := rfl
  have parameters : (scan.subject id).parameters = scan.params.map .params := by
    unfold Scan.subject
    cases scan.params <;> rfl
  obtain ⟨result, kept⟩ := Term.evaluate_faithful s.scene s.config.traceEvaluation
    ⟨scan.params.map .params, s.ledger.sequence⟩ scan.query.term memoryless 0 parameters faithful
  have verdict : (scan.query.term.verdict s.scene s.config.traceEvaluation 0 (scan.subject id)
      scan.all).run scan.pass = (scan.query.finds scan.params s id,
        ((scan.query.term.evaluate s.scene s.config.traceEvaluation 0 (scan.subject id)
          s.ledger.sequence).run scan.pass).2) := by
    rw [Term.run_verdict, all, result, subject]
    rfl
  refine ⟨congrArg Prod.fst verdict, ⟨rfl, rfl, all, running, ?_, ⟨_, rfl⟩⟩, rfl⟩
  intro key d held
  have held : ((scan.query.term.verdict s.scene s.config.traceEvaluation 0 (scan.subject id)
      scan.all).run scan.pass).2.results.lookup key = some d := held
  rw [verdict] at held
  exact kept key d held

/-- A scan goes on to the first fact that the query finds, and fails on the first one that it fails
on. -/
theorem advance (memoryless : q.term.remembers = false) (ids : List FactId) {scan : Scan}
    {s' : Store} (h : Underway q ps s scan s')
    (left : s.ledger.sequence.drop scan.position = ids) :
    match Scan.advance ids scan s' with
    | (none, _, _) => q.found ps s ids = .ok []
    | (some (.error e), next, _) => q.found ps s ids = .error e ∧ next.ended = true
    | (some (.ok handle), next, s'') => Underway q ps s next s'' ∧
      (s.ledger.sequence.drop next.position).length < ids.length ∧
      q.found ps s ids
        = (q.found ps s (s.ledger.sequence.drop next.position)).map (handle :: ·) := by
  induction ids generalizing scan s' with
  | nil => exact rfl
  | cons id rest ih =>
    obtain ⟨verdict, underway, position⟩ := h.examine memoryless id
    have later : s.ledger.sequence.drop (scan.position + 1) = rest := by
      rw [← List.drop_drop, left]
      rfl
    rw [Scan.advance]
    cases examined : scan.examine id s' with
    | mk found progress =>
      obtain ⟨next, s''⟩ := progress
      rw [examined] at verdict underway position
      simp only at verdict underway position
      cases found with
      | error e =>
        refine ⟨?_, rfl⟩
        rw [Query.found, ← verdict, underway.query]
      | ok b =>
        cases b with
        | true =>
          refine ⟨⟨underway.query, underway.params, underway.all, underway.running,
            underway.faithful, underway.reports⟩, ?_, ?_⟩
          · simp only [position, later]
            exact Nat.lt_succ_self _
          · simp only [position, later]
            rw [Query.found, ← verdict, underway.query]
        | false =>
          have more := ih underway (by rw [position]; exact later)
          have same : q.found ps s (id :: rest) = q.found ps s rest := by
            rw [Query.found, ← verdict]
          rw [same]
          revert more
          simp only
          split
          · exact fun more => more
          · exact fun more => more
          · intro more
            exact ⟨more.1, Nat.lt_succ_of_lt more.2.1, more.2.2⟩

end Underway

theorem items_ended (count : Nat) (scan : Scan) (s : Store) (ended : scan.ended = true) :
    (scan.items count s).1 = [] := by
  cases count with
  | zero => rfl
  | succ count => simp only [items, next, ended, if_true]

/-- The items of a scan are the facts that the query finds among those that are left. -/
theorem items_found (memoryless : q.term.remembers = false) (count : Nat) {scan : Scan} {s' : Store}
    (h : Underway q ps s scan s') (enough : (s.ledger.sequence.drop scan.position).length < count) :
    (scan.items count s').1.mapM id = q.found ps s (s.ledger.sequence.drop scan.position) := by
  -- every item leaves fewer facts, so that the count does not run out before them
  induction count generalizing scan s' with
  | zero => omega
  | succ count ih =>
    have sequence : s'.ledger.sequence = s.ledger.sequence := by
      obtain ⟨events, rfl⟩ := h.reports
      rfl
    have advanced := h.advance memoryless _ rfl
    have taken : scan.next s' = Scan.advance (s.ledger.sequence.drop scan.position) scan s' := by
      rw [next, h.running, sequence]
      rfl
    rw [items, taken]
    cases advance : Scan.advance (s.ledger.sequence.drop scan.position) scan s' with
    | mk item progress =>
      obtain ⟨next, s''⟩ := progress
      rw [advance] at advanced
      cases item with
      | none => exact advanced.symm
      | some item =>
        cases item with
        | error e =>
          obtain ⟨failed, ended⟩ := advanced
          simp only [items_ended count next s'' ended]
          rw [failed]
          rfl
        | ok handle =>
          obtain ⟨underway, fewer, found⟩ := advanced
          simp only [List.mapM_cons]
          rw [ih underway (by omega), found]
          cases q.found ps s (s.ledger.sequence.drop next.position) <;> rfl

end Scan

/-- A scan finds the facts on which the term of the query is true when everything is computed
anew. -/
theorem Query.collect_eq_found (q : Query) (memoryless : q.term.remembers = false)
    (params : Option Params) (s : Store) :
    (q.collect params s).1 = q.found params s s.ledger.sequence := by
  have enough : s.ledger.sequence.length < Scan.enough s := Nat.lt_succ_self _
  exact Scan.items_found memoryless (Scan.enough s) (.start q params s) enough

namespace Term

/-- A term without a memory is simplified to one that gives the same when everything is computed
anew, or nothing instead of false. -/
theorem meaning_simplify {scene : Scene} {t : Term} (tell : t.TextsTell)
    (memoryless : t.remembers = false) {subject : Subject} {all : List FactId} {d : Datum}
    (result : t.meaning scene subject all = .ok d) :
    t.simplify.meaning scene subject all = .ok d
      ∨ d = .bool false ∧ t.simplify.meaning scene subject all = .ok .nil := by
  obtain ⟨vacant, known⟩ := Pass.exists_knows subject
  have memoryless' := remembers_simplify memoryless
  rw [← evaluate_start scene false memoryless 0 vacant] at result
  rw [← evaluate_start scene false memoryless' 0 vacant]
  rcases evaluate_simplify tell known 0 result with same | ⟨rfl, -, -, nothing⟩
  · exact .inl same
  · exact .inr ⟨rfl, nothing⟩

end Term

/-- A term is false on a subject, and what it is simplified to gives nothing there. -/
def Term.FallsSilent (scene : Scene) (t : Term) (subject : Subject) (all : List FactId) : Prop :=
  t.meaning scene subject all = .ok (.bool false) ∧ t.simplify.meaning scene subject all = .ok .nil

namespace Query

/-- The failure of a query whose term gives nothing on a fact. -/
def silence (q : Query) : Error :=
  q.wrap ((Error.type (.booleanExpected "nil")).within q.term.text)

section Simplified

variable {text : String} {t : Term} {decorators : List Listener} {params : Option Params}
variable {s : Store}

theorem finds_simplify (tell : t.TextsTell) (memoryless : t.remembers = false) {id : FactId}
    {b : Bool} (finds : (Query.mk text t decorators).finds params s id = .ok b) :
    (Query.mk text t.simplify decorators).finds params s id = .ok b
      ∨ t.FallsSilent s.scene ((Query.mk text t decorators).subject params s id)
        s.ledger.sequence := by
  obtain ⟨d, result, decision⟩ := bind_eq_ok.mp finds
  rcases Term.meaning_simplify tell memoryless result with same | ⟨rfl, nothing⟩
  · left
    refine bind_eq_ok.mpr ⟨d, same, ?_⟩
    cases d with
    | nil => cases decision
    | bool c => exact decision
    | values vs => cases decision
  · exact .inr ⟨result, nothing⟩

/-- A query finds the same with the simplified term, or the first fact on which that gives nothing
makes it fail. -/
theorem found_simplify (tell : t.TextsTell) (memoryless : t.remembers = false) (ids : List FactId)
    {handles : List Handle}
    (found : (Query.mk text t decorators).found params s ids = .ok handles) :
    (Query.mk text t.simplify decorators).found params s ids = .ok handles
      ∨ (∃ id ∈ ids, t.FallsSilent s.scene ((Query.mk text t decorators).subject params s id)
          s.ledger.sequence)
        ∧ (Query.mk text t.simplify decorators).found params s ids
          = .error (Query.mk text t.simplify decorators).silence := by
  induction ids generalizing handles with
  | nil => exact .inl found
  | cons id rest ih =>
    rw [Query.found] at found ⊢
    cases finds : (Query.mk text t decorators).finds params s id with
    | error e =>
      rw [finds] at found
      cases found
    | ok b =>
      rw [finds] at found
      rcases finds_simplify tell memoryless finds with same | silent
      · rw [same]
        cases b with
        | true =>
          obtain ⟨others, later, rfl⟩ := map_eq_ok.mp found
          rcases ih later with same | ⟨⟨other, mem, silent⟩, failed⟩
          · left
            simp only [same]
            rfl
          · refine .inr ⟨⟨other, List.mem_cons_of_mem id mem, silent⟩, ?_⟩
            simp only [failed]
            rfl
        | false =>
          rcases ih found with same | ⟨⟨other, mem, silent⟩, failed⟩
          · exact .inl same
          · exact .inr ⟨⟨other, List.mem_cons_of_mem id mem, silent⟩, failed⟩
      · refine .inr ⟨⟨id, List.mem_cons_self, silent⟩, ?_⟩
        have fails : (Query.mk text t.simplify decorators).finds params s id
            = .error ((Error.type (.booleanExpected "nil")).within t.simplify.text) := by
          unfold Query.finds
          rw [show (Query.mk text t.simplify decorators).subject params s id
            = (Query.mk text t decorators).subject params s id from rfl, silent.2]
          rfl
        rw [fails]
        rfl

end Simplified

/-- Simplifying a term is sound but for one thing: a conjunction or a disjunction that gives way to
an operand may give nothing where it was false. That holds of every term whose operands are told
apart by their texts, on every subject, and with terms in it that remember operands. A term that is
read from a query is such a term. So a query whose term does not remember operands finds the same
facts after it is compiled, unless the simplified term gives nothing on one of them, which makes the
query fail. -/
theorem simplified_finds (t : Term) :
    (∀ (scene : Scene) (tracing : Bool) (root vacant : Nat) (subject : Subject)
        (all : List FactId) (d : Datum),
      t.TextsTell → (Pass.start vacant).Knows subject →
      ((t.evaluate scene tracing root subject all).run (.start vacant)).1 = .ok d →
      ((t.simplify.evaluate scene tracing root subject all).run (.start vacant)).1 = .ok d
        ∨ d = .bool false ∧ Term.Joins t.op ∧ ¬Term.Joins t.simplify.op
          ∧ ((t.simplify.evaluate scene tracing root subject all).run (.start vacant)).1
            = .ok .nil) ∧
    ∀ (s : Store) (text : String) (tokens : Nat),
      Factory.verbatim.ofQuery s.config.maxDepth text = .ok (t, tokens) →
      t.TextsTell ∧ (s.compile text).1 = .ok ⟨text, t.simplify, []⟩
        ∧ t.simplify.isAbstract = t.isAbstract
        ∧ (t.remembers = false → ∀ decorators params handles,
          ((Query.mk text t decorators).collect params s).1 = .ok handles →
          ((Query.mk text t.simplify decorators).collect params s).1 = .ok handles
            ∨ (∃ id ∈ s.ledger.sequence, t.FallsSilent s.scene
                ((Query.mk text t decorators).subject params s id) s.ledger.sequence)
              ∧ ((Query.mk text t.simplify decorators).collect params s).1
                = .error (Query.mk text t.simplify decorators).silence) := by
  refine ⟨?_, ?_⟩
  · intro scene tracing root vacant subject all d tell known result
    exact Term.evaluate_simplify tell known root result
  · intro s text tokens read
    have tell := Term.textsTell_of_read read
    refine ⟨tell, ?_, Term.isAbstract_simplify t tell, ?_⟩
    · simp only [Store.compile, Store.readTerm, Term.ofQuery_of_verbatim read]
    · intro memoryless decorators params handles found
      have memoryless' := Term.remembers_simplify memoryless
      rw [collect_eq_found _ memoryless] at found
      rw [collect_eq_found _ memoryless']
      exact found_simplify tell memoryless _ found

/-- A store with two facts, of which only the first has the property `a`. -/
def pair : Store :=
  let first := (Store.create .standard .empty).insert
  (first.2.write first.1 "a" (.int 1)).2.insert.2

/-- A condition that is said twice finds what it finds when it is said once. -/
theorem simplified_finds_twice :
    let present : Operand Term := .term (.node .present [.symbol "a"])
    let t : Term := .node .and [present, present]
    Factory.verbatim.ofQuery pair.config.maxDepth "(and (exists a) (exists a))" = .ok (t, 11)
      ∧ ((t.simplify.evaluate pair.scene false 0 (.fact ⟨0⟩) [⟨0⟩, ⟨1⟩]).run (.start 0)).1
        = .ok (.bool true)
      ∧ ((Query.mk "(and (exists a) (exists a))" t []).collect none pair).1
        = .ok [⟨⟨0⟩, [.journal]⟩]
      ∧ ((Query.mk "(and (exists a) (exists a))" (.node .present [.symbol "a"]) []).collect none
          pair).1 = .ok [⟨⟨0⟩, [.journal]⟩] := by
  intro present t
  have read : Factory.verbatim.ofQuery pair.config.maxDepth "(and (exists a) (exists a))"
      = .ok (t, 11) := by decide +kernel
  have found : ((Query.mk "(and (exists a) (exists a))" t []).collect none pair).1
      = .ok [⟨⟨0⟩, [.journal]⟩] := by rfl
  refine ⟨read, ?_, found, ?_⟩
  · have result : ((t.evaluate pair.scene false 0 (.fact ⟨0⟩) [⟨0⟩, ⟨1⟩]).run (.start 0)).1
        = .ok (.bool true) := by decide +kernel
    rcases (simplified_finds t).1 pair.scene false 0 0 (.fact ⟨0⟩) [⟨0⟩, ⟨1⟩] _
      ((simplified_finds t).2 pair _ 11 read).1 (fun _ vacant => by cases vacant) result with
      same | ⟨silent, -⟩
    · exact same
    · cases silent
  rcases ((simplified_finds t).2 pair _ 11 read).2.2.2 rfl [] none _ found with
    same | ⟨⟨id, mem, silent⟩, -⟩
  · exact same
  · have ids : id = ⟨0⟩ ∨ id = ⟨1⟩ := by
      have mem : id ∈ [(⟨0⟩ : FactId), ⟨1⟩] := mem
      simpa using mem
    rcases ids with rfl | rfl
    · cases silent.2
    · cases silent.2

/-- A store with an empty fact. -/
def lone : Store := (Store.create .standard .empty).insert.2

/-- The query `(and (at 5 a))` is false on an empty fact, but it is compiled to `(at 5 a)`, which
gives nothing there, so that it fails. -/
theorem compiled_falls_silent :
    let text := "(and (at 5 a))"
    let t : Term := .node .and [.term (.node .nth [.literal (.int 5), .symbol "a"])]
    Factory.verbatim.ofQuery lone.config.maxDepth text = .ok (t, 8)
      ∧ ((t.evaluate lone.scene false 0 (.fact ⟨0⟩) [⟨0⟩]).run (.start 0)).1 = .ok (.bool false)
      ∧ ((t.simplify.evaluate lone.scene false 0 (.fact ⟨0⟩) [⟨0⟩]).run (.start 0)).1 = .ok .nil
      ∧ ((Query.mk text t []).toList lone).1 = .ok []
      ∧ (lone.compile text).1 = .ok ⟨text, t.simplify, []⟩
      ∧ ((Query.mk text t.simplify []).toList lone).1
        = .error (Query.mk text t.simplify []).silence := by
  intro text t
  have read : Term.ofQuery lone.config.maxDepth text = .ok (t.simplify, 8) := by decide +kernel
  refine ⟨by decide +kernel, by decide +kernel, by decide +kernel, rfl, ?_, rfl⟩
  rw [Store.compile, Store.readTerm, read]

-- a term that remembers operands is asked less often after it is simplified, and remembers others
example :
    let last : Operand Term := .term (.node .not [.term (.node .prev [.term (.node .present
      [.symbol "a"])])])
    let found (t : Term) := ((Query.mk "" t []).toList pair.insert.2).1.map (·.map Handle.id)
    found (.node .and [last, last]) = .ok [⟨0⟩]
      ∧ found (Term.node .and [last, last]).simplify = .ok [⟨0⟩, ⟨2⟩] := by
  decide +kernel

end Query

end Annals
