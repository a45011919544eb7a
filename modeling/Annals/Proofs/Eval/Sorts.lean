import Annals.Proofs.Eval.Places

/-!
# Well-sorted terms never fail

Some operators want truth values, others want values, and what a term gives is checked only when
it is evaluated. `Operand.WellSorted` are the rules by which this goes well: an operand gives a
truth value, or it gives values or nothing, and every operator gets operands of the kind that it
wants.

A pass hands out what it kept, so that it has to keep results of the right kinds: `Pass.Sorted` is
this invariant, for all places that share a node. `Memo.Ensures` says that a computation keeps an
invariant of passes, and gives a result as wanted instead of failing. The lemmas about single
operators lead to `Term.resolve_ensures`, which is an induction on the rules.
-/

set_option autoImplicit false

namespace Annals

/-- What an operand gives. -/
inductive Kind where
  | truth
  /-- Values or nothing. -/
  | values
  deriving DecidableEq

/-- A result of a kind. A list of values is never empty. -/
def Datum.OfKind (d : Datum) : Kind → Prop
  | .truth => ∃ b, d = .bool b
  | .values => d = .nil ∨ ∃ v vs, d = .values (v :: vs)

/-- The rules by which an operand gives results of one kind. -/
inductive Operand.WellSorted : Kind → Operand Term → Prop
  | always : WellSorted .truth (.term (.node .always []))
  | never : WellSorted .truth (.term (.node .never []))
  | not {b : Operand Term} : WellSorted .truth b → WellSorted .truth (.term (.node .not [b]))
  | and {bs : List (Operand Term)} :
      (∀ b ∈ bs, WellSorted .truth b) → WellSorted .truth (.term (.node .and bs))
  | or {bs : List (Operand Term)} :
      (∀ b ∈ bs, WellSorted .truth b) → WellSorted .truth (.term (.node .or bs))
  | when {a b : Operand Term} : WellSorted .truth a → WellSorted .truth b →
      WellSorted .truth (.term (.node .when [a, b]))
  | present {name : String} : WellSorted .truth (.term (.node .present [.symbol name]))
  | absent {name : String} : WellSorted .truth (.term (.node .absent [.symbol name]))
  /-- Operands of any kinds can be equal. -/
  | eq {k l : Kind} {a b : Operand Term} : WellSorted k a → WellSorted l b →
      WellSorted .truth (.term (.node .eq [a, b]))
  | lt {a b : Operand Term} : WellSorted .values a → WellSorted .values b →
      WellSorted .truth (.term (.node .lt [a, b]))
  | gt {a b : Operand Term} : WellSorted .values a → WellSorted .values b →
      WellSorted .truth (.term (.node .gt [a, b]))
  | literal {v : Value} : WellSorted .values (.literal v)
  | symbol {name : String} : WellSorted .values (.symbol name)
  | size {name : String} : WellSorted .values (.term (.node .size [.symbol name]))
  | type {name : String} : WellSorted .values (.term (.node .type [.symbol name]))
  | nth {i : Int64} {a : Operand Term} : WellSorted .values a →
      WellSorted .values (.term (.node .nth [.literal (.int i), a]))
  | either {a b : Operand Term} : WellSorted .values a → WellSorted .values b →
      WellSorted .values (.term (.node .either [a, b]))
  | min {name : String} : WellSorted .values (.term (.node .min [.symbol name]))
  | max {name : String} : WellSorted .values (.term (.node .max [.symbol name]))
  | count : WellSorted .values (.term (.node .count []))
  /-- An aggregation gives what its body gives. -/
  | agg {k : Kind} {selector body : Term} :
      WellSorted .truth (.term selector) → WellSorted k (.term body) →
      WellSorted k (.term (.node .agg [.term selector, .term body]))
  | traced {k : Kind} {t : Term} : WellSorted k (.term t) →
      WellSorted k (.term (.node .traced [.term t]))

/-- A term that gives results of one kind. -/
def Term.WellSorted (t : Term) (kind : Kind) : Prop := Operand.WellSorted kind (.term t)

/-- An operand gives results of one kind only. -/
theorem Operand.WellSorted.kind_unique {k l : Kind} {operand : Operand Term}
    (sorted : operand.WellSorted k) (other : operand.WellSorted l) : k = l := by
  induction sorted generalizing l with
  | agg _ _ _ body =>
    cases other with
    | agg _ other => exact body other
  | traced _ inner =>
    cases other with
    | traced other => exact inner other
  | _ =>
    cases other
    rfl

namespace Datum

theorem ofKind_single (v : Value) : (single v).OfKind .values :=
  .inr ⟨v, [], rfl⟩

/-- One value or none. -/
theorem ofKind_single_getD (v : Option Value) : ((v.map single).getD .nil).OfKind .values := by
  cases v with
  | none => exact .inl rfl
  | some v => exact ofKind_single v

/-- The values of a property, which may be missing. -/
theorem ofKind_ofValues_getD (history : Option (List Value)) :
    ((history.map ofValues).getD .nil).OfKind .values := by
  cases history with
  | none => exact .inl rfl
  | some vs =>
    cases vs with
    | nil => exact .inl rfl
    | cons v vs => exact .inr ⟨v, vs, rfl⟩

theorem truth_of_kind {d : Datum} (kind : d.OfKind .truth) : ∃ b, d.truth = .ok b := by
  obtain ⟨b, rfl⟩ := kind
  exact ⟨b, rfl⟩

theorem decision_of_kind {d : Datum} (kind : d.OfKind .truth) : ∃ b, d.decision = .ok b := by
  obtain ⟨b, rfl⟩ := kind
  exact ⟨b, rfl⟩

/-- Values and no result can be put in order. -/
theorem operands_of_kind {d : Datum} (kind : d.OfKind .values) : ∃ vs, d.operands? = .ok vs := by
  obtain rfl | ⟨v, vs, rfl⟩ := kind
  · exact ⟨none, rfl⟩
  · exact ⟨some (v :: vs), rfl⟩

end Datum

namespace Memo

/-- From every pass with the invariant a computation gives a result as wanted, and it leaves a
pass with the invariant. -/
def Ensures {α : Type} (Invariant : Pass → Prop) (a : Memo α) (wanted : α → Prop) : Prop :=
  ∀ pass, Invariant pass →
    ∃ x next, a.run pass = (.ok x, next) ∧ wanted x ∧ Invariant next

namespace Ensures

variable {Invariant : Pass → Prop} {α β : Type}

theorem pure {wanted : α → Prop} {x : α} (asWanted : wanted x) :
    Ensures Invariant (pure x) wanted :=
  fun pass holds => ⟨x, pass, rfl, asWanted, holds⟩

theorem bind {a : Memo α} {f : α → Memo β} {between : α → Prop} {wanted : β → Prop}
    (first : Ensures Invariant a between)
    (rest : ∀ x, between x → Ensures Invariant (f x) wanted) :
    Ensures Invariant (a >>= f) wanted := by
  intro pass holds
  obtain ⟨x, next, run, given, kept⟩ := first pass holds
  rw [run_bind, run]
  exact rest x given next kept

theorem named {a : Memo Datum} {wanted : Datum → Prop} (t : Term)
    (ensures : Ensures Invariant a wanted) : Ensures Invariant (Term.named t a) wanted := by
  intro pass holds
  obtain ⟨x, next, run, given, kept⟩ := ensures pass holds
  refine ⟨x, next, ?_, given, kept⟩
  rw [run_named, run]

/-- A computation outside of the pass that succeeds. -/
theorem outcome {r : Except Error α} (ok : ∃ x, r = .ok x) :
    Ensures Invariant (Operation.outcome r) fun _ => True := by
  obtain ⟨x, rfl⟩ := ok
  exact pure trivial

end Ensures

end Memo

namespace Operation

open Memo (Ensures)

variable {Invariant : Pass → Prop} {scene : Scene} {subject : Subject} {all : List FactId}

section

variable {a b : Argument Memo}

theorem truthOf_ensures (kind : Ensures Invariant (a.value subject all) (·.OfKind .truth)) :
    Ensures Invariant (truthOf subject all a) fun _ => True :=
  kind.bind fun d given => .outcome (d.truth_of_kind given)

/-- An operand that is a symbol names a property. -/
theorem property_ensures {name : String} (symbol : a.operand = .symbol name) :
    Ensures Invariant (property scene subject a) fun _ => True := by
  unfold property
  rw [symbol]
  exact (Ensures.outcome ⟨name, rfl⟩).bind fun _ _ => .pure trivial

theorem best_ensures {name : String} (wanted : Ordering) (symbol : a.operand = .symbol name) :
    Ensures Invariant (best scene all wanted a) (·.OfKind .values) := by
  unfold best
  rw [symbol]
  refine (Ensures.outcome ⟨name, rfl⟩).bind fun _ _ => .pure ?_
  exact Datum.ofKind_single_getD _

/-- The first operand of `nth` has to be one integer. -/
theorem nth_ensures (index : ∃ i, Ensures Invariant (a.value subject all) (· = .single (.int i)))
    (values : Ensures Invariant (b.value subject all) (·.OfKind .values)) :
    Ensures Invariant (nth subject all a b) (·.OfKind .values) := by
  obtain ⟨i, index⟩ := index
  refine index.bind fun d given => ?_
  subst given
  exact values.bind fun vs _ => .pure (Datum.ofKind_single_getD _)

theorem either_ensures (left : Ensures Invariant (a.value subject all) (·.OfKind .values))
    (right : Ensures Invariant (b.value subject all) (·.OfKind .values)) :
    Ensures Invariant (either subject all a b) (·.OfKind .values) := by
  refine left.bind fun d given => ?_
  split
  · exact right
  · exact .pure given

/-- Results of all kinds can be equal. -/
theorem equality_ensures {k l : Kind} (left : Ensures Invariant (a.value subject all) (·.OfKind k))
    (right : Ensures Invariant (b.value subject all) (·.OfKind l)) :
    Ensures Invariant (equality subject all a b) (·.OfKind .truth) := by
  refine left.bind fun d _ => ?_
  split
  · exact .pure ⟨false, rfl⟩
  · exact right.bind fun _ _ => .pure ⟨_, rfl⟩

theorem comparison_ensures (wanted : Ordering)
    (left : Ensures Invariant (a.value subject all) (·.OfKind .values))
    (right : Ensures Invariant (b.value subject all) (·.OfKind .values)) :
    Ensures Invariant (comparison subject all wanted a b) (·.OfKind .truth) := by
  refine left.bind fun l kind => (Ensures.outcome (l.operands_of_kind kind)).bind fun _ _ => ?_
  split
  · refine right.bind fun r kind => ?_
    refine (Ensures.outcome (r.operands_of_kind kind)).bind fun _ _ => ?_
    split
    · exact .pure ⟨_, rfl⟩
    · exact .pure ⟨false, rfl⟩
  · exact .pure ⟨false, rfl⟩

end

section

variable {args : List (Argument Memo)}

theorem conjunction_ensures
    (kinds : ∀ a ∈ args, Ensures Invariant (a.value subject all) (·.OfKind .truth)) :
    Ensures Invariant (conjunction subject all args) fun _ => True := by
  induction args with
  | nil => exact .pure trivial
  | cons a rest ih =>
    refine (truthOf_ensures (kinds a List.mem_cons_self)).bind fun b _ => ?_
    split
    · exact ih fun c mem => kinds c (List.mem_cons_of_mem a mem)
    · exact .pure trivial

theorem disjunction_ensures
    (kinds : ∀ a ∈ args, Ensures Invariant (a.value subject all) (·.OfKind .truth)) :
    Ensures Invariant (disjunction subject all args) fun _ => True := by
  induction args with
  | nil => exact .pure trivial
  | cons a rest ih =>
    refine (truthOf_ensures (kinds a List.mem_cons_self)).bind fun b _ => ?_
    split
    · exact .pure trivial
    · exact ih fun c mem => kinds c (List.mem_cons_of_mem a mem)

end

/-- A selector that is true or false on every candidate selects facts. -/
theorem select_ensures {selector : Argument Memo} (t : Term) (parameters : Option Backing)
    (facts : List FactId)
    (kinds : ∀ id, Ensures Invariant (selector.value (candidate parameters id) all)
      (·.OfKind .truth)) :
    Ensures Invariant (select all selector t parameters facts) fun _ => True := by
  induction facts with
  | nil => exact .pure trivial
  | cons id rest ih =>
    refine (kinds id).bind fun d given => ?_
    obtain ⟨b, truth⟩ := d.truth_of_kind given
    rw [truth]
    refine (Ensures.outcome ⟨b, rfl⟩).bind fun _ _ => ?_
    exact ih.bind fun _ _ => .pure trivial

end Operation

/-- The results that a pass keeps for nodes of well-sorted terms are of their kinds. -/
def Pass.Sorted (sharing : Sharing) (terms : Nat → Option Term) (pass : Pass) : Prop :=
  ∀ key d, pass.results.lookup key = some d → ∀ place t kind, sharing.node place = key.address →
    termAt terms place.path = some t → t.WellSorted kind → d.OfKind kind

namespace Pass

variable {sharing : Sharing} {terms : Nat → Option Term} {pass : Pass}

/-- A pass that keeps nothing keeps nothing of a wrong kind. -/
theorem sorted_of_fresh (fresh : pass.results = []) : pass.Sorted sharing terms := by
  intro key d kept
  rw [fresh] at kept
  cases kept

/-- Whatever place the node is found at, the term there is the one that was computed. -/
theorem Sorted.keep (fits : sharing.Fits terms) (sorted : pass.Sorted sharing terms) {t : Term}
    {kind : Kind} {address : Address} (subject : Subject) {d : Datum}
    (placed : termAt terms address.path = some t) (rules : t.WellSorted kind)
    (given : d.OfKind kind) :
    (pass.keep (Key.of t (sharing.node address) subject) d).Sorted sharing terms := by
  intro key d' kept place u kind' shared placed' rules'
  by_cases same : key = Key.of t (sharing.node address) subject
  · subst same
    rw [Pass.keep, List.lookup_cons_self, Option.some.injEq] at kept
    rw [Key.address_of] at shared
    obtain rfl := fits.term placed' placed shared
    subst kept
    rw [← rules.kind_unique rules']
    exact given
  · rw [Pass.keep, lookup_cons_of_ne same] at kept
    exact sorted key d' kept place u kind' shared placed' rules'

end Pass

namespace Operation

open Memo (Ensures)

variable {sharing : Sharing} {terms : Nat → Option Term} {tracing : Bool} {subject : Subject}
variable {all : List FactId} {a b : Argument Memo} {kind : Kind}

/-- An aggregation gives what its body gives on whatever was selected. -/
theorem aggregation_ensures {t u : Term} (nested : a.operand = .term t)
    (nested' : b.operand = .term u)
    (selector : ∀ id, Ensures (Pass.Sorted sharing terms)
      (a.value (candidate subject.parameters id) all) (·.OfKind .truth))
    (body : ∀ view kept, Ensures (Pass.Sorted sharing terms) (b.value (.view view) kept)
      (·.OfKind kind)) :
    Ensures (Pass.Sorted sharing terms)
      (aggregation ((Memo.strategy tracing).shared sharing) subject all a b) (·.OfKind kind) := by
  -- taking a number for a view without a fact leaves the kept results alone
  have vacant : Ensures (Pass.Sorted sharing terms)
      ((Memo.strategy tracing).shared sharing).vacant fun _ => True :=
    fun pass sorted => ⟨_, _, Memo.run_vacant pass tracing, trivial, sorted⟩
  unfold aggregation
  rw [nested, nested']
  refine (Ensures.outcome ⟨t, rfl⟩).bind fun t _ => (Ensures.outcome ⟨u, rfl⟩).bind fun _ _ => ?_
  refine (select_ensures t _ all selector).bind fun kept _ => ?_
  cases kept with
  | nil => exact vacant.bind fun front _ => body _ _
  | cons id rest => exact body _ _

/-- A report leaves the kept results alone. -/
theorem tracing_ensures {t : Term} (nested : a.operand = .term t)
    (value : Ensures (Pass.Sorted sharing terms) (a.value subject all) (·.OfKind kind)) :
    Ensures (Pass.Sorted sharing terms)
      (Operation.tracing ((Memo.strategy tracing).shared sharing) subject all a)
      (·.OfKind kind) := by
  have report : ∀ event, Ensures (Pass.Sorted sharing terms) (Memo.report event) fun _ => True :=
    fun event pass sorted => ⟨(), pass.reported event, rfl, trivial, sorted⟩
  unfold Operation.tracing
  rw [nested]
  refine (Ensures.outcome ⟨t, rfl⟩).bind fun t _ => value.bind fun d given => ?_
  exact (report (.traced t d)).bind fun _ _ => .pure given

end Operation

namespace Term

open Memo (Ensures)
open Operation

variable {sharing : Sharing} {terms : Nat → Option Term} {scene : Scene} {tracing : Bool}

/-- A term gives a result of its kind if its operator does: a kept result is of that kind, and
what is computed is kept under a key of the term. -/
theorem evaluateWith_ensures (fits : sharing.Fits terms) {op : Operator}
    {operands : List (Operand Term)} {kind : Kind} {address : Address} {subject : Subject}
    {all : List FactId}
    (rules : (node op operands).WellSorted kind)
    (placed : Operand.Placed terms address (.term (node op operands)))
    (performed : Ensures (Pass.Sorted sharing terms)
      (perform scene ((Memo.strategy tracing).shared sharing) subject all (node op operands) address
        (arguments scene ((Memo.strategy tracing).shared sharing) address 0 operands))
      (·.OfKind kind)) :
    Ensures (Pass.Sorted sharing terms)
      ((node op operands).evaluateWith scene ((Memo.strategy tracing).shared sharing) address
        subject all)
      (·.OfKind kind) := by
  intro pass sorted
  rw [evaluateWith, Strategy.shared_answer, Memo.run_answer]
  cases found : pass.results.lookup (Key.of (node op operands) (sharing.node address) subject) with
  | some d =>
    refine ⟨d, pass.hit, rfl, sorted _ d found address _ kind ?_ (placed _ rfl) rules, sorted⟩
    rw [Key.address_of]
  | none =>
    obtain ⟨d, next, run, given, kept⟩ := performed.named (node op operands) pass.missed sorted
    rw [run]
    refine ⟨d, _, rfl, given, Pass.Sorted.keep fits ?_ subject (placed _ rfl) rules given⟩
    split
    · exact kept
    · exact kept

/-- What holds of the evaluation of every operand holds of every argument. -/
theorem arguments_ensures {Invariant : Pass → Prop} {kind : Kind} {address : Address}
    {subject : Subject} {all : List FactId} (operands : List (Operand Term)) (position : Nat)
    (each : ∀ i b, operands[i]? = some b → Ensures Invariant
      (resolve scene ((Memo.strategy tracing).shared sharing) b (address.operand (position + i))
        subject all)
      (·.OfKind kind)) :
    ∀ a ∈ arguments scene ((Memo.strategy tracing).shared sharing) address position operands,
      Ensures Invariant (a.value subject all) (·.OfKind kind) := by
  induction operands generalizing position with
  | nil =>
    intro a mem
    cases mem
  | cons operand rest ih =>
    intro a mem
    rcases List.mem_cons.mp mem with rfl | mem
    · exact each 0 operand rfl
    · refine ih (position + 1) ?_ a mem
      intro i b found
      have next := each (i + 1) b found
      rwa [show position + (i + 1) = position + 1 + i by omega] at next

theorem operands_ensures {Invariant : Pass → Prop} {op : Operator} {operands : List (Operand Term)}
    {kind : Kind} {address : Address} {subject : Subject} {all : List FactId}
    (placed : Operand.Placed terms address (.term (node op operands)))
    (each : ∀ b ∈ operands, ∀ here, b.Placed terms here → Ensures Invariant
      (resolve scene ((Memo.strategy tracing).shared sharing) b here subject all) (·.OfKind kind)) :
    ∀ a ∈ arguments scene ((Memo.strategy tracing).shared sharing) address 0 operands,
      Ensures Invariant (a.value subject all) (·.OfKind kind) := by
  refine arguments_ensures operands 0 fun i b found => ?_
  rw [Nat.zero_add]
  exact each b (List.mem_of_getElem? found) _ (placed.operand found)

/-- An operand that goes by the rules gives a result of its kind and leaves a pass that keeps
results of the right kinds. -/
theorem resolve_ensures (fits : sharing.Fits terms) {kind : Kind} {operand : Operand Term}
    (rules : operand.WellSorted kind) (address : Address) (subject : Subject) (all : List FactId)
    (placed : operand.Placed terms address) :
    Ensures (Pass.Sorted sharing terms)
      (resolve scene ((Memo.strategy tracing).shared sharing) operand address subject all)
      (·.OfKind kind) := by
  -- aggregations evaluate their operands on other subjects and facts
  induction rules generalizing address subject all with
  | literal => exact .pure (Datum.ofKind_single _)
  | symbol => exact .pure (Datum.ofKind_ofValues_getD _)
  | always => exact evaluateWith_ensures fits .always placed (.pure ⟨true, rfl⟩)
  | never => exact evaluateWith_ensures fits .never placed (.pure ⟨false, rfl⟩)
  | not rules ih =>
    have value := ih (address.operand 0) subject all (placed.operand rfl)
    refine evaluateWith_ensures fits (.not rules) placed ?_
    exact (truthOf_ensures value).bind fun _ _ => .pure ⟨_, rfl⟩
  | and rules ih =>
    have values := operands_ensures placed fun b mem here => ih b mem here subject all
    refine evaluateWith_ensures fits (.and rules) placed ?_
    exact (conjunction_ensures values).bind fun _ _ => .pure ⟨_, rfl⟩
  | or rules ih =>
    have values := operands_ensures placed fun b mem here => ih b mem here subject all
    refine evaluateWith_ensures fits (.or rules) placed ?_
    exact (disjunction_ensures values).bind fun _ _ => .pure ⟨_, rfl⟩
  | when rules rules' ih ih' =>
    have condition := ih (address.operand 0) subject all (placed.operand rfl)
    have value := ih' (address.operand 1) subject all (placed.operand rfl)
    refine evaluateWith_ensures fits (.when rules rules') placed ?_
    refine (truthOf_ensures condition).bind fun _ _ => ?_
    split
    · exact (truthOf_ensures value).bind fun _ _ => .pure ⟨_, rfl⟩
    · exact .pure ⟨true, rfl⟩
  | present =>
    refine evaluateWith_ensures fits .present placed ?_
    exact (property_ensures rfl).bind fun _ _ => .pure ⟨_, rfl⟩
  | absent =>
    refine evaluateWith_ensures fits .absent placed ?_
    exact (property_ensures rfl).bind fun _ _ => .pure ⟨_, rfl⟩
  | eq rules rules' ih ih' =>
    have left := ih (address.operand 0) subject all (placed.operand rfl)
    have right := ih' (address.operand 1) subject all (placed.operand rfl)
    exact evaluateWith_ensures fits (.eq rules rules') placed (equality_ensures left right)
  | lt rules rules' ih ih' =>
    have left := ih (address.operand 0) subject all (placed.operand rfl)
    have right := ih' (address.operand 1) subject all (placed.operand rfl)
    exact evaluateWith_ensures fits (.lt rules rules') placed (comparison_ensures .lt left right)
  | gt rules rules' ih ih' =>
    have left := ih (address.operand 0) subject all (placed.operand rfl)
    have right := ih' (address.operand 1) subject all (placed.operand rfl)
    exact evaluateWith_ensures fits (.gt rules rules') placed (comparison_ensures .gt left right)
  | size =>
    refine evaluateWith_ensures fits .size placed ?_
    exact (property_ensures rfl).bind fun _ _ => .pure (Datum.ofKind_single _)
  | type =>
    refine evaluateWith_ensures fits .type placed ?_
    exact (property_ensures rfl).bind fun _ _ => .pure (Datum.ofKind_single _)
  | @nth i _ rules ih =>
    have values := ih (address.operand 1) subject all (placed.operand rfl)
    exact evaluateWith_ensures fits (.nth rules) placed (nth_ensures ⟨i, .pure rfl⟩ values)
  | either rules rules' ih ih' =>
    have left := ih (address.operand 0) subject all (placed.operand rfl)
    have right := ih' (address.operand 1) subject all (placed.operand rfl)
    exact evaluateWith_ensures fits (.either rules rules') placed (either_ensures left right)
  | min => exact evaluateWith_ensures fits .min placed (best_ensures .lt rfl)
  | max => exact evaluateWith_ensures fits .max placed (best_ensures .gt rfl)
  | count => exact evaluateWith_ensures fits .count placed (.pure (Datum.ofKind_single _))
  | agg rules rules' ih ih' =>
    refine evaluateWith_ensures fits (.agg rules rules') placed (aggregation_ensures rfl rfl ?_ ?_)
    · exact fun id => ih (address.operand 0) _ all (placed.operand rfl)
    · exact fun view kept => ih' (address.operand 1) _ kept (placed.operand rfl)
  | traced rules ih =>
    have value := ih (address.operand 0) subject all (placed.operand rfl)
    exact evaluateWith_ensures fits (.traced rules) placed (tracing_ensures rfl value)

/-- A well-sorted term under its number gives a result of its kind, which is of every kind that the
term has because it has no other. -/
theorem root_ensures (fits : sharing.Fits terms) (scene : Scene) (tracing : Bool) {t : Term}
    {root : Nat} (numbered : terms root = some t) (sorted : ∃ kind, t.WellSorted kind)
    (subject : Subject) (all : List FactId) :
    Ensures (Pass.Sorted sharing terms)
      (t.evaluateWith scene ((Memo.strategy tracing).shared sharing) (.root root) subject all)
      fun d => ∀ kind, t.WellSorted kind → d.OfKind kind := by
  intro pass holds
  obtain ⟨kind, rules⟩ := sorted
  obtain ⟨d, next, run, given, kept⟩ :=
    resolve_ensures fits rules (.root root) subject all (.root numbered) pass holds
  refine ⟨d, next, run, fun other rules' => ?_, kept⟩
  rw [← rules.kind_unique rules']
  exact given

/-- So does an evaluation in a pass where every place has a node of its own. -/
theorem evaluate_ensures (terms : Nat → Option Term) (scene : Scene) (tracing : Bool) {t : Term}
    (root : Nat) (numbered : terms root = some t) (sorted : ∃ kind, t.WellSorted kind)
    (subject : Subject) (all : List FactId) :
    Ensures (Pass.Sorted .none terms) (t.evaluate scene tracing root subject all)
      fun d => ∀ kind, t.WellSorted kind → d.OfKind kind :=
  root_ensures (Sharing.fits_none terms) scene tracing numbered sorted subject all

end Term

end Annals
