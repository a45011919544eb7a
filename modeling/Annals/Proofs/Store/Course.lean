import Annals.Proofs.Eval.Independence
import Annals.Proofs.Store.Compiled
import Annals.Proofs.Store.Reachable

/-!
# The course of a scan over a store that changes

A scan is lazy: between two of its answers facts are inserted and written, and it goes on over what
the store holds by then, with one pass for all of its way. A result that the pass kept of a fact may
have become wrong since. It does no harm, because a scan never comes back to a fact: results other
than those of aggregates are kept by the identity of the fact, and the sequence names every fact
once.

* `Scan.Course` is a scan with everything that happens to its store between two answers, and
  `Scan.Turn` is what it does for one answer: which positions it looks at, and what it finds there.
* `Scan.Ready` is what has to be so before a fact is examined: the pass knows nothing of the facts
  from there on. `Ready.examine` is about one fact, `Ready.advance` about one answer, and
  `Course.steady` about the whole course.
* `Scan.Course.every_position_once` is the result.
-/

set_option autoImplicit false

namespace Annals

/-- What the term of a query says of a fact by what the store holds, with everything computed anew;
the other facts matter only to aggregates. -/
def Query.decides (q : Query) (params : Option Params) (all : List FactId) (s : Store)
    (id : FactId) : Except Error Bool := do
  let result ← q.term.meaning s.scene (q.subject params s id) all
  withinTerm q.term result.decision

namespace Scan

/-- One examination: of which fact, where, and what came of it. -/
structure Look where
  position : Nat
  id : FactId
  verdict : Except Error Bool

/-- The examinations that are made while a scan goes on over some facts. -/
def looks : List FactId → Scan → Store → List Look
  | [], _, _ => []
  | id :: rest, scan, s =>
    match scan.examine id s with
    | (.ok false, next, s') => ⟨scan.position, id, .ok false⟩ :: looks rest next s'
    | (verdict, _, _) => [⟨scan.position, id, verdict⟩]

/-- What a scan does when it is asked for the next fact. -/
structure Turn where
  /-- The store as it is then. -/
  store : Store
  looks : List Look
  answer : Option (Except Error Handle)

/-- The turn of a scan. -/
def turn (scan : Scan) (s : Store) : Turn where
  store := s
  looks := if scan.ended then [] else scan.looks (s.ledger.sequence.drop scan.position) s
  answer := (scan.next s).1

/-- A scan of a query with the turns that it had so far, where the store may change in any way
between them as long as nothing goes from its sequence. -/
inductive Course (q : Query) (params : Option Params) (s₀ : Store) :
    List Turn → Scan → Store → Prop where
  | start : Course q params s₀ [] (.start q params s₀) s₀
  | work {turns : List Turn} {scan : Scan} {s s' : Store} (before : Course q params s₀ turns scan s)
    (step : Store.Step s s') (kept : s.ledger.sequence <+: s'.ledger.sequence) :
    Course q params s₀ turns scan s'
  | next {turns : List Turn} {scan : Scan} {s : Store} (before : Course q params s₀ turns scan s) :
    Course q params s₀ (turns ++ [scan.turn s]) (scan.next s).2.1 (scan.next s).2.2

/-- Examinations that lead to an answer: the query passes over facts until it finds one, or fails on
one, or there are no more. -/
inductive Answered (q : Query) : List Look → Option (Except Error Handle) → Prop where
  | none : Answered q [] none
  | found {look : Look} (verdict : look.verdict = .ok true) :
    Answered q [look] (some (.ok (q.handle look.id)))
  | failed {look : Look} {e : Error} (verdict : look.verdict = .error e) :
    Answered q [look] (some (.error (q.wrap e)))
  | pass {look : Look} {rest : List Look} {answer : Option (Except Error Handle)}
    (verdict : look.verdict = .ok false) (later : Answered q rest answer) :
    Answered q (look :: rest) answer

namespace Turn

/-- Whether a turn ends the scan: nothing is found any more, or the term fails. -/
def ends (turn : Turn) : Bool :=
  match turn.answer with
  | some (.ok _) => false
  | some (.error _) => true
  | none => true

/-- The position of the fact that was found. -/
def found? (turn : Turn) : Option Nat :=
  match turn.answer with
  | some (.ok _) => turn.looks.getLast?.map Look.position
  | _ => none

end Turn

variable {q : Query} {params : Option Params} {all : List FactId} {scan : Scan} {s s' : Store}

/-- An examination of the fact that has its place in the store, with the verdict that the term has
on the fact when everything is computed anew. -/
structure Look.Fair (q : Query) (params : Option Params) (all : List FactId) (s : Store)
    (look : Look) : Prop where
  placed : s.ledger.sequence[look.position]? = some look.id
  verdict : look.verdict = q.decides params all s look.id

/-- A scan whose pass knows nothing of the facts that it has not examined. -/
structure Ready (q : Query) (params : Option Params) (all : List FactId) (scan : Scan)
    (s : Store) : Prop where
  query : scan.query = q
  params : scan.params = params
  all : scan.all = all
  listed : s.Listed
  bound : scan.position ≤ s.ledger.sequence.length
  unseen : ∀ address id, id ∉ s.ledger.sequence.take scan.position →
    scan.pass.results.lookup (.onSubject address (.fact id)) = none

namespace Ready

theorem start (listed : s.Listed) : Ready q params s.ledger.sequence (.start q params s) s :=
  ⟨rfl, rfl, rfl, listed, Nat.zero_le _, fun _ _ _ => rfl⟩

/-- What happens to the store between two answers leaves the facts in their places that were
examined. -/
theorem work (ready : Ready q params all scan s) (step : Store.Step s s')
    (kept : s.ledger.sequence <+: s'.ledger.sequence) : Ready q params all scan s' := by
  obtain ⟨more, sequence⟩ := kept
  refine ⟨ready.query, ready.params, ready.all, ready.listed.grow step.grows, ?_, ?_⟩
  · rw [← sequence, List.length_append]
    exact Nat.le_add_right_of_le ready.bound
  · rw [← sequence, List.take_append_of_le_length ready.bound]
    exact ready.unseen

/-- The fact that comes next is examined as if there was no memory, and then the pass knows nothing
of those behind it. -/
theorem examine (ready : Ready q params all scan s) (memoryless : q.term.remembers = false)
    (alone : q.term.anyOperator Operator.isAggregate = false) {id : FactId}
    (here : s.ledger.sequence[scan.position]? = some id) :
    (scan.examine id s).1 = q.decides params all s id ∧
      Ready q params all (scan.examine id s).2.1 (scan.examine id s).2.2 := by
  obtain ⟨rfl, rfl, rfl, listed, bound, unseen⟩ := ready
  have seen : s.ledger.sequence.take (scan.position + 1) =
      s.ledger.sequence.take scan.position ++ [id] := by
    rw [List.take_add_one, here]
    rfl
  have new : id ∉ s.ledger.sequence.take scan.position := by
    have once := listed.distinct.sublist (List.take_sublist (scan.position + 1) _)
    rw [seen] at once
    intro mem
    exact (List.nodup_append.mp once).2.2 id mem id List.mem_cons_self rfl
  have identity := scan.identity_subject id
  have unknown : ∀ address,
      scan.pass.results.lookup (.onSubject address (scan.subject id).identity) = none := by
    rw [identity]
    exact fun address => unseen address id new
  obtain ⟨result, others⟩ := Term.evaluate_unseen s.scene s.config.traceEvaluation scan.query.term
    memoryless alone 0 (scan.subject id) scan.all scan.pass unknown
  have verdict := scan.query.term.run_verdict s.scene s.config.traceEvaluation 0 (scan.subject id)
    scan.all scan.pass
  refine ⟨?_, rfl, rfl, rfl, ⟨listed.distinct, listed.made, listed.reserved⟩, ?_, ?_⟩
  · rw [result] at verdict
    exact congrArg Prod.fst verdict
  · exact (List.getElem?_eq_some_iff.mp here).1
  · intro address other later
    have later : other ∉ s.ledger.sequence.take scan.position ++ [id] := by
      rw [← seen]
      exact later
    rw [List.mem_append, List.mem_singleton, not_or] at later
    have kept := others address (.fact other) (by
      rw [identity]
      exact fun same => later.2 (Identity.fact.inj same))
    rw [unseen address other later.1] at kept
    show ((scan.query.term.verdict _ _ _ _ _).run scan.pass).2.results.lookup _ = _
    rw [verdict]
    exact kept

/-- Neither the reports nor how a scan counts and ends matter to it. -/
theorem settle (ready : Ready q params all scan s) (matched : Nat) (ended : Bool)
    (events : List Event) :
    Ready q params all { scan with matched := matched, ended := ended }
      { s with events := events } :=
  ⟨ready.query, ready.params, ready.all,
    ready.listed.grow (Store.OnlyReports.grows ⟨events, rfl⟩), ready.bound, ready.unseen⟩

end Ready

/-- What a scan does for one answer. -/
structure Goes (q : Query) (params : Option Params) (all : List FactId) (scan : Scan) (s : Store)
    (turn : Turn) (scan' : Scan) (s' : Store) : Prop where
  ready : Ready q params all scan' s'
  positions : turn.looks.map Look.position = List.range' scan.position turn.looks.length
  position : scan'.position = scan.position + turn.looks.length
  fair : ∀ look ∈ turn.looks, look.Fair q params all s
  answered : Answered q turn.looks turn.answer
  ended : scan'.ended = (scan.ended || turn.ends)
  complete : scan.ended = false → turn.answer = none → scan'.position = s.size

theorem Ready.advance (memoryless : q.term.remembers = false)
    (alone : q.term.anyOperator Operator.isAggregate = false) (ids : List FactId) {scan : Scan}
    {s : Store} (ready : Ready q params all scan s) (running : scan.ended = false)
    (left : s.ledger.sequence.drop scan.position = ids) :
    Goes q params all scan s ⟨s, scan.looks ids s, (Scan.advance ids scan s).1⟩
      (Scan.advance ids scan s).2.1 (Scan.advance ids scan s).2.2 := by
  induction ids generalizing scan s with
  | nil =>
    have whole : s.ledger.sequence.length ≤ scan.position := List.drop_eq_nil_iff.mp left
    refine ⟨ready.settle _ true _, rfl, rfl, List.forall_mem_nil _, .none, ?_, fun _ _ => ?_⟩
    · rw [running]
      rfl
    · exact Nat.le_antisymm ready.bound whole
  | cons id rest ih =>
    have here : s.ledger.sequence[scan.position]? = some id := by
      rw [← List.head?_drop, left]
      rfl
    have later : s.ledger.sequence.drop (scan.position + 1) = rest := by
      rw [← List.drop_drop, left]
      rfl
    obtain ⟨decided, next⟩ := ready.examine memoryless alone here
    have position : (scan.examine id s).2.1.position = scan.position + 1 := rfl
    have going : (scan.examine id s).2.1.ended = scan.ended := rfl
    have reports := scan.examine_onlyReports id s
    rcases examined : scan.examine id s with ⟨verdict, scan', s'⟩
    rw [examined] at decided next position going reports
    obtain ⟨events, rfl⟩ := reports
    have fair : (⟨scan.position, id, verdict⟩ : Look).Fair q params all s := ⟨here, decided⟩
    obtain rfl : scan'.query = q := next.query
    simp only [looks, Scan.advance, examined]
    rcases verdict with e | found
    · refine ⟨next.settle _ true events, rfl, position, List.forall_mem_singleton.mpr fair,
        .failed rfl, ?_, fun _ none => by cases none⟩
      rw [running]
      rfl
    · cases found with
      | true =>
        refine ⟨next.settle _ _ events, rfl, position, List.forall_mem_singleton.mpr fair,
          .found rfl, ?_, fun _ none => by cases none⟩
        rw [running]
        exact going.trans running
      | false =>
        -- the facts behind are examined in a store that differs in its reports only
        obtain ⟨ready', positions, ended, fairs, answered, stops, complete⟩ :=
          ih next (going.trans running) (by rw [position]; exact later)
        refine ⟨ready', ?_, ?_, ?_, .pass rfl answered, ?_, fun _ => complete (going.trans running)⟩
        · simp only [List.map_cons, List.length_cons, List.range'_succ]
          rw [positions, position]
        · rw [ended, position]
          simp only [List.length_cons]
          omega
        · refine List.forall_mem_cons.mpr ⟨fair, fun look mem => ?_⟩
          exact ⟨(fairs look mem).placed, (fairs look mem).verdict⟩
        · exact stops.trans (congrArg (· || _) going)

/-- A scan that has ended looks at nothing, and stays as it is. -/
theorem turn_ended (ended : scan.ended = true) (s : Store) :
    scan.turn s = ⟨s, [], none⟩ ∧ (scan.next s).2 = (scan, s) := by
  constructor
  · simp only [turn, next, ended, if_true]
  · simp only [next, ended, if_true]

theorem Ready.next (ready : Ready q params all scan s) (memoryless : q.term.remembers = false)
    (alone : q.term.anyOperator Operator.isAggregate = false) :
    Goes q params all scan s (scan.turn s) (scan.next s).2.1 (scan.next s).2.2 := by
  cases ended : scan.ended with
  | true =>
    obtain ⟨turn, rest⟩ := turn_ended ended s
    rw [turn, rest]
    refine ⟨ready, rfl, rfl, List.forall_mem_nil _, .none, ?_, ?_⟩
    · rw [ended]
      rfl
    · rw [ended]
      exact fun running => by cases running
  | false =>
    have advanced := ready.advance memoryless alone _ ended rfl
    simpa only [turn, Scan.next, ended, Bool.false_eq_true, if_false] using advanced

/-- What is so of a scan and of the turns that it had, at any time. -/
structure Steady (q : Query) (params : Option Params) (all : List FactId) (turns : List Turn)
    (scan : Scan) (s : Store) : Prop where
  ready : Ready q params all scan s
  once : (turns.flatMap Turn.looks).map Look.position = List.range scan.position
  fair : ∀ turn ∈ turns, ∀ look ∈ turn.looks, look.Fair q params all turn.store
  answered : ∀ turn ∈ turns, Answered q turn.looks turn.answer
  ended : scan.ended = true ↔ ∃ turn ∈ turns, turn.ends = true
  rests : turns.Pairwise fun earlier later =>
    earlier.ends = true → later.looks = [] ∧ later.answer = none
  /-- The first turn without an answer leaves no fact of the store out. -/
  complete : ∀ before turn after, turns = before ++ turn :: after →
    (∀ earlier ∈ before, earlier.ends = false) → turn.answer = none →
    ((before ++ [turn]).flatMap Turn.looks).map Look.position = List.range turn.store.size

theorem Steady.turn {turns : List Turn} (steady : Steady q params all turns scan s)
    (memoryless : q.term.remembers = false)
    (alone : q.term.anyOperator Operator.isAggregate = false) :
    Steady q params all (turns ++ [scan.turn s]) (scan.next s).2.1 (scan.next s).2.2 := by
  have goes := steady.ready.next memoryless alone
  have once : ((turns ++ [scan.turn s]).flatMap Turn.looks).map Look.position =
      List.range (scan.next s).2.1.position := by
    rw [List.flatMap_append, List.map_append, steady.once, List.flatMap_singleton, goes.positions,
      goes.position, List.range_eq_range', List.range_eq_range']
    have joined := List.range'_append_1 (s := 0) (m := scan.position)
      (n := (scan.turn s).looks.length)
    rwa [Nat.zero_add] at joined
  have ended : (scan.next s).2.1.ended = true ↔
      ∃ turn ∈ turns ++ [scan.turn s], turn.ends = true := by
    rw [goes.ended, Bool.or_eq_true, steady.ended]
    simp only [List.mem_append, List.mem_singleton, or_and_right, exists_or, exists_eq_left]
  refine ⟨goes.ready, once, ?_, ?_, ended, ?_, ?_⟩
  · exact List.forall_mem_append.mpr ⟨steady.fair, List.forall_mem_singleton.mpr goes.fair⟩
  · exact List.forall_mem_append.mpr ⟨steady.answered, List.forall_mem_singleton.mpr goes.answered⟩
  · refine List.pairwise_append.mpr ⟨steady.rests, List.pairwise_singleton _ _, ?_⟩
    intro earlier mem later new ends
    obtain ⟨turn, -⟩ := turn_ended (steady.ended.mpr ⟨earlier, mem, ends⟩) s
    rw [List.mem_singleton.mp new, turn]
    exact ⟨rfl, rfl⟩
  · -- the turn in question is the new one, or one of those before
    intro before turn after same unended none
    rcases List.eq_nil_or_concat after with rfl | ⟨rest, last, rfl⟩
    · obtain ⟨rfl, new⟩ := List.append_inj' same rfl
      have running : scan.ended = false := by
        rw [Bool.eq_false_iff]
        intro ended
        obtain ⟨earlier, mem, ends⟩ := steady.ended.mp ended
        rw [unended earlier mem] at ends
        cases ends
      rw [← List.singleton_inj.mp new] at none ⊢
      rw [once, goes.complete running none]
      rfl
    · have older : turns = before ++ turn :: rest := by
        rw [List.concat_eq_append, ← List.cons_append, ← List.append_assoc] at same
        exact (List.append_inj' same rfl).1
      exact steady.complete before turn rest older unended none

theorem Course.steady {s₀ : Store} {turns : List Turn} (reachable : s₀.Reachable)
    (memoryless : q.term.remembers = false)
    (alone : q.term.anyOperator Operator.isAggregate = false)
    (course : Course q params s₀ turns scan s) :
    Steady q params s₀.ledger.sequence turns scan s := by
  induction course with
  | start =>
    refine ⟨.start reachable.listed, rfl, List.forall_mem_nil _, List.forall_mem_nil _, ?_, .nil,
      ?_⟩
    · simp [Scan.start]
    · intro before turn after same
      simp at same
  | work _ step kept ih =>
    exact ⟨ih.ready.work step kept, ih.once, ih.fair, ih.answered, ih.ended, ih.rests, ih.complete⟩
  | next _ ih => exact ih.turn memoryless alone

/-! ### Answers -/

theorem Answered.found_last {looks : List Look} {answer : Option (Except Error Handle)}
    {h : Handle} (answered : Answered q looks answer) (found : answer = some (.ok h)) :
    ∃ last ∈ looks, h = q.handle last.id ∧ last.verdict = .ok true := by
  induction answered with
  | none => cases found
  | found verdict =>
    cases found
    exact ⟨_, List.mem_cons_self, rfl, verdict⟩
  | failed _ => cases found
  | pass _ _ ih =>
    obtain ⟨last, mem, same, verdict⟩ := ih found
    exact ⟨last, List.mem_cons_of_mem _ mem, same, verdict⟩

/-- A fact that was examined is the answer if and only if the verdict was true. -/
theorem Answered.found_iff {looks : List Look} {answer : Option (Except Error Handle)}
    (answered : Answered q looks answer) {look : Look} (mem : look ∈ looks)
    (same : ∀ other ∈ looks, other.id = look.id → other.verdict = look.verdict) :
    answer = some (.ok (q.handle look.id)) ↔ look.verdict = .ok true := by
  constructor
  · intro found
    obtain ⟨last, isLook, handle, verdict⟩ := answered.found_last found
    rw [← same last isLook (congrArg Handle.id handle).symm]
    exact verdict
  · intro verdict
    induction answered with
    | none => cases mem
    | found _ => rw [List.mem_singleton.mp mem]
    | failed failed =>
      rw [List.mem_singleton.mp mem, failed] at verdict
      cases verdict
    | pass passed _ ih =>
      rcases List.mem_cons.mp mem with rfl | mem
      · rw [passed] at verdict
        cases verdict
      · exact ih mem fun other isLook => same other (List.mem_cons_of_mem _ isLook)

theorem Turn.found?_sublist (turn : Turn) :
    turn.found?.toList.Sublist (turn.looks.map Look.position) := by
  unfold found?
  split
  · cases last : turn.looks.getLast? with
    | none => exact List.nil_sublist _
    | some look =>
      exact List.singleton_sublist.mpr (List.mem_map_of_mem (List.mem_of_getLast? last))
  · exact List.nil_sublist _

/-- The positions of the facts that were found are among those that were examined, in their order.
-/
theorem found?_sublist (turns : List Turn) :
    (turns.filterMap Turn.found?).Sublist ((turns.flatMap Turn.looks).map Look.position) := by
  induction turns with
  | nil => exact List.nil_sublist _
  | cons turn rest ih =>
    rw [List.flatMap_cons, List.map_append]
    have joined := turn.found?_sublist.append ih
    cases found : turn.found? with
    | none =>
      rw [List.filterMap_cons_none found]
      rw [found] at joined
      exact joined
    | some position =>
      rw [List.filterMap_cons_some found]
      rw [found] at joined
      exact joined

/-- A scan of a query that neither remembers operands nor aggregates, over a store to which facts
are added and in which facts are written in any way between its answers. The examinations of all
turns together go through the positions one by one. Each is of the fact at its position; its verdict
is that of the term on what the fact holds by then, with everything computed anew; and the fact is
found if and only if the verdict is true. A turn passes over facts until one is found or the term
fails on one, and the failure is its answer. Facts are found at increasing positions. After a turn
that finds nothing or fails, no turn looks at anything, and none has an answer. And the first turn
that finds nothing leaves no position of the store out, unless the term failed before. -/
theorem Course.every_position_once {s₀ : Store} {turns : List Turn} (reachable : s₀.Reachable)
    (memoryless : q.term.remembers = false)
    (alone : q.term.anyOperator Operator.isAggregate = false)
    (course : Course q params s₀ turns scan s) :
    (turns.flatMap Turn.looks).map Look.position = List.range scan.position ∧
    (∀ turn ∈ turns, ∀ look ∈ turn.looks,
      turn.store.ledger.sequence[look.position]? = some look.id ∧
      look.verdict = q.decides params s₀.ledger.sequence turn.store look.id ∧
      (turn.answer = some (.ok (q.handle look.id)) ↔
        q.decides params s₀.ledger.sequence turn.store look.id = .ok true)) ∧
    (∀ turn ∈ turns, Answered q turn.looks turn.answer) ∧
    (turns.filterMap Turn.found?).Pairwise (· < ·) ∧
    (turns.Pairwise fun earlier later =>
      earlier.ends = true → later.looks = [] ∧ later.answer = none) ∧
    ∀ before turn after, turns = before ++ turn :: after →
      (∀ earlier ∈ before, earlier.ends = false) → turn.answer = none →
      ((before ++ [turn]).flatMap Turn.looks).map Look.position = List.range turn.store.size := by
  have steady := course.steady reachable memoryless alone
  refine ⟨steady.once, ?_, steady.answered, ?_, steady.rests, steady.complete⟩
  · intro turn isTurn look mem
    have fair := steady.fair turn isTurn
    refine ⟨(fair look mem).placed, (fair look mem).verdict, ?_⟩
    rw [← (fair look mem).verdict]
    refine (steady.answered turn isTurn).found_iff mem fun other isLook same => ?_
    rw [(fair other isLook).verdict, (fair look mem).verdict, same]
  · have inOrder := found?_sublist turns
    rw [steady.once] at inOrder
    exact List.pairwise_lt_range.sublist inOrder

/-- Two facts, of which the first one has an `x`. -/
def twoFacts : Store :=
  let first := (Store.create .standard .empty).insert
  (first.2.write first.1 "x" (.int 1)).2.insert.2

def withX : Query := ⟨"(exists x)", .node .present [.symbol "x"], []⟩

/-- The second fact gets an `x` and a third one is inserted after the first answer, and a fourth one
with an `x` after the end: it is not found any more. -/
theorem Course.every_position_once_live : ∃ turns scan s,
    Course withX none twoFacts turns scan s ∧
      turns.map Turn.found? = [some 0, some 1, none, none] ∧
      (turns.flatMap Turn.looks).map Look.position = [0, 1, 2] ∧ s.size = 4 := by
  have reachable : twoFacts.Reachable :=
    .step (.step (.step (.create .standard .empty) (.insert _)) (.write _ _ _ _)) (.insert _)
  have begun : Course withX none twoFacts _ _ _ := Course.next .start
  have changed := (begun.work (.write _ ⟨⟨1⟩, []⟩ "x" (.int 2)) (by decide +kernel)).work
    (.insert _) (by decide +kernel)
  have finished := changed.next.next
  have late := (finished.work (.insert _) (by decide +kernel)).work
    (.write _ ⟨⟨3⟩, []⟩ "x" (.int 3)) (by decide +kernel)
  refine ⟨_, _, _, late.next, by decide +kernel, ?_, by decide +kernel⟩
  rw [(late.next.every_position_once reachable (by decide) (by decide)).1]
  decide +kernel

end Scan

end Annals
