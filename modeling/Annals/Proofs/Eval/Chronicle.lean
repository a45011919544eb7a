import Annals.Proofs.Eval.Calls
import Annals.Proofs.Eval.Transparency

/-!
# What happens in a pass

The counts of a pass, and the results in it, say something about everything that the pass was asked
for. The chronicle of a pass takes a note whenever a result is asked for, given again, dispatched to
be computed, kept, or not to be had because its computation fails.

* `Note.InOrder` says what may be noted after what: a result is given again if it was kept, and it
  is dispatched and kept only if it was not kept yet.
* `Chronicle.Sound` says that notes are in order and that the pass tells what they tell. One lemma
  for every note says that it stays so.
* `Term.chronicled` shows that evaluations keep it, and that they do with a chronicle what they do
  without one.
* `Call.bookkeeping` is what comes of it for calls of any kind, one after the other.
-/

set_option autoImplicit false

namespace Annals

/-- Something that happens in a pass to what is kept under a key. -/
inductive Note where
  /-- It is asked for. -/
  | asked (key : Key)
  /-- It is there, and given again. -/
  | recalled (key : Key) (d : Datum)
  /-- It is not there, and its computation begins. -/
  | dispatched (key : Key)
  /-- Its computation ends, and the result is kept. -/
  | kept (key : Key) (d : Datum)
  /-- Its computation fails. -/
  | failed (key : Key)
  deriving DecidableEq

namespace Note

def isAsked : Note → Bool
  | asked _ => true
  | _ => false

def isDispatched : Note → Bool
  | dispatched _ => true
  | _ => false

def isFailed : Note → Bool
  | failed _ => true
  | _ => false

/-- What is kept. -/
def result? : Note → Option (Key × Datum)
  | kept key d => some (key, d)
  | _ => none

/-- What is kept after some notes, of which the latest comes first. -/
def results (notes : List Note) : List (Key × Datum) :=
  notes.filterMap result?

/-- What has to be so for a note after others, of which the latest comes first. -/
def Follows (earlier : List Note) : Note → Prop
  | asked _ => True
  | recalled key d => (results earlier).lookup key = some d
  | dispatched key => (results earlier).lookup key = none
  | kept key _ => (results earlier).lookup key = none
  | failed _ => True

/-- Every note may stand after those before it, where the latest comes first. -/
def InOrder : List Note → Prop
  | [] => True
  | note :: earlier => note.Follows earlier ∧ InOrder earlier

variable {key : Key} {d : Datum} {notes later earlier : List Note}

theorem InOrder.of_append (inOrder : InOrder (later ++ earlier)) : InOrder earlier := by
  induction later with
  | nil => exact inOrder
  | cons note later ih => exact ih inOrder.2

/-- Nothing is kept under a key twice. -/
theorem InOrder.nodup (inOrder : InOrder notes) : ((results notes).map Prod.fst).Nodup := by
  induction notes with
  | nil => exact List.nodup_nil
  | cons note earlier ih =>
    obtain ⟨follows, inOrder⟩ := inOrder
    cases note with
    | kept key d =>
      refine List.nodup_cons.mpr ⟨fun mem => ?_, ih inOrder⟩
      obtain ⟨entry, mem, same⟩ := List.mem_map.mp mem
      have other := List.lookup_eq_none_iff.mp follows entry mem
      simp [same] at other
    | asked key => exact ih inOrder
    | recalled key d => exact ih inOrder
    | dispatched key => exact ih inOrder
    | failed key => exact ih inOrder

/-- What is kept stays as it is, is given again as it is, and is not dispatched again. -/
theorem InOrder.stays (inOrder : InOrder (later ++ earlier))
    (found : (results earlier).lookup key = some d) :
    (results (later ++ earlier)).lookup key = some d ∧ .dispatched key ∉ later ∧
      ∀ d', .recalled key d' ∈ later → d' = d := by
  induction later with
  | nil => exact ⟨found, List.not_mem_nil, fun _ mem => absurd mem List.not_mem_nil⟩
  | cons note later ih =>
    obtain ⟨follows, inOrder⟩ := inOrder
    obtain ⟨still, undispatched, same⟩ := ih inOrder
    cases note with
    | asked other => exact ⟨still, by simpa using undispatched, by simpa using same⟩
    | recalled other d' =>
      refine ⟨still, by simpa using undispatched, fun d'' mem => ?_⟩
      rcases List.mem_cons.mp mem with again | mem
      · cases again
        exact Option.some.inj (follows.symm.trans still)
      · exact same d'' mem
    | dispatched other =>
      refine ⟨still, fun mem => ?_, by simpa using same⟩
      rcases List.mem_cons.mp mem with again | mem
      · cases again
        cases follows.symm.trans still
      · exact undispatched mem
    | kept other d' =>
      refine ⟨?_, by simpa using undispatched, by simpa using same⟩
      have new : key ≠ other := by
        rintro rfl
        cases follows.symm.trans still
      exact (lookup_cons_of_ne new).trans still
    | failed other => exact ⟨still, by simpa using undispatched, by simpa using same⟩

end Note

/-- A pass with notes of what has happened in it, the latest first. -/
structure Chronicle where
  pass : Pass
  notes : List Note

namespace Chronicle

def start (vacant : Nat) : Chronicle := ⟨.start vacant, []⟩

/-- The chronicle after something was done in the pass. -/
def after (book : Chronicle) (pass : Pass) : Chronicle := { book with pass := pass }

/-- The chronicle after a result was asked for and given again. -/
def recalled (book : Chronicle) (key : Key) (d : Datum) : Chronicle :=
  ⟨book.pass.hit, .recalled key d :: .asked key :: book.notes⟩

/-- The chronicle after a result was asked for and its computation has begun. -/
def dispatched (book : Chronicle) (key : Key) : Chronicle :=
  ⟨book.pass.missed, .dispatched key :: .asked key :: book.notes⟩

def kept (book : Chronicle) (key : Key) (d : Datum) : Chronicle :=
  ⟨book.pass.keep key d, .kept key d :: book.notes⟩

def failed (book : Chronicle) (key : Key) : Chronicle :=
  { book with notes := .failed key :: book.notes }

/-- The notes are in order, and they tell what the pass keeps and how it has counted, where some
number of computations have begun and not ended. -/
structure Sound (opened : Nat) (book : Chronicle) : Prop where
  inOrder : Note.InOrder book.notes
  results : book.pass.results = Note.results book.notes
  asked : book.pass.hits + book.pass.misses = book.notes.countP Note.isAsked
  dispatched : book.pass.misses = book.notes.countP Note.isDispatched
  ended : book.pass.size + book.notes.countP Note.isFailed + opened = book.pass.misses

theorem sound_start (vacant : Nat) : (start vacant).Sound 0 :=
  ⟨trivial, rfl, rfl, rfl, rfl⟩

namespace Sound

variable {book : Chronicle} {opened : Nat} {key : Key} {d : Datum}

/-- Only what is kept and the counts matter. -/
theorem unrelated (sound : book.Sound opened) {pass : Pass}
    (results : pass.results = book.pass.results) (hits : pass.hits = book.pass.hits)
    (misses : pass.misses = book.pass.misses) : (book.after pass).Sound opened := by
  have size : pass.size = book.pass.size := congrArg List.length results
  refine ⟨sound.inOrder, results.trans sound.results, ?_, ?_, ?_⟩
  · show pass.hits + pass.misses = _
    rw [hits, misses]
    exact sound.asked
  · exact misses.trans sound.dispatched
  · show pass.size + _ + opened = pass.misses
    rw [size, misses]
    exact sound.ended

theorem onRecall (sound : book.Sound opened) (found : book.pass.results.lookup key = some d) :
    (book.recalled key d).Sound opened := by
  obtain ⟨inOrder, results, asked, dispatched, ended⟩ := sound
  rw [results] at found
  refine ⟨⟨found, trivial, inOrder⟩, results, ?_, dispatched, ended⟩
  show book.pass.hits + 1 + book.pass.misses = _
  simp [recalled, Note.isAsked, List.countP_cons]
  omega

theorem onDispatch (sound : book.Sound opened) (found : book.pass.results.lookup key = none) :
    (book.dispatched key).Sound (opened + 1) := by
  obtain ⟨inOrder, results, asked, dispatched, ended⟩ := sound
  rw [results] at found
  refine ⟨⟨found, trivial, inOrder⟩, results, ?_, ?_, ?_⟩
  · show book.pass.hits + (book.pass.misses + 1) = _
    simp [Chronicle.dispatched, Note.isAsked, List.countP_cons]
    omega
  · show book.pass.misses + 1 = _
    simp [Chronicle.dispatched, Note.isDispatched, List.countP_cons]
    omega
  · show book.pass.size + _ + (opened + 1) = book.pass.misses + 1
    simp [Chronicle.dispatched, Note.isFailed]
    omega

theorem onKeep (sound : book.Sound (opened + 1)) (found : book.pass.results.lookup key = none)
    (d : Datum) : (book.kept key d).Sound opened := by
  obtain ⟨inOrder, results, asked, dispatched, ended⟩ := sound
  rw [results] at found
  refine ⟨⟨found, inOrder⟩, congrArg _ results, asked, dispatched, ?_⟩
  show book.pass.size + 1 + _ + opened = book.pass.misses
  simp [kept, Note.isFailed]
  omega

theorem onFail (sound : book.Sound (opened + 1)) : (book.failed key).Sound opened := by
  obtain ⟨inOrder, results, asked, dispatched, ended⟩ := sound
  refine ⟨⟨trivial, inOrder⟩, results, asked, dispatched, ?_⟩
  show book.pass.size + _ + opened = book.pass.misses
  simp [failed, Note.isFailed, List.countP_cons]
  omega

end Sound

end Chronicle

/-- A computation in a pass of which notes are taken. -/
abbrev Chronicled := ExceptT Error (StateM Chronicle)

namespace Chronicled

variable {α : Type}

/-- Something that is done in the pass without a note. -/
def within (action : Memo α) : Chronicled α := fun book =>
  let (result, pass) := action.run book.pass
  (result, book.after pass)

/-- What a computation under a key ends with is kept, unless it fails. -/
def settle (tracing : Bool) (t : Term) (key : Key) :
    Except Error Datum × Chronicle → Except Error Datum × Chronicle
  | (.ok d, book) =>
    let told := if tracing then book.pass.reported (.termEvaluated t d) else book.pass
    (.ok d, (book.after told).kept key d)
  | (.error e, book) => (.error e, book.failed key)

/-- The evaluation that keeps results and takes notes. -/
def strategy (tracing : Bool) : Strategy Chronicled where
  answer t address subject action := fun book =>
    let key := Key.of t address subject
    match book.pass.results.lookup key with
    | some d => (.ok d, book.recalled key d)
    | none => settle tracing t key (action.run (book.dispatched key))
  exchange address operand := within ((Memo.strategy tracing).exchange address operand)
  report event := within ((Memo.strategy tracing).report event)
  vacant := within (Memo.strategy tracing).vacant

section

variable {tracing : Bool} {t : Term} {address : Address} {subject : Subject} {book : Chronicle}
variable (action : Chronicled Datum)

theorem run_answer_kept {d : Datum}
    (found : book.pass.results.lookup (Key.of t address subject) = some d) :
    ((strategy tracing).answer t address subject action).run book =
      (.ok d, book.recalled (Key.of t address subject) d) := by
  unfold strategy ExceptT.run
  simp only [found]

theorem run_answer_new (found : book.pass.results.lookup (Key.of t address subject) = none) :
    ((strategy tracing).answer t address subject action).run book =
      settle tracing t (Key.of t address subject)
        (action.run (book.dispatched (Key.of t address subject))) := by
  unfold strategy ExceptT.run
  simp only [found]

end

end Chronicled

/-! ### Evaluations with and without notes -/

/-- Something was done with a chronicle as it was done without one: with the same result and the
same pass. The notes are still sound, and those before are still there. -/
structure Chronicle.Goes {α : Type} (opened : Nat) (book : Chronicle) (told : α × Chronicle)
    (plain : α × Pass) : Prop where
  result : told.1 = plain.1
  pass : told.2.pass = plain.2
  sound : told.2.Sound opened
  notes : book.notes <:+ told.2.notes

theorem Chronicle.Goes.exists_told {α : Type} {opened : Nat} {book : Chronicle}
    {told : α × Chronicle} {plain : α × Pass} (going : book.Goes opened told plain) :
    ∃ x next, told = (x, next) ∧ plain = (x, next.pass) ∧ next.Sound opened ∧
      book.notes <:+ next.notes := by
  obtain ⟨x, next⟩ := told
  obtain ⟨x', pass⟩ := plain
  obtain ⟨rfl, rfl, sound, notes⟩ := going
  exact ⟨x, next, rfl, rfl, sound, notes⟩

namespace Simulation

/-- Computations with and without notes. -/
def chronicled : Simulation Chronicled Memo where
  Matches a b := ∀ (opened : Nat) (book : Chronicle), book.Sound opened →
    book.Goes opened (a.run book) (b.run book.pass)
  Gives b x := ∃ pass, (b.run pass).1 = .ok x
  Fronts i j := i = j
  pure_matches _ _ book sound := ⟨rfl, rfl, sound, List.suffix_refl book.notes⟩
  throw_matches _ _ book sound := ⟨rfl, rfl, sound, List.suffix_refl book.notes⟩
  bind_matches := by
    intro α β a b f g first rest opened book sound
    obtain ⟨x, next, told, plain, sound, notes⟩ := (first opened book sound).exists_told
    rw [Memo.run_bind, Memo.run_bind, told, plain]
    cases x with
    | error e => exact ⟨rfl, rfl, sound, notes⟩
    | ok x =>
      have given : (b.run book.pass).1 = .ok x := congrArg Prod.fst plain
      obtain ⟨result, pass, sound, later⟩ := rest x ⟨book.pass, given⟩ opened next sound
      exact ⟨result, pass, sound, notes.trans later⟩
  named_matches := by
    intro a b t same opened book sound
    obtain ⟨x, next, told, plain, sound, notes⟩ := (same opened book sound).exists_told
    rw [Memo.run_named, Memo.run_named, told, plain]
    cases x with
    | error e => exact ⟨rfl, rfl, sound, notes⟩
    | ok d => exact ⟨rfl, rfl, sound, notes⟩
  gives_outcome := Memo.eq_ok_of_outcome

/-- What is done without a note must not matter to the notes. -/
theorem within_matches {α : Type} {action : Memo α}
    (unrelated : ∀ pass, (action.run pass).2.results = pass.results ∧
      (action.run pass).2.hits = pass.hits ∧ (action.run pass).2.misses = pass.misses) :
    chronicled.Matches (Chronicled.within action) action := by
  intro opened book sound
  obtain ⟨results, hits, misses⟩ := unrelated book.pass
  exact ⟨rfl, rfl, sound.unrelated results hits misses, List.suffix_refl book.notes⟩

variable {tracing : Bool} {sharing : Sharing}

theorem chronicled_strategies : chronicled.StrategiesMatch
    ((Chronicled.strategy tracing).shared sharing) ((Memo.strategy tracing).shared sharing) := by
  refine ⟨fun event => within_matches fun pass => ⟨rfl, rfl, rfl⟩, fun {f g} h => ?_⟩
  have vacant : chronicled.Matches (Chronicled.within (Memo.strategy tracing).vacant)
      (Memo.strategy tracing).vacant := within_matches fun pass => ⟨rfl, rfl, rfl⟩
  exact chronicled.bind_matches vacant fun i _ => h i i rfl

/-- A computation that leaves the result under its own key alone finds nothing there in the end, as
there was nothing when it was dispatched. -/
theorem chronicled_answer {t : Term} {address : Address} {subject : Subject} {x : Chronicled Datum}
    {y : Memo Datum} (spares : Memo.Spares (Key.of t address subject) y)
    (same : chronicled.Matches x y) :
    chronicled.Matches ((Chronicled.strategy tracing).answer t address subject x)
      ((Memo.strategy tracing).answer t address subject y) := by
  intro opened book sound
  rw [Memo.run_answer]
  cases found : book.pass.results.lookup (Key.of t address subject) with
  | some d =>
    rw [Chronicled.run_answer_kept x found]
    exact ⟨rfl, rfl, sound.onRecall found, [_, _], rfl⟩
  | none =>
    let key := Key.of t address subject
    have going : (book.dispatched key).Goes (opened + 1) (x.run (book.dispatched key))
        (y.run book.pass.missed) := same _ _ (sound.onDispatch found)
    obtain ⟨r, next, told, plain, sound, notes⟩ := going.exists_told
    have notes : book.notes <:+ next.notes := .trans ⟨[_, _], rfl⟩ notes
    have spared : next.pass.results.lookup key = none := by
      have spared := (spares book.pass.missed).trans found
      rwa [plain] at spared
    rw [Chronicled.run_answer_new x found, told]
    dsimp only
    rw [plain]
    cases r with
    | error e => exact ⟨rfl, rfl, sound.onFail, notes.trans (List.suffix_cons _ _)⟩
    | ok d =>
      refine ⟨rfl, rfl, ?_, notes.trans (List.suffix_cons _ _)⟩
      cases tracing with
      | true =>
        let reported := next.pass.reported (.termEvaluated t d)
        have sound : (next.after reported).Sound (opened + 1) := sound.unrelated rfl rfl rfl
        exact sound.onKeep spared d
      | false => exact sound.onKeep spared d

end Simulation

namespace Term

variable {left right : Scene} (tracing : Bool) (sharing : Sharing)

/-- The evaluation of a term with and without notes. -/
def chronicled (registry : left.registry = right.registry)
    (contents : left.contents = right.contents) :
    Simulation.chronicled.Congruence left right ((Chronicled.strategy tracing).shared sharing)
      ((Memo.strategy tracing).shared sharing) :=
  .alongside registry contents (fun _ _ same => same) Simulation.chronicled_strategies
    (fun _ _ => Simulation.within_matches fun _ => ⟨rfl, rfl, rfl⟩)
    fun {t a s all _ _} computes same => Simulation.chronicled_answer
      (computes ▸ (spares_perform (Key.address_of t (sharing.node a) s) t s all).named t) same

end Term

/-! ### Calls -/

namespace Call

variable {tracing : Bool} {sharing : Sharing}

theorem answer_chronicled (call : Call) : Simulation.chronicled.Matches
    (call.answer ((Chronicled.strategy tracing).shared sharing))
    (call.answer ((Memo.strategy tracing).shared sharing)) := by
  refine Simulation.chronicled.bind_matches ?_ fun d _ => Simulation.chronicled.outcome_matches _
  have same : call.scene.registry = call.scene.registry := rfl
  exact (Term.chronicled tracing sharing same rfl).evaluateWith_matches call.term
    (And.intro rfl rfl)

/-- Calls do with notes what they do without. -/
theorem answers_chronicled (calls : List Call) {book : Chronicle} (sound : book.Sound 0) :
    book.Goes 0 (answers ((Chronicled.strategy tracing).shared sharing) calls book)
      (answers ((Memo.strategy tracing).shared sharing) calls book.pass) := by
  induction calls generalizing book with
  | nil => exact ⟨rfl, rfl, sound, List.suffix_refl _⟩
  | cons call rest ih =>
    have first : book.Goes 0 ((call.answer ((Chronicled.strategy tracing).shared sharing)).run book)
        ((call.answer ((Memo.strategy tracing).shared sharing)).run book.pass) :=
      call.answer_chronicled 0 book sound
    obtain ⟨result, pass, sound, notes⟩ := first
    obtain ⟨results, passes, sound, later⟩ := ih sound
    rw [pass] at results passes
    refine ⟨?_, passes, sound, notes.trans later⟩
    exact congrArg₂ List.cons result results

/-- The notes of the first calls are the earliest ones. -/
theorem notes_append (first later : List Call) {book : Chronicle} (sound : book.Sound 0) :
    let strategy := (Chronicled.strategy tracing).shared sharing
    (answers strategy first book).2.notes <:+ (answers strategy (first ++ later) book).2.notes := by
  intro strategy
  have midway : book.Goes 0 (answers strategy first book) _ := answers_chronicled first sound
  have onwards : (answers strategy first book).2.Goes 0
      (answers strategy later (answers strategy first book).2) _ :=
    answers_chronicled later midway.sound
  rw [answers_append]
  exact onwards.notes

/-- The accounts of a pass, after any calls about any terms that share nodes in any way, some of
which may have failed. If no nodes are shared, a call is an evaluation, a test or a verdict in a
pass.

* Notes can be taken without any difference to the answers or to the pass, and those of the first
  calls are the earliest ones.
* What the pass keeps is what was noted as kept, and nothing is kept twice under one key. The
  results of an aggregate all have one key.
* From the time on when a result is kept, it stays as it is, it is given again as it is, and it is
  not dispatched again.
* Everything that is dispatched is kept or fails. Everything that is asked for, by a call or for an
  operand, is a hit or a miss, and a miss is dispatched. -/
theorem bookkeeping (sharing : Sharing) (tracing : Bool) (vacant : Nat) (calls : List Call) :
    let told (calls : List Call) :=
      answers ((Chronicled.strategy tracing).shared sharing) calls (.start vacant)
    let plain := answers ((Memo.strategy tracing).shared sharing) calls (.start vacant)
    let pass := plain.2
    let notes := (told calls).2.notes
    (∀ call : Call, call.answer ((Memo.strategy tracing).shared .none) = call.ask tracing) ∧
    ((told calls).1 = plain.1 ∧ (told calls).2.pass = pass ∧
      ∀ first later, calls = first ++ later → (told first).2.notes <:+ notes) ∧
    (pass.results = Note.results notes ∧ (pass.results.map Prod.fst).Nodup ∧
      ∀ t address subject, t.op.isAggregate = true →
        Key.of t address subject = .overAll address) ∧
    (∀ later between earlier, notes = later ++ (between ++ earlier) →
      ∀ key d, (Note.results earlier).lookup key = some d →
        (Note.results (between ++ earlier)).lookup key = some d ∧ .dispatched key ∉ between ∧
          ∀ d', .recalled key d' ∈ between → d' = d) ∧
    pass.size + notes.countP Note.isFailed = pass.misses ∧
    pass.hits + pass.misses = notes.countP Note.isAsked ∧
    pass.misses = notes.countP Note.isDispatched := by
  intro told plain pass notes
  have going : (Chronicle.start vacant).Goes 0 (told calls) plain :=
    answers_chronicled calls (Chronicle.sound_start vacant)
  obtain ⟨result, same, sound, -⟩ := going
  obtain ⟨inOrder, results, asked, dispatched, ended⟩ := sound
  rw [same] at results asked dispatched ended
  refine ⟨answer_eq_ask tracing, ⟨result, same, ?_⟩, ⟨results, ?_, ?_⟩, ?_, ended, asked,
    dispatched⟩
  · rintro first later rfl
    exact notes_append first later (Chronicle.sound_start vacant)
  · rw [results]
    exact inOrder.nodup
  · intro t address subject aggregate
    rw [Key.of, if_pos aggregate]
  · intro later between earlier split key d found
    have split : (told calls).2.notes = later ++ (between ++ earlier) := split
    rw [split] at inOrder
    exact inOrder.of_append.stays found

end Call

/-- The second one of the terms is asked for two facts, and the first one twice for one of them. The
greatest `x` is computed once, the first term fails twice, and every other term is computed on every
fact for which it matters. -/
theorem Call.bookkeeping_rivals :
    let call (root : Nat) (id : FactId) (question : Question) : Call :=
      ⟨⟨root, Node.rivals[root]!.term, .fact id, [⟨0⟩, ⟨1⟩]⟩, question,
        Session.Bench.pair.scene⟩
    let calls := [call 1 ⟨0⟩ .test, call 1 ⟨1⟩ .result, call 0 ⟨0⟩ .verdict, call 0 ⟨0⟩ .test]
    let sharing : Sharing := .ofNodes Node.made_rivals
    let plain := answers ((Memo.strategy false).shared sharing) calls (.start 0)
    let notes := (answers ((Chronicled.strategy false).shared sharing) calls (.start 0)).2.notes
    plain.1.take 2 = [.ok (.flag true), .ok (.result (.bool true))] ∧
      (plain.2.size, plain.2.hits, plain.2.misses) = (6, 4, 8) ∧
      notes.countP Note.isAsked = 12 ∧ notes.countP Note.isFailed = 2 := by
  intro call calls sharing plain notes
  have answered : plain.1.take 2 = [.ok (.flag true), .ok (.result (.bool true))] := by
    decide +kernel
  have size : plain.2.size = 6 := by decide +kernel
  have hits : plain.2.hits = 4 := by decide +kernel
  have misses : plain.2.misses = 8 := by decide +kernel
  obtain ⟨-, -, -, -, ended, asked, -⟩ := bookkeeping sharing false 0 calls
  have ended : plain.2.size + notes.countP Note.isFailed = plain.2.misses := ended
  have asked : plain.2.hits + plain.2.misses = notes.countP Note.isAsked := asked
  rw [size, misses] at ended
  rw [hits, misses] at asked
  exact ⟨answered, by rw [size, hits, misses], asked.symm, by omega⟩

end Annals
