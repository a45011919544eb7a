import Annals.Proofs.Store.Frame
import Annals.Store.Layer

/-!
# Programs over a stack

A program is what the user of a stack does, as data: requests of the outermost layer, and
transactions whose bodies are programs themselves. Every next step may depend on the outcome of
the one before, which is a result, a failure or an abrupt stop, so that the last two may be passed
on or swallowed. A program writes through the handles that the stack gives out, with any listeners
added that refuse; `Stack.insert_handle`, `Stack.compile_decorators`, `Query.collect_handles` and
`Scan.next_handle` show that `Stack.handle` is the handle that every way to a fact leads to.

`Program.run` runs a program as it stands; `Program.runFlat` runs it as if there were no
transactions in it. `Request.keeps` is the way from single operations to requests, and
`Program.keeps` from requests to whole programs.
-/

set_option autoImplicit false

namespace Annals

/-- The handle with listeners added that refuse by some objections. -/
def Handle.refusing (h : Handle) (objections : List Objection) : Handle :=
  { h with listeners := h.listeners ++ objections.map .refusal }

/-- The handle of a fact as the outermost of some layers gives it out. -/
def Stack.handle (layers : Stack) (id : FactId) : Handle := ⟨id, .journal :: layers.listeners⟩

/-- Something to ask of the outermost layer, by the type of the result. -/
inductive Request : Type → Type where
  | insert : Request Handle
  /-- Write a value to a fact, with more listeners that may refuse. -/
  | write (id : FactId) (objections : List Objection) (name : String) (value : Value) : Request Unit
  /-- Write several values to a fact, with more listeners that may refuse. -/
  | writeAll (id : FactId) (objections : List Objection) (name : String) (values : List Value) :
    Request Unit
  | compile (text : String) : Request Query
  | find (q : Query) (params : Option Params) : Request (List Handle)
  | one (q : Query) (params : Params) : Request Datum
  | next (scan : Scan) : Request (Option (Except Error Handle) × Scan)
  /-- Look at the sequence and at what all facts hold. -/
  | look : Request (List FactId × Contents)

/-- What the user of a stack does, by the type of the result. -/
inductive Program : Type → Type 1 where
  | done {α : Type} (outcome : Except Exit α) : Program α
  | ask {α β : Type} (request : Request β) (next : Except Exit β → Program α) : Program α
  | transaction {α β : Type} (body : Program β) (next : Except Exit β → Program α) : Program α

/-- Do what a request asks for. -/
def Request.run {σ : Type} (layers : Stack) : {β : Type} → Request β → Action σ β
  | _, .insert => layers.insert
  | _, .write id objections name value =>
    Action.write ((layers.handle id).refusing objections) name value
  | _, .writeAll id objections name values =>
    Action.ofStore (·.writeAll ((layers.handle id).refusing objections) name values)
  | _, .compile text => layers.compile text
  | _, .find q params => Action.ofStore (q.collect params)
  | _, .one q params => Action.ofStore (q.one params)
  | _, .next scan => fun w =>
    let (found, scan, s) := scan.next w.store
    (.ok (found, scan), { w with store := s })
  | _, .look => fun w => (.ok (w.store.ledger.sequence, w.store.ledger.register.contents), w)

namespace Program

/-- Run a program, where `boundary` runs the bodies of transactions. -/
def runWith {σ : Type} (layers : Stack) (boundary : {β : Type} → Action σ β → Action σ β) :
    {α : Type} → Program α → Action σ α
  | _, .done outcome => Action.settle outcome
  | _, .ask request next => fun w =>
    let (outcome, w) := request.run layers w
    runWith layers boundary (next outcome) w
  | _, .transaction body next => fun w =>
    let (outcome, w) := boundary (runWith layers boundary body) w
    runWith layers boundary (next outcome) w

def run {σ α : Type} (layers : Stack) (p : Program α) : Action σ α :=
  p.runWith layers layers.transaction

/-- Run a program on a stack as if there were no transactions in it. -/
def runFlat {σ α : Type} (layers : Stack) (p : Program α) : Action σ α :=
  p.runWith layers fun body => body

section

variable {σ α β : Type} (layers : Stack) (w : World σ)

theorem run_ask (r : Request β) (next : Except Exit β → Program α) :
    (ask r next).run layers w =
      (next (r.run layers w).1).run layers (r.run layers w).2 := rfl

theorem run_transaction (body : Program β) (next : Except Exit β → Program α) :
    (transaction body next).run layers w =
      (next (layers.transaction (body.run layers) w).1).run layers
        (layers.transaction (body.run layers) w).2 := rfl

theorem runFlat_ask (r : Request β) (next : Except Exit β → Program α) :
    (ask r next).runFlat layers w =
      (next (r.run layers w).1).runFlat layers (r.run layers w).2 := rfl

theorem runFlat_transaction (body : Program β) (next : Except Exit β → Program α) :
    (transaction body next).runFlat layers w =
      (next (body.runFlat layers w).1).runFlat layers (body.runFlat layers w).2 := rfl

end

/-- What every request keeps, and every transaction whose body keeps it, is kept by a program. -/
theorem keeps {σ ι : Type} {layers : Stack} {boundary : {β : Type} → Action σ β → Action σ β}
    (Invariant : ι → World σ → Prop)
    (requests : ∀ {β : Type} (r : Request β) i w, Invariant i w → Invariant i (r.run layers w).2)
    (boundaries : ∀ {β : Type} (body : Action σ β),
      (∀ i w, Invariant i w → Invariant i (body w).2) →
      ∀ i w, Invariant i w → Invariant i (boundary body w).2)
    {α : Type} (p : Program α) (i : ι) (w : World σ) (h : Invariant i w) :
    Invariant i (p.runWith layers boundary w).2 := by
  induction p generalizing i w with
  | done outcome =>
    cases outcome with
    | ok x => exact h
    | error e => exact h
  | ask request next ih => exact ih _ i _ (requests request i w h)
  | transaction body next ihBody ih => exact ih _ i _ (boundaries _ ihBody i w h)

end Program

namespace Action

variable {σ α β : Type} (w : World σ)

/-- The second part of an action goes on where the first left off, unless that failed. -/
theorem bind_apply (a : Action σ α) (f : α → Action σ β) :
    (a >>= f) w = match a w with
      | (.ok x, w) => f x w
      | (.error e, w) => (.error e, w) := by
  simp only [bind, ExceptT.bind, ExceptT.mk, StateT.bind, ExceptT.bindCont]
  cases a w with
  | mk outcome w => cases outcome <;> rfl

theorem get_apply : (get : Action σ (World σ)) w = (.ok w, w) := rfl

theorem change_apply (f : Store → Store) :
    (change f : Action σ Unit) w = (.ok (), { w with store := f w.store }) := rfl

theorem observe_apply (a : Action σ α) : observe a w = (.ok (a w).1, (a w).2) := rfl

theorem settle_apply (outcome : Except Exit α) : settle outcome w = (outcome, w) := by
  cases outcome <;> rfl

/-- What is done to the store is done to the store of the world. -/
theorem ofStore_apply (f : Store → Except Error α × Store) :
    ofStore f w = ((f w.store).1.mapError .failed, { w with store := (f w.store).2 }) := by
  unfold ofStore
  split
  · next ended => rw [ended]; rfl
  · next ended => rw [ended]; rfl

/-- A transaction of the store is opened, and closed by the outcome of its body. -/
theorem inTransaction_apply (body : Action σ α) :
    body.inTransaction w =
      let opened := w.store.openTransaction
      let ended := body { w with store := opened.2 }
      (ended.1, { ended.2 with
        store := ended.2.store.closeTransaction opened.1 (succeeded ended.1) }) := by
  unfold inTransaction
  simp only [bind_apply, get_apply, change_apply, observe_apply, settle_apply]

end Action

/-! ### What actions keep -/

namespace Action

variable {σ ι α β : Type} {Invariant : ι → Store → Prop}

/-- An action that keeps every one of some properties of the store. -/
def Keeps (Invariant : ι → Store → Prop) (action : Action σ α) : Prop :=
  ∀ i w, Invariant i w.store → Invariant i (action w).2.store

/-- An action may be followed by one that depends on its result. -/
theorem Keeps.bind {a : Action σ α} {f : α → Action σ β} (first : Keeps Invariant a)
    (rest : ∀ w x w', a w = (.ok x, w') → Keeps Invariant (f x)) : Keeps Invariant (a >>= f) := by
  intro i w h
  have after := first i w h
  rw [bind_apply]
  cases ended : a w with
  | mk outcome w' =>
    rw [ended] at after
    cases outcome with
    | ok x => exact rest w x w' ended i w' after
    | error e => exact after

/-- What every write through a handle keeps, a hook keeps. -/
theorem runHook_keeps {handle : Handle}
    (writes : ∀ i s name value, Invariant i s → Invariant i (s.write handle name value).2)
    (hook : Hook) : Keeps Invariant (runHook handle hook : Action σ Unit) := by
  induction hook with
  | done => exact fun i w h => h
  | exit e => exact fun i w h => h
  | look next ih => exact fun i w h => ih handle.id w.store.ledger.register.contents i w h
  | write name value next ih =>
    exact fun i w h => ih (w.store.write handle name value).1 i
      { w with store := (w.store.write handle name value).2 } (writes i w.store name value h)

end Action

/-! ### Handles -/

/-- A request that makes no fact and writes to none. -/
def Request.Reads : {β : Type} → Request β → Prop
  | _, .insert => False
  | _, .write _ _ _ _ => False
  | _, .writeAll _ _ _ _ => False
  | _, .compile _ => True
  | _, .find _ _ => True
  | _, .one _ _ => True
  | _, .next _ => True
  | _, .look => True

/-- A request that only reads does nothing but report. -/
theorem Request.onlyReports {σ β : Type} {layers : Stack} {r : Request β} (reads : r.Reads)
    (w : World σ) : w.store.OnlyReports (r.run layers w).2.store := by
  cases r with
  | insert => cases reads
  | write => cases reads
  | writeAll => cases reads
  | compile text =>
    simp only [Request.run, Stack.compile, Action.bind_apply, Action.ofStore_apply]
    have read := w.store.compile_onlyReports text
    cases compiled : w.store.compile text with
    | mk result s =>
      rw [compiled] at read
      cases result with
      | ok q => exact read
      | error e => exact read
  | find q params =>
    simp only [Request.run, Action.ofStore_apply]
    exact q.collect_onlyReports params w.store
  | one q params =>
    simp only [Request.run, Action.ofStore_apply]
    exact q.one_onlyReports params w.store
  | next scan => exact scan.next_onlyReports w.store
  | look => exact .refl w.store

/-- What reports, new facts and writes through the handles of a stack keep is kept by every request.
-/
theorem Request.keeps {σ β : Type} {layers : Stack} (Invariant : Store → Prop)
    (reports : ∀ {s s' : Store}, s.OnlyReports s' → Invariant s → Invariant s')
    (inserts : ∀ w : World σ, Invariant w.store → Invariant (layers.insert w).2.store)
    (writes : ∀ id objections name value s, Invariant s →
      Invariant (s.write ((layers.handle id).refusing objections) name value).2)
    (r : Request β) (w : World σ) (kept : Invariant w.store) :
    Invariant (r.run layers w).2.store := by
  cases r with
  | insert => exact inserts w kept
  | write id objections name value =>
    simp only [Request.run, Action.write, Action.ofStore_apply]
    exact writes id objections name value w.store kept
  | writeAll id objections name values =>
    simp only [Request.run, Action.ofStore_apply]
    exact Store.writeAll_keeps Invariant (fun s name value => writes id objections name value s)
      name values w.store kept
  | compile text => exact reports (Request.onlyReports (r := .compile text) trivial w) kept
  | find q params => exact reports (Request.onlyReports (r := .find q params) trivial w) kept
  | one q params => exact reports (Request.onlyReports (r := .one q params) trivial w) kept
  | next scan => exact reports (Request.onlyReports (r := .next scan) trivial w) kept
  | look => exact reports (Request.onlyReports (r := .look) trivial w) kept

namespace Stack

variable {σ α : Type} {w w' : World σ}

/-- A transaction under a watch has a result only if its body has it. -/
theorem underWatch_ok {rule : Rule} {place : Nat} {body : Action σ α} {x : α}
    (ended : body.underWatch rule place w = (.ok x, w')) : ∃ v v', body v = (.ok x, v') := by
  refine ⟨{ w with store := w.store.onWatch place Watch.enter }, ?_⟩
  unfold Action.underWatch at ended
  simp only [Action.bind_apply, Action.get_apply, Action.change_apply, Action.observe_apply,
    Action.settle_apply] at ended
  cases run : body { w with store := w.store.onWatch place Watch.enter } with
  | mk outcome v =>
    rw [run] at ended
    cases outcome with
    | error e => cases congrArg Prod.fst ended
    | ok y =>
      have same : y = x := by
        have result := congrArg Prod.fst ended
        dsimp only at result
        split at result
        · rw [Action.bind_apply] at result
          split at result
          · exact Except.ok.inj result
          · cases result
        · exact Except.ok.inj result
      exact ⟨v, by rw [same]⟩

/-- A transaction has a result only if its body has it. -/
theorem transaction_ok (layers : Stack) {body : Action σ α} {x : α}
    (ended : layers.transaction body w = (.ok x, w')) : ∃ v v', body v = (.ok x, v') := by
  induction layers generalizing body w' with
  | nil =>
    unfold transaction at ended
    rw [Action.inTransaction_apply] at ended
    have result : (body { w with store := w.store.openTransaction.2 }).1 = .ok x :=
      congrArg Prod.fst ended
    exact ⟨_, _, Prod.ext result rfl⟩
  | cons layer below ih =>
    cases layer with
    | hook hook => exact ih ended
    | rule rule place =>
      obtain ⟨v, v', inner⟩ := ih ended
      exact underWatch_ok inner

/-- The handle of a new fact is the one that its layers give out. -/
theorem insert_handle (layers : Stack) {h : Handle} (ended : layers.insert w = (.ok h, w')) :
    h = layers.handle h.id := by
  induction layers generalizing w w' h with
  | nil =>
    have made : w.store.insert.1 = h := Except.ok.inj (congrArg Prod.fst ended)
    rw [← made]
    rfl
  | cons layer below ih =>
    cases layer with
    | hook hook =>
      obtain ⟨v, v', body⟩ := transaction_ok below ended
      rw [Action.bind_apply] at body
      split at body
      · next k u inserted =>
        rw [Action.bind_apply] at body
        split at body
        · have same : k = h := Except.ok.inj (congrArg Prod.fst body)
          rw [← same]
          exact ih inserted
        · cases congrArg Prod.fst body
      · cases congrArg Prod.fst body
    | rule rule place =>
      unfold insert at ended
      rw [Action.bind_apply] at ended
      split at ended
      · next k u inserted =>
        have same : k.observedBy (.rule rule place) = h := Except.ok.inj (congrArg Prod.fst ended)
        rw [← same, ih inserted]
        simp [Handle.observedBy, handle, listeners]
      · cases congrArg Prod.fst ended

/-- What making a fact keeps below a hook, and every write to the fact, is kept by making the fact
and running the hook. -/
theorem decorated_keeps {ι : Type} {Invariant : ι → Store → Prop} {below : Stack}
    (inserts : Action.Keeps Invariant (below.insert : Action σ Handle))
    (writes : ∀ i id s name value, Invariant i s →
      Invariant i (s.write (below.handle id) name value).2) (hook : Hook) :
    Action.Keeps Invariant (do
      let h ← below.insert
      Action.runHook h hook
      return h : Action σ Handle) := by
  refine inserts.bind fun w h w' inserted => ?_
  refine Action.Keeps.bind ?_ fun _ _ _ _ => fun i w kept => kept
  rw [insert_handle below inserted]
  exact Action.runHook_keeps (fun i s name value => writes i h.id s name value) hook

/-- A query that some layers compile carries the listeners of the handles that they give out. -/
theorem compile_decorators (layers : Stack) {text : String} {q : Query}
    (ended : layers.compile text w = (.ok q, w')) : q.handle = layers.handle := by
  unfold compile at ended
  rw [Action.bind_apply, Action.ofStore_apply] at ended
  unfold Store.compile at ended
  cases read : w.store.readTerm text with
  | mk result s =>
    rw [read] at ended
    cases result with
    | error e => cases congrArg Prod.fst ended
    | ok term =>
      have same : (⟨text, term, [] ++ listeners layers⟩ : Query) = q :=
        Except.ok.inj (congrArg Prod.fst ended)
      rw [← same]
      rfl

end Stack

namespace Scan

/-- A fact that a scan finds comes with the handle of the query, and the scan goes on with the
same query. -/
theorem advance_handle (ids : List FactId) (scan : Scan) (s : Store) :
    (∀ h, (advance ids scan s).1 = some (.ok h) → h = scan.query.handle h.id) ∧
      (advance ids scan s).2.1.query = scan.query := by
  induction ids generalizing scan s with
  | nil => exact ⟨fun h found => (by cases found), rfl⟩
  | cons id rest ih =>
    have query : (scan.examine id s).2.1.query = scan.query := rfl
    unfold advance
    split
    · next next s' examined =>
      rw [examined] at query
      refine ⟨fun h found => ?_, query⟩
      cases found
      rw [← query]
      rfl
    · next next s' examined =>
      rw [examined] at query
      rw [← query]
      exact ih next s'
    · next e next s' examined =>
      rw [examined] at query
      exact ⟨fun h found => (by cases found), query⟩

/-- A fact that a scan finds next comes with the handle of the query, and the scan goes on with
the same query. -/
theorem next_handle (scan : Scan) (s : Store) :
    (∀ h, (scan.next s).1 = some (.ok h) → h = scan.query.handle h.id) ∧
      (scan.next s).2.1.query = scan.query := by
  unfold next
  split
  · exact ⟨fun h found => (by cases found), rfl⟩
  · exact advance_handle _ scan s

/-- The facts that a scan finds come with the handles of the query. -/
theorem items_handle (count : Nat) (scan : Scan) (s : Store) :
    ∀ h, .ok h ∈ (scan.items count s).1 → h = scan.query.handle h.id := by
  induction count generalizing scan s with
  | zero =>
    intro h mem
    cases mem
  | succ count ih =>
    intro h mem
    obtain ⟨first, query⟩ := scan.next_handle s
    unfold items at mem
    split at mem
    · cases mem
    · next item next s' taken =>
      rw [taken] at first query
      rcases List.mem_cons.mp mem with this | later
      · exact first h (by rw [this])
      · rw [← query]
        exact ih next s' h later

end Scan

/-- The facts that a query finds come with its handles. -/
theorem Query.collect_handles (q : Query) {params : Option Params} {s s' : Store}
    {found : List Handle} (ended : q.collect params s = (.ok found, s')) :
    ∀ h ∈ found, h = q.handle h.id := by
  have result : ((Scan.start q params s).items (Scan.enough s) s).1.mapM id = .ok found :=
    congrArg Prod.fst ended
  intro h mem
  apply Scan.items_handle (Scan.enough s) (Scan.start q params s) s h
  generalize ((Scan.start q params s).items (Scan.enough s) s).1 = items at result
  clear ended
  induction items generalizing found with
  | nil =>
    cases result
    cases mem
  | cons item rest ih =>
    rw [List.mapM_cons] at result
    cases item with
    | error e => cases result
    | ok first =>
      cases later : rest.mapM (id : Except Error Handle → Except Error Handle) with
      | error e =>
        rw [later] at result
        cases result
      | ok others =>
        rw [later] at result
        have same : first :: others = found := Except.ok.inj result
        rw [← same] at mem
        rcases List.mem_cons.mp mem with rfl | mem
        · exact List.mem_cons_self
        · exact List.mem_cons_of_mem _ (ih mem later)

end Annals
