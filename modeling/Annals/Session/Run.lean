import Annals.Session.Desk

/-!
# Running scripts

A script runs either as the body of a transaction, where the first failure ends it, or by itself,
where failures end nothing. An abrupt stop ends every body around it, up to a transaction that is
not inside of another one or that tolerates failures.
-/

set_option autoImplicit false

namespace Annals.Session

/-- Where and how a script runs. -/
structure Setting where
  /-- All layers, the outermost one first. -/
  layers : Stack
  /-- The number of the layer, counted from the store, that commands run on. -/
  place : Nat
  /-- Whether the script is inside of a transaction. -/
  inside : Bool
  /-- Whether a failure ends the script. -/
  strict : Bool

namespace Setting

/-- The number of the layer that a command runs on. -/
def placeOf (here : Setting) (place : Option Nat) : Nat := place.getD here.place

/-- The stack whose top is the layer of a number. -/
def stackAt (here : Setting) (place : Nat) : Stack :=
  here.layers.drop (here.layers.length - place)

/-- The setting of the body of a transaction on the layer of a number. -/
def body (here : Setting) (place : Nat) : Setting :=
  { here with place := place, inside := true, strict := true }

/-- The setting of what is done between the items of a scan on the layer of a number. -/
def between (here : Setting) (place : Nat) : Setting :=
  { here with place := place, strict := false }

end Setting

/-- The state of the store as it is. -/
def mark : Act Mark := do
  let s ← store
  return ⟨s.size, s.depth⟩

def report (r : Report) : Act Unit := onDesk fun d => { d with reports := r :: d.reports }

/-- Take the reports away, and put others in their place. -/
def exchangeReports (others : List Report) : Act (List Report) := do
  let reports := (← get).own.reports
  onDesk fun d => { d with reports := others }
  return reports

/-- Do something whose reports are kept apart; they come in their order, whatever happens. -/
def apart {α : Type} (action : Act α) : Act (Except Exit α × List Report) := do
  let before ← exchangeReports []
  let outcome ← Action.observe action
  let reports ← exchangeReports before
  return (outcome, reports.reverse)

/-- Go on after a failure, unless it ends the script. -/
def proceed (here : Setting) (tolerated : Bool) (e : Error) : Act Unit :=
  if here.strict && !tolerated then failWith e else return

/-- Do what the body of a transaction does at last. -/
def finish : Ending → Act Unit
  | .normal => return
  | .fail => failWith (.property .abandoned)
  | .stop => throw .stopped

/-- Report an operation. -/
def call (here : Setting) (place : Option Nat) (tolerated : Bool) (op : Operation) : Act Unit := do
  match ← Action.observe (perform (here.stackAt (here.placeOf place)) op) with
  | .ok answer => report (.call (.ok answer) (← mark))
  | .error (.failed e) =>
    report (.call (.error e) (← mark))
    proceed here tolerated e
  | .error .stopped => throw .stopped

/-- Report a transaction. -/
def transact (here : Setting) (place : Option Nat) (tolerated : Bool) (body : Act Unit) :
    Act Unit := do
  let (outcome, reports) ← apart ((here.stackAt (here.placeOf place)).transaction body)
  match outcome with
  | .ok () => report (.transaction .done reports (← mark))
  | .error (.failed e) =>
    report (.transaction (.failed e) reports (← mark))
    proceed here tolerated e
  | .error .stopped =>
    if here.inside && !tolerated then
      report (.passed reports)
      throw .stopped
    else report (.transaction .stopped reports (← mark))

/-- A scan under way, with what it may still give and what it gave, the latest first. -/
structure Progress where
  scan : Scan
  /-- How many more items are wanted, if there is a limit. -/
  most : Option Nat
  items : List Item

/-- The place of the fact of an item; its handle is kept. -/
def takeItem (item : Except Error Handle) : Act (Except Error (Option Nat)) := do
  match item with
  | .ok h =>
    keepHandle "it" h
    return .ok ((← store).position? h.id)
  | .error e => return .error e

/-- Take items from a scan, at most so many. -/
def takeItems (count : Nat) (progress : Progress) : Act Progress := do
  let (found, scan, s) := progress.scan.items count (← store)
  Action.change fun _ => s
  let items ← found.mapM fun item => return .item (← takeItem item) none
  return ⟨scan, progress.most.map (· - found.length), items.reverse ++ progress.items⟩

/-- Take all items that are left and wanted. -/
def takeRest (progress : Progress) : Act Progress := do
  let enough := Scan.enough (← store)
  takeItems (match progress.most with
    | some most => min most enough
    | none => enough) progress

/-- Take one item and do something after it, if there is one; the answer is whether there was. -/
def takeOne (progress : Progress) (after : Act Unit) : Act (Bool × Progress) := do
  if progress.most = some 0 then return (false, progress)
  let (found, scan, s) := progress.scan.next (← store)
  Action.change fun _ => s
  let progress := { progress with scan := scan }
  match found with
  | none => return (false, progress)
  | some item =>
    let outcome ← takeItem item
    let (exit, reports) ← apart after
    Action.settle exit
    return (true, { progress with
      most := progress.most.map (· - 1)
      items := .item outcome (some reports) :: progress.items })

/-- The items that come before the next script, as far as they are wanted. -/
def wanted (skipped : Nat) (progress : Progress) : Nat :=
  match progress.most with
  | some most => min skipped most
  | none => skipped

/-- Report a scan, where `drive` takes its items. -/
def scanning (here : Setting) (place : Option Nat) (tolerated : Bool) (source : QuerySource)
    (refused : Option (List String)) (most : Option Nat) (drive : Progress → Act Progress) :
    Act Unit := do
  match ← Action.observe (queryOf (here.stackAt (here.placeOf place)) source) with
  | .error (.failed e) =>
    report (.call (.error e) (← mark))
    proceed here tolerated e
  | .error .stopped => throw .stopped
  | .ok q =>
    let progress ← drive ⟨.start (refusing q refused) none (← store), most, []⟩
    report (.iterate progress.items.reverse (most.isNone && progress.scan.ended) (← mark))

mutual

/-- Run a script. -/
def run : Setting → Script → Act Unit
  | _, .done => return
  | here, .call place tolerated op next => do
    call here place tolerated op
    run here next
  | here, .transaction place tolerated body ending next => do
    transact here place tolerated do
      run (here.body (here.placeOf place)) body
      finish ending
    run here next
  | here, .iterate place tolerated source refused most between next => do
    scanning here place tolerated source refused most
      (drive (here.between (here.placeOf place)) between)
    run here next

/-- Take the items of a scan, and run scripts between them. -/
def drive : Setting → Interludes → Progress → Act Progress
  | _, .done, progress => takeRest progress
  | here, .after skipped body rest, progress => do
    let progress ← takeItems (wanted skipped progress) progress
    let (more, progress) ← takeOne progress (run here body)
    if more then drive here rest progress else return progress

end

end Annals.Session
