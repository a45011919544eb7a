import Annals.Session.Run

/-!
# Setting up a session

A session begins with a store, puts layers on it one by one, and runs a script on the outermost
one.
-/

set_option autoImplicit false

namespace Annals.Session

/-- A store with the layers above it. -/
structure Setup where
  /-- All layers, the outermost one first. -/
  layers : Stack
  store : Store

/-- A layer that a session asks for. -/
inductive LayerRequest where
  | rule (text : String) (uid : Option String)
  | hook (steps : List HookStep)

namespace Setup

def create (config : Config) (registry : Registry) : Setup := ⟨[], .create config registry⟩

/-- Put a layer on top. -/
def add (setup : Setup) : LayerRequest → Except Error Setup
  | .hook steps => .ok ⟨setup.layers.addHook (.ofSteps steps), setup.store⟩
  | .rule text uid =>
    match setup.layers.addRule setup.store text uid with
    | (.ok layers, s) => .ok ⟨layers, s⟩
    | (.error e, _) => .error e

/-- Run a script on the outermost layer; the answer is the store and the reports in their order. -/
def run (setup : Setup) (script : Script) : Store × List Report :=
  let here : Setting := ⟨setup.layers, setup.layers.length, false, false⟩
  let (_, w) := Session.run here script ⟨setup.store, .empty⟩
  (w.store, w.own.reports.reverse)

end Setup

end Annals.Session
