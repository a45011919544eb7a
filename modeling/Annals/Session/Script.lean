import Annals.Store.Content
import Annals.Store.Layer

/-!
# Scripts

What a session does with a store, as data: operations one after the other, transactions with
bodies that are scripts themselves, and scans with scripts to run between their items. Facts,
queries and bytes are named by the script. The reports of a session have the shape of its script.
-/

set_option autoImplicit false

namespace Annals.Session

/-- Where a query comes from. -/
inductive QuerySource where
  /-- The query is compiled from a text. -/
  | text (query : String)
  /-- The query was compiled before, under a name. -/
  | kept (name : String)

/-- Where the bytes of a snapshot come from. -/
inductive ByteSource where
  | given (bytes : Snapshot.Bytes)
  /-- The bytes were exported before, under a name. -/
  | kept (name : String)

/-- An operation that contains no other. -/
inductive Operation where
  /-- Make a new fact, and keep its handle under a name. -/
  | insert (name : Option String)
  /-- Make a fact outside of the store. -/
  | makeFree (name : String) (pairs : FactMap)
  /-- Take a handle to the fact at a place of the store. -/
  | handle (index : Nat) (name : String)
  /-- Let a listener that refuses properties hear of the writes through a new handle. -/
  | observe (fact name : String) (refused : List String)
  | detach (fact name : String)
  | set (fact property : String) (value : Value)
  | setAll (fact property : String) (values : List Value)
  | get (fact property : String)
  | history (fact property : String)
  | inspect (fact : String)
  /-- Tell whether two handles are of one fact. -/
  | same (fact other : String)
  /-- Compile a query, and keep it under a name. -/
  | compile (query name : String)
  /-- Find facts, and keep their handles under a name followed by their numbers. -/
  | find (source : QuerySource) (params : Option Params) (refused : Option (List String))
      (name : Option String)
  | one (source : QuerySource) (params : Params)
  /-- Check a fact against the rule of the layer. -/
  | validate (fact : String)
  | dump
  | stats
  | about
  /-- Write the content to bytes, and keep them under a name. -/
  | exportBytes (name : String)
  /-- Replace the content by that of bytes. -/
  | importBytes (source : ByteSource)
  | copy (source : ByteSource)
  /-- Replace the content by that of maps. -/
  | replace (maps : List FactMap)

/-- What the body of a transaction does at last. -/
inductive Ending where
  | normal
  | fail
  | stop
  deriving DecidableEq

mutual

/-- What a session does.

A command runs on the layer at `place`, counted from the store, or else where the script runs. A
failure that is tolerated does not end the body around. -/
inductive Script where
  | done
  | call (place : Option Nat) (tolerated : Bool) (op : Operation) (next : Script)
  | transaction (place : Option Nat) (tolerated : Bool) (body : Script) (ending : Ending)
      (next : Script)
  /-- A scan, of at most `most` items if that is given, and then more. -/
  | iterate (place : Option Nat) (tolerated : Bool) (source : QuerySource)
      (refused : Option (List String)) (most : Option Nat) (between : Interludes) (next : Script)

/-- What is done between the items of a scan. -/
inductive Interludes where
  | done
  /-- After one more item than `skipped`, a script is run. -/
  | after (skipped : Nat) (body : Script) (rest : Interludes)

end

/-- The answer to an operation. -/
inductive Answer where
  | nothing
  | flag (b : Bool)
  | text (s : String)
  | value (v : Value)
  /-- The values of a property, if there is one. -/
  | history (values : Option (List Value))
  /-- A new fact: its place and its text. -/
  | inserted (position : Option Nat) (text : String)
  /-- A fact: its place and what it holds. -/
  | fact (position : Option Nat) (properties : Properties)
  | query (q : Query)
  /-- The places of the facts that were found. -/
  | found (positions : List (Option Nat))
  | datum (d : Datum)
  | rule (text : String)
  | maps (facts : List Properties)
  /-- The numbers of committed, rolled back and open transactions. -/
  | stats (committed rolledBack depth : Nat)
  | about (description : String) (operators : List String) (maxDepth : Nat)
  | bytes (bytes : Snapshot.Bytes)
  /-- Another store: its size, what its facts hold, and whether the facts of this one hold the
  same. -/
  | copy (size : Nat) (facts : List Properties) (equal : Bool)

/-- The state of the store after a command. -/
structure Mark where
  size : Nat
  depth : Nat
  deriving DecidableEq

/-- How a transaction ended. -/
inductive Close where
  | done
  | failed (e : Error)
  /-- With an abrupt stop of its body. -/
  | stopped
  deriving DecidableEq

mutual

/-- What is reported of a command. -/
inductive Report where
  /-- The outcome of an operation, or the failure of a scan to begin. -/
  | call (outcome : Except Error Answer) (mark : Mark)
  /-- The items of a scan, and whether nothing more comes. -/
  | iterate (items : List Item) (ended : Bool) (mark : Mark)
  /-- How a transaction ended, with what its body reported. -/
  | transaction (close : Close) (body : List Report) (mark : Mark)
  /-- A transaction that an abrupt stop passed through, with what its body reported. -/
  | passed (body : List Report)

/-- What is reported of an item of a scan. -/
inductive Item where
  /-- The place of the fact or the failure, and what the script after it reported. -/
  | item (outcome : Except Error (Option Nat)) (between : Option (List Report))

end

end Annals.Session
