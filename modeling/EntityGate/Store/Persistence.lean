/-
# The store as a collaborator

What a store has to offer: it runs query specifications, looks entities up by id, writes records
and keeps transactions.  A store call reads and changes a state, and what it changed stays
changed when it fails.  The same holds of a request as a whole, whose failures are faults; the
text of a failed store call becomes an execution fault.
-/
import EntityGate.Query.Spec
import EntityGate.Store.Record

namespace EntityGate

/-- A call of a store with state `σ`: a result or a text that says why there is none, and the
state after the call. -/
abbrev StoreCall (σ α : Type) : Type := ExceptT String (StateM σ) α

/-- A computation over the state `σ` that may end in a fault; the state is kept. -/
abbrev Effect (σ α : Type) : Type := ExceptT Fault (StateM σ) α

/-- A store with state `σ`. -/
structure Persistence (σ : Type) where
  /-- Run a query and return the rows of its page. -/
  execute : QuerySpec → StoreCall σ (List Json)
  /-- Run a query as a page: with joins fetched or not, with a count or without. -/
  executePaginated : QuerySpec → Bool → Bool → StoreCall σ ResultPage
  /-- The rows of a type whose id is among the given ones. -/
  findIn : String → List Json → StoreCall σ (List Json)
  /-- Insert a new entity and return its row. -/
  insert : EntityRecord → StoreCall σ Json
  /-- Update an entity and return its row. -/
  update : EntityRecord → StoreCall σ Json
  /-- Remove an entity. -/
  remove : EntityRecord → StoreCall σ Unit
  /-- The associations of each type. -/
  schema : Schema
  /-- Open a transaction. -/
  begin : StoreCall σ Unit
  /-- Keep what was done since the transaction was opened, and close it. -/
  commit : StoreCall σ Unit
  /-- Undo what was done since the transaction was opened, and close it. -/
  rollback : StoreCall σ Unit
  /-- Push pending writes. -/
  flush : StoreCall σ Unit

namespace Effect

variable {σ α : Type}

/-- A store call as part of a request. -/
def ofStore (call : StoreCall σ α) : Effect σ α := fun s =>
  match call s with
  | (.ok a, s) => (.ok a, s)
  | (.error text, s) => (.error (.execution text), s)

/-- A decision that does not touch the state. -/
def ofExcept (e : Except Fault α) : Effect σ α := fun s => (e, s)

/-- The outcome from a state, and the state after it. -/
def outcome (e : Effect σ α) (s : σ) : Except Fault α × σ := e s

end Effect

end EntityGate
