/-
# A store under observation

A rehearsal runs a gate over a store that is watched: every call is written down before it
runs, calls can be made to fail on schedule, and records that are inserted without an id get one
that counts the insertions.  Everything else is left to the store underneath, so what is written
down is what the gate asks of a store.
-/
import EntityGate.Store.Persistence

namespace EntityGate.Rehearsal

/-- A call of a store, with its arguments. -/
inductive Call where
  | execute (q : QuerySpec)
  | executePaginated (q : QuerySpec) (fetchJoin returnCount : Bool)
  | findIn (entityType : String) (ids : List Json)
  | insert (r : EntityRecord)
  | update (r : EntityRecord)
  | remove (r : EntityRecord)
  | begin
  | commit
  | rollback
  | flush

namespace Call

/-- What a call is known by: its kind, and the type of entity it is about. -/
def name : Call → String
  | execute q => "execute:" ++ q.entityType
  | executePaginated q _ _ => "execute_paginated:" ++ q.entityType
  | findIn entityType _ => "find_in:" ++ entityType
  | insert r => "insert:" ++ r.entityType
  | update r => "update:" ++ r.entityType
  | remove r => "remove:" ++ r.entityType
  | begin => "begin"
  | commit => "commit"
  | rollback => "rollback"
  | flush => "flush"

/-- A truth value in a line. -/
def flag (b : Bool) : String := if b then "true" else "false"

/-- The line that a call is written down as. -/
def line (c : Call) : String :=
  match c with
  | executePaginated _ fetchJoin returnCount =>
    c.name ++ ":" ++ flag fetchJoin ++ ":" ++ flag returnCount
  | findIn _ ids => c.name ++ ":" ++ (Json.arr ids).compact
  | _ => c.name

end Call

/-- A failure on schedule: the next call with a name fails, after some that do not. -/
structure Failure where
  name : String
  skip : Nat
  message : String

/-- What is written down of an event: its name, the type of entity and the payload. -/
structure Note where
  event : String
  entityType : String
  payload : Json

/-- The value that describes a note. -/
def Note.toJson (n : Note) : Json := .arr [.str n.event, .str n.entityType, n.payload]

/-- The state of a rehearsal over a store with state `σ`. -/
structure Stage (σ : Type) where
  store : σ
  /-- The calls so far. -/
  calls : List Call
  /-- The failures still to come. -/
  failures : List Failure
  /-- The number of ids given to inserted records. -/
  givenIds : Nat
  /-- The events written down by listeners. -/
  notes : List Note

namespace Stage

variable {σ α : Type}

/-- The beginning of a rehearsal. -/
def opening (store : σ) (failures : List Failure) : Stage σ := ⟨store, [], failures, 0, []⟩

/-- The failure that meets a call, and the schedule after it: the first entry with the name of
the call strikes if it has nothing left to skip. -/
def strike (name : String) : List Failure → Option String × List Failure
  | [] => (none, [])
  | f :: rest =>
    if f.name = name then
      match f.skip with
      | 0 => (some f.message, rest)
      | skip + 1 => (none, { f with skip } :: rest)
    else
      let (message, rest) := strike name rest
      (message, f :: rest)

/-- Write a call down, and run it unless a failure strikes. -/
def observe (c : Call) (run : StoreCall (Stage σ) α) : StoreCall (Stage σ) α := fun s =>
  let (message, failures) := strike c.name s.failures
  let s := { s with calls := s.calls ++ [c], failures }
  match message with
  | some text => (.error text, s)
  | none => run s

/-- A call of the store underneath. -/
def below (call : StoreCall σ α) : StoreCall (Stage σ) α := fun s =>
  let (result, store) := call s.store
  (result, { s with store })

/-- A record with an id, one that counts if it has none. -/
def identified (r : EntityRecord) (s : Stage σ) : EntityRecord × Stage σ :=
  match r.id with
  | some _ => (r, s)
  | none =>
    let n := s.givenIds + 1
    ({ r with id := some (.str ("gen-" ++ toString n)) }, { s with givenIds := n })

/-- The store under observation. -/
def persistence (p : Persistence σ) : Persistence (Stage σ) where
  execute := fun q => observe (.execute q) (below (p.execute q))
  executePaginated := fun q fetchJoin returnCount =>
    observe (.executePaginated q fetchJoin returnCount)
      (below (p.executePaginated q fetchJoin returnCount))
  findIn := fun entityType ids =>
    observe (.findIn entityType ids) (below (p.findIn entityType ids))
  insert := fun r => observe (.insert r) (fun s =>
    let (r, s) := identified r s
    below (p.insert r) s)
  update := fun r => observe (.update r) (below (p.update r))
  remove := fun r => observe (.remove r) (below (p.remove r))
  schema := p.schema
  begin := observe .begin (below p.begin)
  commit := observe .commit (below p.commit)
  rollback := observe .rollback (below p.rollback)
  flush := observe .flush (below p.flush)

/-- The stage with nothing written down. -/
def cleared (s : Stage σ) : Stage σ := { s with calls := [], notes := [] }

end Stage

end EntityGate.Rehearsal
