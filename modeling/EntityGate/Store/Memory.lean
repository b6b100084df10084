/-
# The store in memory

Rows are kept by type, in the order of insertion, under the text of their id.  An entity without an
id gets the next one of a supply, whatever this is; how random ids come about is no matter of the
store.  Opening a transaction takes a snapshot of all rows, and rolling back restores it.  A call
that fails leaves the rows and the snapshot as they were.  Calls that look up, write or settle a
transaction are logged.
-/
import EntityGate.Store.Changes
import EntityGate.Store.Evaluate
import EntityGate.Store.Persistence

namespace EntityGate

/-- The rows of each type by the text of their id. -/
abbrev Rows : Type := Table (Table Json)

/-- The state of the store. -/
structure Memory where
  tables : Rows
  /-- The rows at the beginning of the open transaction. -/
  snapshot : Option Rows
  /-- What was done so far. -/
  calls : List String
  /-- The supply of ids for entities that have none. -/
  ids : Nat → String
  /-- The number of ids that were taken from it. -/
  generated : Nat

namespace Memory

/-- The store without rows, with a supply of ids. -/
def supplied (ids : Nat → String) : Memory := ⟨.empty, none, [], ids, 0⟩

/-- The rows of a type by the text of their id. -/
def table (m : Memory) (entityType : String) : Table Json :=
  (m.tables.get? entityType).getD .empty

/-- The rows of a type, in the order of insertion. -/
def rows (m : Memory) (entityType : String) : List Json := (m.table entityType).values

/-- The row of an entity. -/
def row? (m : Memory) (entityType : String) (id : Json) : Option Json :=
  (m.table entityType).get? (idKey id)

/-- Put a row under an id: in its place if the id is there, else at the end. -/
def put (m : Memory) (entityType : String) (id row : Json) : Memory :=
  { m with tables := m.tables.insert entityType ((m.table entityType).insert (idKey id) row) }

/-- Drop the row of an entity. -/
def drop (m : Memory) (entityType : String) (id : Json) : Memory :=
  { m with tables := m.tables.insert entityType ((m.table entityType).erase (idKey id)) }

/-- Write a line to the log. -/
def logged (m : Memory) (line : String) : Memory := { m with calls := m.calls ++ [line] }

/-- The store with an empty log. -/
def clearCalls (m : Memory) : Memory := { m with calls := [] }

/-! ## Generated ids -/

/-- A number in hexadecimal digits, filled up to some length. -/
def hexText (length n : Nat) : String :=
  let digits := String.ofList (Nat.toDigits 16 n)
  "".pushn '0' (length - digits.length) ++ digits

/-- A supply of ids: random-style UUIDs that are counted. -/
def countedId (n : Nat) : String := "00000000-0000-4000-8000-" ++ hexText 12 n

/-- The store without rows whose ids are counted. -/
def empty : Memory := supplied countedId

instance : Inhabited Memory := ⟨empty⟩

/-- The id that the next entity without one gets. -/
def nextId (m : Memory) : Json := .str (m.ids m.generated)

/-- The id of an entity, a generated one if it has none. -/
def newId (m : Memory) (id : Option Json) : Json × Memory :=
  match id with
  | some id => (id, m)
  | none => (m.nextId, { m with generated := m.generated + 1 })

/-! ## Calls -/

/-- Take rows over as they are; those without an id get a generated one.  A row that is no object
ends it, and those before it stay. -/
def seed (entityType : String) : List Json → StoreCall Memory Unit
  | [] => fun m => (.ok (), m)
  | .obj fields :: rest => fun m =>
    let (id, m) := m.newId (Json.lookup "id" fields)
    seed entityType rest (m.put entityType id (.obj (Json.insertField "id" id fields)))
  | _ :: _ => fun m => (.error "seed rows must be objects", m)

/-- Run a query and return its page. -/
def execute (q : QuerySpec) : StoreCall Memory (List Json) := fun m =>
  match q.matching (m.rows q.rootEntity) with
  | .ok rows => (.ok (q.window rows), m)
  | .error text => (.error text, m)

/-- Run a query and return its page, with the number of all rows if it is asked for. -/
def executePaginated (q : QuerySpec) (returnCount : Bool) : StoreCall Memory ResultPage :=
  fun m =>
    match q.matching (m.rows q.rootEntity) with
    | .ok rows => (.ok ⟨if returnCount then some rows.length else none, q.window rows⟩, m)
    | .error text => (.error text, m)

/-- The rows of some ids, in the order of the ids; an id without a row gives none. -/
def findIn (entityType : String) (ids : List Json) : StoreCall Memory (List Json) := fun m =>
  (.ok (ids.filterMap (m.row? entityType)),
    m.logged ("find_in:" ++ entityType ++ ":" ++ toString ids.length))

/-- The row that a record is stored as under an id. -/
def rowOf (schema : Schema) (r : EntityRecord) (id : Json) : Except String Json := do
  let fields ← Change.applyAll schema r.entityType (Json.insertField "id" id r.fields) r.changes
  return .obj fields

/-- Insert a record under its id or a generated one, which must not be there. -/
def insert (schema : Schema) (r : EntityRecord) : StoreCall Memory Json := fun m =>
  let m := m.logged ("insert:" ++ r.entityType)
  let (id, m) := m.newId r.id
  match rowOf schema r id with
  | .error text => (.error text, m)
  | .ok row =>
    if (m.row? r.entityType id).isSome then
      (.error ("'" ++ r.entityType ++ "' with id " ++ idKey id ++ " already exists"), m)
    else (.ok row, m.put r.entityType id row)

/-- The text for an entity that is not there. -/
def notFound (entityType : String) (id : Json) : String :=
  "'" ++ entityType ++ "' " ++ idKey id ++ " not found"

/-- Update the row of a record, which must be there. -/
def update (schema : Schema) (r : EntityRecord) : StoreCall Memory Json := fun m =>
  let m := m.logged ("update:" ++ r.entityType)
  match r.id with
  | none => (.error ("cannot update '" ++ r.entityType ++ "' without an id"), m)
  | some id =>
    match rowOf schema r id with
    | .error text => (.error text, m)
    | .ok row =>
      if (m.row? r.entityType id).isSome then (.ok row, m.put r.entityType id row)
      else (.error (notFound r.entityType id), m)

/-- Remove the row of a record, which must be there. -/
def remove (r : EntityRecord) : StoreCall Memory Unit := fun m =>
  let m := m.logged ("remove:" ++ r.entityType)
  match r.id with
  | none => (.error ("cannot remove '" ++ r.entityType ++ "' without an id"), m)
  | some id =>
    if (m.row? r.entityType id).isSome then (.ok (), m.drop r.entityType id)
    else (.error (notFound r.entityType id), m)

/-- Open a transaction, unless one is open. -/
def begin : StoreCall Memory Unit := fun m =>
  match m.snapshot with
  | some _ => (.error "a transaction is already open", m)
  | none => (.ok (), { m with snapshot := some m.tables }.logged "begin")

/-- Close the open transaction and keep its writes. -/
def commit : StoreCall Memory Unit := fun m =>
  match m.snapshot with
  | some _ => (.ok (), { m with snapshot := none }.logged "commit")
  | none => (.error "no open transaction to commit", m)

/-- Close the open transaction and undo its writes. -/
def rollback : StoreCall Memory Unit := fun m =>
  match m.snapshot with
  | some tables => (.ok (), { m with tables := tables, snapshot := none }.logged "rollback")
  | none => (.error "no open transaction to roll back", m)

/-- The store with some schema, as a collaborator. -/
def persistence (schema : Schema) : Persistence Memory where
  execute := execute
  executePaginated := fun q _ returnCount => executePaginated q returnCount
  findIn := findIn
  insert := insert schema
  update := update schema
  remove := remove
  schema := schema
  begin := begin
  commit := commit
  rollback := rollback
  flush := fun m => (.ok (), m)

end Memory

end EntityGate
