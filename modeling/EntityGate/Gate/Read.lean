/-
# Reading

A read is refused if the action is, then compiled, and then, unless only the query is wanted,
executed.  The phases it goes through are reported; a read that fails reports that last.
-/
import EntityGate.Gate.Basic
import EntityGate.Query.Compile
import EntityGate.Query.Page

namespace EntityGate

/-- What a read returns. -/
inductive ReadOutcome where
  /-- The query, not executed. -/
  | query (q : QuerySpec)
  /-- The rows of a list. -/
  | rows (items : List Json)
  /-- The rows of a page, with the number of all rows and its place if they were asked for. -/
  | page (count : Option Nat) (items : List Json) (place : Option Page)

namespace ReadOutcome

/-- The rows of an outcome. -/
def items : ReadOutcome → List Json
  | query _ => []
  | rows items => items
  | page _ items _ => items

/-- The value that describes an outcome. -/
def toJson : ReadOutcome → Json
  | query q => .ofFields [("query", q.toJson)]
  | rows items => .ofFields [("rows", .arr items)]
  | page count items place =>
    .ofFields ([("count", .ofNat? count), ("rows", .arr items)] ++
      Json.writeOption "pagination" Page.toJson place)

end ReadOutcome

/-- A computation over the state `σ` that reports the phases it enters. -/
abbrev Reading (σ α : Type) : Type := ExceptT Fault (StateT (List ReadPhase) (StateM σ)) α

namespace Reading

variable {σ α : Type}

/-- A compilation as part of a read. -/
def ofPhased (p : Phased α) : Reading σ α := fun phases s => (p phases, s)

/-- An effect as part of a read. -/
def ofEffect (e : Effect σ α) : Reading σ α := fun phases s =>
  let (result, s) := e s
  ((result, phases), s)

/-- Report that a phase is entered. -/
def enter (phase : ReadPhase) : Reading σ Unit := ofPhased (Phased.enter phase)

/-- The outcome from a state, the phases that were entered, and the state after it. -/
def outcome (r : Reading σ α) (s : σ) : (Except Fault α × List ReadPhase) × σ := r [] s

/-- Report how a computation ends. -/
def closing (r : Reading σ α) : Reading σ α := fun phases s =>
  let ((result, phases), s) := r phases s
  match result with
  | .ok a => ((.ok a, phases ++ [.done]), s)
  | .error f => ((.error f, phases ++ [.failed]), s)

end Reading

/-- The request that a read of an entity is compiled from: settings see the params, the options
of the entity, the overrides and the front-end options. -/
def ReadRequest.ofCall (entityType : String) (config : EntityConfig) (params : Json)
    (frontEnd : FrontEndOptions) (overrides : CallOptions) : ReadRequest :=
  ⟨entityType, config, frontEnd, overrides,
    .ofCall params (.writeTable Setting.toJson config.read.options) overrides.toJson
      frontEnd.toJson⟩

namespace Gate

variable {σ : Type} (gate : Gate σ)

/-- Refuse a read whose action is not allowed. -/
def checkRead (r : ReadRequest) : Except Fault Unit := do
  let allowed ← Resolve.bool? gate.registry r.ctx "read.permissions.allowed" r.permissions.allowed
  if allowed.getD true then return () else throw (.actionNotAllowed r.entityType "read")

/-- Execute a compiled query. -/
def executeQuery (q : QuerySpec) : Effect σ ReadOutcome := do
  if q.shaping.paginate then
    let page ← Effect.ofStore
      (gate.persistence.executePaginated q q.shaping.fetchJoin q.shaping.returnCount)
    let rows ← gate.toArray q.entityType page.rows
    return .page page.count rows (page.count.map (Page.of q.offset q.limit))
  else
    let rows ← Effect.ofStore (gate.persistence.execute q)
    return .rows (← gate.toArray q.entityType rows)

/-- Check, compile and execute a read. -/
def runRead (r : ReadRequest) : Reading σ ReadOutcome := do
  Reading.ofEffect (Effect.ofExcept (gate.checkRead r))
  let q ← Reading.ofPhased (compile gate.registry r)
  if q.shaping.hydrate then
    Reading.enter .executing
    Reading.ofEffect (gate.executeQuery q)
  else
    Reading.enter .returnUnexecuted
    return .query q

/-- Read entities of a type. -/
def read (entityType : String) (params : Json) (frontEnd : FrontEndOptions)
    (overrides : CallOptions) : Reading σ ReadOutcome := do
  let config ← Reading.ofEffect (Effect.ofExcept (gate.config.entity entityType))
  Reading.closing (do
    Reading.enter .idle
    gate.runRead (.ofCall entityType config params frontEnd overrides))

/-- The largest limit of a query. -/
def largestLimit : Nat := Nat.pow 2 64 - 1

/-- The query for the rows whose column holds one of some values. -/
def membersQuery (entityType aliasName field : String) (ids : List Json) : QuerySpec :=
  { QuerySpec.ofType entityType with
    select := [aliasName]
    sources := [⟨entityType, aliasName, none⟩]
    conditions := some (.predicate (aliasName ++ "." ++ field) .isIn [.param "ids"])
    parameters := .ofList [("ids", ⟨.arr ids, none⟩)]
    limit := largestLimit }

/-- The rows of a type whose column holds one of some values; no permission is asked for. -/
def findIn (entityType field : String) (ids : List Json) : Effect σ (List Json) := do
  let config ← Effect.ofExcept (gate.config.entity entityType)
  if ids.isEmpty then return []
  else if field = "id" then Effect.ofStore (gate.persistence.findIn entityType ids)
  else
    Effect.ofStore
      (gate.persistence.execute (membersQuery entityType config.aliasName field ids))

end Gate

end EntityGate
