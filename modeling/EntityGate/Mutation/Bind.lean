/-
# Binding

How the entries of a batch become records and rows.  An entity is loaded unless it is created;
its members are then taken in key order.  A value passes its check, the listeners and the hooks
of its field; a chain request is run for each of its entries, so related entities are written
before the entity they belong to, and their ids become changes of the relation.  At the end the
record passes the hooks of its action and is written.

Every check is asked again here, because listeners may have replaced what was verified.
-/
import EntityGate.Mutation.Cache
import EntityGate.Mutation.Hooks
import EntityGate.Mutation.References

namespace EntityGate

/-- A part of a mutation: it works on the state `σ` and on the cache of the call.  When it ends
in a fault the state is kept and the cache dropped. -/
abbrev Mutating (σ α : Type) : Type := StateT CallCache (ExceptT Fault (StateM σ)) α

namespace Mutating

variable {σ α : Type}

/-- An effect as part of a mutation. -/
def ofEffect (e : Effect σ α) : Mutating σ α := StateT.lift e

/-- A store call as part of a mutation. -/
def ofStore (call : StoreCall σ α) : Mutating σ α := ofEffect (Effect.ofStore call)

/-- A decision as part of a mutation. -/
def ofDecision (e : Except Fault α) : Mutating σ α := ofEffect (Effect.ofExcept e)

/-- The effect of a mutation that starts with an empty cache. -/
def withoutCache (p : Mutating σ α) : Effect σ α := do return (← p.run .empty).1

end Mutating

namespace Gate

open Mutating

variable {σ : Type} (gate : Gate σ)

/-! ## Existing entities -/

/-- The row of an entity: from the cache if it is there, else from the store. -/
def load (entityType : String) (id : Json) : Mutating σ Json := do
  match (← get).row? entityType id with
  | some row => return row
  | none =>
    match ← ofStore (gate.persistence.findIn entityType [id]) with
    | row :: _ =>
      modify fun cache => cache.store entityType row
      return row
    | [] => throw (.entityNotFound entityType (idKey id))

/-- The ids that the cache has no row for, each once. -/
def missingIds (cache : CallCache) (entityType : String) (ids : List Json) : List Json :=
  ids.foldl (fun missing id =>
    if (cache.row? entityType id).isSome || missing.any (· == id) then missing
    else missing ++ [id]) []

/-- Look up the entities of a type that the cache lacks, all at once. -/
def fetch (entityType : String) (ids : List Json) : Mutating σ Unit := do
  match missingIds (← get) entityType ids with
  | [] => return ()
  | missing =>
    let rows ← ofStore (gate.persistence.findIn entityType missing)
    modify fun cache => rows.foldl (fun cache row => cache.store entityType row) cache

/-- Look up all entities that a batch refers to. -/
def prefetch (b : Batch) : Mutating σ Unit := do
  match References.ofBatch? gate.persistence.schema gate.bareLevels b with
  | none => throw .nestedTooDeeply
  | some refs => refs.entries.forM fun (entityType, ids) => gate.fetch entityType ids

/-- The record that an entry starts from. -/
def startRecord (action : Action) (e : Entry) : Mutating σ EntityRecord := do
  if action.chain = .create then return .ofType action.entityType
  else match e.id with
    | none => throw (.invalidParams (.unidentified action.chain.name action.entityType))
    | some id =>
      let row ← gate.load action.entityType id
      let r := EntityRecord.ofRow action.entityType row
      return { r.withFields r.fields with id := some (r.id.getD id) }

/-! ## Members -/

/-- Set a field of a record, after its check, the listeners and the hooks of its layer. -/
def bindValue (action : Action) (r : EntityRecord) (field : String) (v : Json) :
    Mutating σ EntityRecord := do
  ofDecision (action.checkField gate.registry field)
  let payload ← ofEffect (gate.publish .beforeSetField action.entityType
    (.obj [("field", .str field), ("value", v)]))
  let v := (payload.get? "value").getD .null
  match action.node.field? field with
  | none => return r.setField field v
  | some layer =>
    let v ← ofDecision (layer.hooks.onField gate.registry (action.fieldContext field) field v)
    return r.setField field v

/-- The record with the change that an assignment of a related entity stands for. -/
def attach (r : EntityRecord) (relation : String) (assign : Option Assign)
    (child : EntityRecord) : EntityRecord :=
  match assign with
  | none => r
  | some a =>
    if a = .setNull then r.addChange (.clear relation)
    else if a.attaches then r.addChange ⟨relation, a, child.id⟩
    else r

/-- Run the chain requests of a relation and add the changes they stand for; `run` runs one
entry.  The value `null` clears the relation. -/
def bindRelation (run : String → Chain → Entry → Mutating σ EntityRecord) (action : Action)
    (a : Association) (r : EntityRecord) (v : Json) : Mutating σ EntityRecord := do
  let payload ← ofEffect (gate.publish .beforeProcessAssociationParams action.entityType
    (.obj [("params", v), ("relation", .str a.name)]))
  let v := (payload.get? "params").getD .null
  if v.isNull then
    ofDecision (action.checkAssign gate.registry a.name .setNull)
    return r.addChange (.clear a.name)
  else
    (← ofDecision (chainRequests a.name v)).foldlM (fun r (name, params) => do
      let (chain, entries) ← ofDecision (action.openChain gate.registry a.name name params)
      entries.foldlM (fun r e => do
        let (assign, e) ← ofDecision (action.openEntry gate.registry a chain e)
        let child ← run a.target chain e
        return attach r a.name assign child) r) r

/-- Take in a member of an entry; a delete takes in relations only. -/
def bindMember (run : String → Chain → Entry → Mutating σ EntityRecord) (action : Action)
    (r : EntityRecord) (field : String) (v : Json) : Mutating σ EntityRecord :=
  match gate.persistence.schema.association? action.entityType field with
  | some a => gate.bindRelation run action a r v
  | none =>
    if action.chain = .delete then return r else gate.bindValue action r field v

/-! ## Entities -/

/-- Write a record with the store call of its chain; the row that is stored. -/
def writeRecord (chain : Chain) (r : EntityRecord) : StoreCall σ Json :=
  match chain with
  | .create => gate.persistence.insert r
  | .update => gate.persistence.update r
  | .delete => do
    gate.persistence.remove r
    return r.toRow
  | .read => return r.toRow

/-- What the cache keeps of an entity that was written. -/
def remember (chain : Chain) (r : EntityRecord) (row : Json) (cache : CallCache) : CallCache :=
  match r.id with
  | none => cache
  | some id =>
    if chain = .delete then cache.forget r.entityType id else cache.store r.entityType row

/-- Write a record between its two events; the record as it is stored. -/
def persist (action : Action) (r : EntityRecord) : Mutating σ EntityRecord := do
  let payload ← ofEffect (gate.publish .beforePersist action.entityType r.toRow)
  let r := match payload with
    | .obj fields => r.withFields fields
    | _ => r
  let row ← ofStore (gate.writeRecord action.chain r)
  let r := match row with
    | .obj fields => r.withFields fields
    | _ => r
  let r := { r with id := row.get? "id" <|> r.id }
  modify (remember action.chain r row)
  let _ ← ofEffect (gate.publish .afterPersist action.entityType row)
  return r

/-- Bind an entry and write its record. -/
def bindEntry (run : String → Chain → Entry → Mutating σ EntityRecord) (action : Action)
    (e : Entry) : Mutating σ EntityRecord := do
  let r ← gate.startRecord action e
  let r ← e.members.foldlM (fun r (field, v) => gate.bindMember run action r field v) r
  let r ← ofDecision (r.prepared gate.registry gate.validator action)
  gate.persist action r

/-! ## Batches -/

/-- Run one entry of a chain request; `next` runs batches.  A chain that reads only loads the
entity. -/
def runEntry (next : EntityConfig → Batch → Mutating σ (List EntityRecord))
    (frontEnd : FrontEndOptions) (target : String) (chain : Chain) (e : Entry) :
    Mutating σ EntityRecord := do
  let config ← ofDecision (gate.config.entity target)
  let b := Batch.nested target chain e frontEnd
  if chain = .read then
    ofDecision (config.checkReadChain gate.registry b)
    match e.id with
    | none => throw (.invalidParams (.unidentified chain.name target))
    | some id =>
      let r := EntityRecord.ofRow target (← gate.load target id)
      return r.withFields r.fields
  else
    match (← next config b).getLast? with
    | some r => return r
    | none => throw (.invalidParams (.noRecord chain.name target))

/-- Run a batch, following chain requests down to some number of levels. -/
def runBatch : Nat → EntityConfig → Batch → Mutating σ (List EntityRecord)
  | 0, _, _ => throw .nestedTooDeeply
  | levels + 1, config, b => do
    let rules ← ofDecision (config.mutationRules b.chain)
    let action := Action.ofBatch rules b
    ofDecision (action.checkAllowed gate.registry)
    ofDecision (action.checkSize gate.registry (b.batchMax rules) b.entries.length)
    let wanted ← ofDecision (Resolve.findBool? gate.registry action.ctx "prePopulateEntities"
      (b.layers rules "prePopulateEntities"))
    if wanted.getD true then gate.prefetch b
    b.entries.mapM (gate.bindEntry (gate.runEntry (runBatch levels) b.frontEnd) action)

end Gate

end EntityGate
