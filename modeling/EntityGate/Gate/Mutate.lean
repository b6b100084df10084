/-
# Mutating

A mutation is verified as a whole before the store is touched.  Then it runs, inside a
transaction unless the settings say otherwise: a mutation that fails is rolled back, and one that
succeeds is flushed and committed.  At the end its rows pass the events around their return.
-/
import EntityGate.Mutation.Bind
import EntityGate.Mutation.Verify
import EntityGate.Request.Simplified

namespace EntityGate

namespace Gate

variable {σ : Type} (gate : Gate σ)

/-- Run an effect in a transaction of its own: what it did is committed if it succeeds and
rolled back if it fails.  A fault of the rollback itself is not reported. -/
def inTransaction {α : Type} (e : Effect σ α) : Effect σ α := do
  Effect.ofStore gate.persistence.begin
  fun s =>
    match e s with
    | (.ok a, s) => (do
        Effect.ofStore gate.persistence.commit
        return a : Effect σ α) s
    | (.error fault, s) => (.error fault, (gate.persistence.rollback s).2)

/-- The batch that the params of a mutation describe. -/
def batchOf (entityType : String) (chain : Chain) (params : Json) (overrides : CallOptions)
    (frontEnd : FrontEndOptions) : Except Fault Batch := do
  let params ←
    if frontEnd.isSimplified then
      Simplified.expand gate.persistence.schema entityType chain params
    else pure params
  return ⟨entityType, chain, params, ← Entry.ofParams chain params, overrides, frontEnd⟩

/-- Whether a mutation runs in a transaction, and whether it is flushed. -/
def transactionSettings (config : EntityConfig) (b : Batch) : Except Fault (Bool × Bool) := do
  let rules ← config.mutationRules b.chain
  let ctx := (Action.ofBatch rules b).ctx
  let enabled (setting : String) : Except Fault Bool := do
    return (← Resolve.findBool? gate.registry ctx setting (b.layers rules setting)).getD true
  return (← enabled "transaction", ← enabled "flush")

/-- Run a verified batch and flush it. -/
def runAndFlush (config : EntityConfig) (b : Batch) (flush : Bool) :
    Effect σ (List EntityRecord) := do
  let records ← (gate.runBatch (b.levels + gate.addedLevels) config b).withoutCache
  if flush then Effect.ofStore gate.persistence.flush
  return records

/-- Create, update or delete entities of a type. -/
def mutate (entityType : String) (chain : Chain) (params : Json) (overrides : CallOptions)
    (frontEnd : FrontEndOptions) : Effect σ (List EntityRecord) := do
  let config ← Effect.ofExcept (gate.config.entity entityType)
  let b ← Effect.ofExcept (gate.batchOf entityType chain params overrides frontEnd)
  let _ ← Effect.ofExcept (config.mutationRules chain)
  Effect.ofExcept (gate.rules.verify b.levels config b)
  let (transaction, flush) ← Effect.ofExcept (gate.transactionSettings config b)
  let run := gate.runAndFlush config b flush
  let records ← if transaction then gate.inTransaction run else run
  let _ ← gate.toArray entityType (records.map EntityRecord.toRow)
  return records

/-- Create entities of a type. -/
def create (entityType : String) (params : Json) (overrides : CallOptions)
    (frontEnd : FrontEndOptions) : Effect σ (List EntityRecord) :=
  gate.mutate entityType .create params overrides frontEnd

/-- Update entities of a type. -/
def update (entityType : String) (params : Json) (overrides : CallOptions)
    (frontEnd : FrontEndOptions) : Effect σ (List EntityRecord) :=
  gate.mutate entityType .update params overrides frontEnd

/-- Delete entities of a type. -/
def delete (entityType : String) (params : Json) (overrides : CallOptions)
    (frontEnd : FrontEndOptions) : Effect σ (List EntityRecord) :=
  gate.mutate entityType .delete params overrides frontEnd

end Gate

end EntityGate
