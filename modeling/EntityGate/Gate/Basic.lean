/-
# The gate

A gate stands between requests and a store.  It has a configuration, the callables that settings
may name, a validator and listeners.  What decides about a request without touching the store
are its rules: the configuration, the callables and the schema.
-/
import EntityGate.Config.Document
import EntityGate.Event
import EntityGate.Validate.Rule

namespace EntityGate

/-- What decides about requests. -/
structure Rules where
  config : GateConfig
  registry : Registry
  schema : Schema

/-- A gate to a store with state `σ`. -/
structure Gate (σ : Type) where
  config : GateConfig
  registry : Registry
  persistence : Persistence σ
  validator : Validator
  events : EventBus σ
  /-- How many levels of chain requests listeners may add to those of a request. -/
  addedLevels : Nat
  /-- How many more levels there are for the bare ids that a bare id leads on to. -/
  bareLevels : Nat

namespace Gate

variable {σ : Type}

/-- The number of levels of either kind unless something else is said. -/
def defaultLevels : Nat := 512

/-- The rules of a gate. -/
def rules (gate : Gate σ) : Rules := ⟨gate.config, gate.registry, gate.persistence.schema⟩

/-- The gate with the configurations merged in order; a store has to be given. -/
def build (configs : List GateConfig) (registry : Registry) (persistence : Option (Persistence σ))
    (validator : Validator) (events : EventBus σ) : Except Fault (Gate σ) :=
  match persistence with
  | none => .error (.missingCollaborator "persistence")
  | some p =>
    .ok ⟨configs.foldl GateConfig.merge default, registry, p, validator, events,
      defaultLevels, defaultLevels⟩

/-- Publish an event of a type of entity. -/
def publish (gate : Gate σ) (event : Event) (entityType : String) (payload : Json) :
    Effect σ Json :=
  gate.events.publish event entityType payload

/-- Pass rows through the two events around their return; a payload that is no list counts as a
list of one. -/
def toArray (gate : Gate σ) (entityType : String) (rows : List Json) : Effect σ (List Json) := do
  let rows ← gate.publish .beforeToArray entityType (.arr rows)
  let rows ← gate.publish .afterToArray entityType (.arr rows.toItems)
  return rows.toItems

end Gate

end EntityGate
