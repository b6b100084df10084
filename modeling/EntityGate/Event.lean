/-
# Events

Listeners observe and adjust a request while it runs.  At six points of a request a payload is
published; the listeners of that event get it one after the other, in the order of their
subscription, each the payload that the one before it returned.  A listener that fails ends the
request.
-/
import EntityGate.Store.Persistence

namespace EntityGate

/-- The points of a request where listeners run. -/
inductive Event where
  /-- Before a field is set; the payload holds the field and its value. -/
  | beforeSetField
  /-- Before a chain request is processed; the payload holds the relation and the params. -/
  | beforeProcessAssociationParams
  /-- Before a record is written; the payload is its row. -/
  | beforePersist
  /-- After a record was written; the payload is the stored row. -/
  | afterPersist
  /-- Before results are returned; the payload is the list of rows. -/
  | beforeToArray
  /-- After results were prepared; the payload is the final list. -/
  | afterToArray
deriving DecidableEq, Repr

namespace Event

/-- All events. -/
def all : List Event :=
  [beforeSetField, beforeProcessAssociationParams, beforePersist, afterPersist, beforeToArray,
    afterToArray]

/-- The name of an event. -/
def name : Event → String
  | beforeSetField => "before_set_field"
  | beforeProcessAssociationParams => "before_process_association_params"
  | beforePersist => "before_persist"
  | afterPersist => "after_persist"
  | beforeToArray => "before_to_array"
  | afterToArray => "after_to_array"

/-- The event with a name. -/
def ofName? (s : String) : Option Event := all.find? fun e => e.name = s

end Event

/-- A listener gets an event, the type of entity it is about and a payload, and returns the
payload that is passed on. -/
abbrev Listener (σ : Type) : Type := Event → String → Json → Effect σ Json

/-- A listener and the event it listens to; without one it listens to all. -/
structure Subscription (σ : Type) where
  event : Option Event
  listener : Listener σ

/-- The listeners in the order of their subscription. -/
abbrev EventBus (σ : Type) : Type := List (Subscription σ)

namespace EventBus

variable {σ : Type}

/-- Whether a subscription is for an event. -/
def listens (s : Subscription σ) (event : Event) : Bool :=
  match s.event with
  | none => true
  | some e => e = event

/-- Publish a payload and return what the listeners made of it. -/
def publish (bus : EventBus σ) (event : Event) (entityType : String) (payload : Json) :
    Effect σ Json :=
  (bus.filter fun s => listens s event).foldlM
    (fun payload s => s.listener event entityType payload) payload

end EventBus

end EntityGate
