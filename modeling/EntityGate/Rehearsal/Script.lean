/-
# Scripted collaborators

The parts that a rehearsal plays instead of an application: listeners that follow a script, two
callables, and a validator that rejects every field with rules.
-/
import EntityGate.Event
import EntityGate.Rehearsal.Stage
import EntityGate.Setting.Callable
import EntityGate.Validate.Rule

namespace EntityGate.Rehearsal

/-- What a scripted listener does with a payload. -/
inductive Reaction where
  /-- Write the event down. -/
  | log
  /-- Put a value under a key of an object. -/
  | set (key : String) (value : Json)
  /-- Remove a key of an object. -/
  | remove (key : String)
  /-- Pass another payload on. -/
  | replace (value : Json)
  /-- Fail with a text. -/
  | fail (text : String)
  /-- Refuse a field of the entity. -/
  | deny (field : String)

/-- A listener that follows a script. -/
structure ScriptedListener where
  /-- The event it listens to, or all. -/
  event : Option Event
  /-- The type of entity it reacts to, or all. -/
  entityType : Option String
  /-- The field or relation it reacts to, or all. -/
  subject : Option Json
  reaction : Reaction

namespace ScriptedListener

variable {σ : Type}

/-- What a payload is about: its field, or its relation if it has no field. -/
def subjectOf? (payload : Json) : Option Json := payload.get? "field" <|> payload.get? "relation"

/-- Whether a listener reacts. -/
def reacts (l : ScriptedListener) (entityType : String) (payload : Json) : Bool :=
  (match l.entityType with
    | none => true
    | some e => e = entityType) &&
  (match l.subject with
    | none => true
    | some v => match subjectOf? payload with
      | none => false
      | some w => v == w)

/-- What a reaction makes of a payload. -/
def react (event : Event) (entityType : String) (payload : Json) :
    Reaction → Effect (Stage σ) Json
  | .log => do
    modify fun s => { s with notes := s.notes ++ [⟨event.name, entityType, payload⟩] }
    return payload
  | .set key value => return payload.insert key value
  | .remove key => return payload.erase key
  | .replace value => return value
  | .fail text => throw (.execution text)
  | .deny field => throw (.fieldNotAllowed entityType field)

/-- The listener as a subscription. -/
def subscription (l : ScriptedListener) : Subscription (Stage σ) where
  event := l.event
  listener := fun event entityType payload =>
    if l.reacts entityType payload then react event entityType payload l.reaction
    else return payload

end ScriptedListener

/-- A callable that always fails. -/
def boom : Callable := fun _ _ => .error "exploded"

/-- Whether the role in the overrides is that of an administrator. -/
def isAdmin : Callable := fun _ ctx =>
  .ok (.bool (((ctx.lookup "optionOverrides.role").getD .null) == .str "admin"))

/-- The built-in callables and the two of the script. -/
def registry : Registry := (Registry.standard.register "boom" boom).register "is_admin" isAdmin

/-- The validator that rejects every field with rules. -/
def rejectAll : Validator := fun _ v => v.rules.keys.map fun field => field ++ " rejected"

end EntityGate.Rehearsal
