/-
# Hooks of mutations

What happens to values between a request and the store.  A field passes `mutate`, `closure`,
`enforce` and `setTo` of its own layer; an entity then passes those of its action, and the
validator.  Hooks see the value under `value`, each the value as it is at that point.
-/
import EntityGate.Gate.Basic
import EntityGate.Mutation.Checks
import EntityGate.Store.Record

namespace EntityGate

namespace Hooks

variable (registry : Registry)

/-- The value that `mutate` makes of a value; the value itself without the hook. -/
def mutated (hooks : Hooks) (ctx : Context) (v : Json) : Except Fault Json :=
  match hooks.mutate with
  | some s => s.resolve registry (ctx.withExtra "value" v)
  | none => .ok v

/-- Refuse a value for which `closure` is `false`; `field` is what the fault names. -/
def checkClosure (hooks : Hooks) (ctx : Context) (field : String) : Except Fault Unit := do
  match hooks.closure with
  | some s => if (← s.resolve registry ctx) == .bool false then throw (.closureVeto field)
  | none => return ()

/-- The value of a field after the hooks of its layer. -/
def onField (hooks : Hooks) (ctx : Context) (field : String) (v : Json) : Except Fault Json := do
  let v ← hooks.mutated registry ctx v
  let ctx := ctx.withExtra "value" v
  hooks.checkClosure registry ctx field
  match ← Resolve.value? registry ctx hooks.enforce with
  | some expected => if !(expected == v) then throw (.enforcementViolation field expected v)
  | none => pure ()
  return (← Resolve.value? registry ctx hooks.setTo).getD v

/-- Refuse the first field that does not hold its enforced value; a missing field holds
`null`. -/
def checkEnforced (fields : List (String × Json)) :
    List (String × Json) → Except Fault Unit
  | [] => .ok ()
  | (field, expected) :: rest =>
    let actual := (Json.lookup field fields).getD .null
    if actual == expected then checkEnforced fields rest
    else .error (.enforcementViolation field expected actual)

/-- The entries that a hook resolves to; none if it is no object. -/
def entriesOf (s : Setting?) (ctx : Context) : Except Fault (List (String × Json)) := do
  match ← Resolve.value? registry ctx s with
  | some (.obj fields) => return fields
  | _ => return []

end Hooks

namespace Validation

/-- The rules that apply: those of the listed fields, or all if none are listed. -/
def applied (v : Validation) : Validation :=
  if v.fields.isEmpty then v
  else { v with rules := v.rules.filter fun field => field ∈ v.fields }

end Validation

namespace EntityRecord

variable (registry : Registry) (validator : Validator)

/-- The record with what `mutate` makes of its row, if that is an object. -/
def mutated (hooks : Hooks) (ctx : Context) (r : EntityRecord) : Except Fault EntityRecord := do
  match hooks.mutate with
  | none => return r
  | some s =>
    match ← s.resolve registry (ctx.withExtra "value" r.toRow) with
    | .obj fields => return r.withFields fields
    | _ => return r

/-- Refuse a record that the validator finds fault with. -/
def validated (hooks : Hooks) (r : EntityRecord) : Except Fault Unit :=
  match hooks.validate with
  | none => .ok ()
  | some v =>
    match validator r.fields v.applied with
    | [] => .ok ()
    | messages => .error (.validationFailed r.entityType messages)

/-- The record after the hooks of its action; one that is to be deleted is only judged. -/
def prepared (action : Action) (r : EntityRecord) : Except Fault EntityRecord := do
  let hooks := action.node.hooks
  let writes := action.chain ≠ .delete
  let r ← if writes then r.mutated registry hooks action.ctx else pure r
  let ctx := action.ctx.withExtra "value" r.toRow
  hooks.checkClosure registry ctx action.entityType
  Hooks.checkEnforced r.fields (← Hooks.entriesOf registry hooks.enforce ctx)
  if writes then
    let forced ← Hooks.entriesOf registry hooks.setTo ctx
    let r := forced.foldl (fun r entry => r.setField entry.1 entry.2) r
    r.validated validator hooks
    return r
  else return r

end EntityRecord

end EntityGate
