/-
# Permission checks

How the two layers answer together.  An explicit entry of the field layer decides.  Where it
has none, a permissive field allows whatever the aggregate does not deny, and any other field
needs the aggregate to allow the target or to be permissive.  Hooks come first: `mutate`
replaces the value, then a `closure` that evaluates to `false` refuses it whatever the flags say.
-/
import EntityGate.Permission.Basic

namespace EntityGate.Permission

open Resolve

variable (registry : Registry)

/-- A value after the hooks, and whether it was refused. -/
structure Hooked where
  value : Json
  vetoed : Bool

/-- What a permission check found. -/
structure Verdict where
  allowed : Bool
  vetoed : Bool
  /-- The value after `mutate`. -/
  value : Json

/-- Run `mutate` and then `closure` on a value; a hook that the field layer lacks is taken from
the aggregate. -/
def applyHooks (aggregate : Layer) (field : Option Layer) (value : Json) (ctx : Context) :
    Except Fault Hooked := do
  let mutate := (field.bind fun f => f.hooks.mutate) <|> aggregate.hooks.mutate
  let closure := (field.bind fun f => f.hooks.closure) <|> aggregate.hooks.closure
  let value ← match mutate with
    | some s => s.resolve registry (ctx.withExtra "value" value)
    | none => pure value
  let vetoed ← match closure with
    | some s => do
      let answer ← s.resolve registry (ctx.withExtra "value" value)
      pure (answer == .bool false)
    | none => pure false
  return ⟨value, vetoed⟩

/-- Whether a target of a bucket is allowed. -/
def bucketCheck (aggregate : Layer) (field : Option Layer) (bucket : Bucket) (target : String)
    (ctx : Context) : Except Fault Bool := do
  let setting := bucket.name ++ "." ++ target
  let ctx := ctx.withExtra "target" (.str target)
  let explicit ← bool? registry ctx setting (field.bind fun f => (f.bucket bucket).get? target)
  match explicit with
  | some answer => return answer
  | none =>
    let fieldPermissive ← bool? registry ctx "permissive" (field.bind fun f => f.permissive)
    let entry ← bool? registry ctx setting ((aggregate.bucket bucket).get? target)
    if fieldPermissive = some true then return entry ≠ some false
    else if entry = some true then return true
    else
      let permissive ← bool? registry ctx "permissive" aggregate.permissive
      return permissive.getD false

/-- Hooks on the value, then the bucket. -/
def check (aggregate : Layer) (field : Option Layer) (bucket : Bucket) (target : String)
    (value : Json) (ctx : Context) : Except Fault Verdict := do
  let hooked ← applyHooks registry aggregate field value ctx
  if hooked.vetoed then return ⟨false, true, hooked.value⟩
  else
    let allowed ← bucketCheck registry aggregate field bucket target
      (ctx.withExtra "value" hooked.value)
    return ⟨allowed, false, hooked.value⟩

/-- The `allowed` flag of a field if it is set, else whether the aggregate is permissive. -/
def allowedCheck (aggregate : Layer) (fieldAllowed : Setting?) (ctx : Context) :
    Except Fault Bool := do
  match ← bool? registry ctx "allowed" fieldAllowed with
  | some answer => return answer
  | none =>
    let permissive ← bool? registry ctx "permissive" aggregate.permissive
    return permissive.getD false

end EntityGate.Permission
