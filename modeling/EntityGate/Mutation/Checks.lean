/-
# Checks of mutations

The questions that are asked before an entity is changed: whether the action is allowed and the
batch is not too large, whether a field may be set, whether a relation may carry a chain, and
whether the related entity may be assigned in the way that is asked for.
-/
import EntityGate.Mutation.Batch
import EntityGate.Permission.Check

namespace EntityGate

namespace Entry

/-- An entry without its directives, and the assignment it asks for: the one it names, or the
one that is usual for the chain. -/
def takeAssign (e : Entry) (chain : Chain) (toMany : Bool) :
    Except Fault (Option Assign × Entry) :=
  let rest : Entry :=
    ⟨e.id, directives.foldl (fun fields key => Json.eraseField key fields) e.fields⟩
  match Json.lookup "assignType" e.fields with
  | none | some .null => .ok (Assign.defaultFor chain toMany, rest)
  | some (.str name) => do return (some (← Assign.ofName name), rest)
  | some other => .error (.unknownAssignType other.compact)

/-- The fields that hold values or chain requests: all but the id and the directives. -/
def members (e : Entry) : List (String × Json) :=
  e.fields.filter fun entry => entry.1 ≠ "id" && entry.1 ∉ directives

end Entry

/-- The chain requests that the value of a relation holds, by chain name. -/
def chainRequests (relation : String) (v : Json) : Except Fault (List (String × Json)) :=
  match Entry.expandScalar v with
  | .obj chains => .ok chains
  | _ => .error (.invalidParams (.chainExpected relation))

namespace Action

variable (registry : Registry) (action : Action)

/-- Refuse an action that is not allowed. -/
def checkAllowed : Except Fault Unit := do
  let allowed ← Resolve.bool? registry action.ctx "allowed" action.node.allowed
  if allowed.getD true then return ()
  else throw (.actionNotAllowed action.entityType action.chain.name)

/-- Refuse a batch of more entries than a setting allows. -/
def checkSize (batchMax : Setting?) (size : Nat) : Except Fault Unit := do
  match ← Resolve.nat? registry action.ctx "batchMax" batchMax with
  | none => return ()
  | some max => if max < size then throw (.batchTooLarge size max) else return ()

/-- Whether a field may be set: as the field says, first by `allowed` and then by `permissive`,
else as the action is permissive. -/
def fieldAllowed (field : String) : Except Fault Bool := do
  let ctx := action.fieldContext field
  let own ← match action.node.field? field with
    | none => pure none
    | some layer => do
      match ← Resolve.bool? registry ctx "allowed" layer.allowed with
      | some answer => pure (some answer)
      | none => Resolve.bool? registry ctx "permissive" layer.permissive
  match own with
  | some answer => return answer
  | none => return (← Resolve.bool? registry ctx "permissive" action.node.permissive).getD false

/-- Refuse a field that may not be set. -/
def checkField (field : String) : Except Fault Unit := do
  if ← action.fieldAllowed registry field then return ()
  else throw (.fieldNotAllowed action.entityType field)

/-- Whether a target of a bucket is allowed on a relation. -/
def relationAllows (bucket : Bucket) (relation target : String) : Except Fault Bool :=
  Permission.bucketCheck registry action.node.toLayer (action.node.field? relation) bucket target
    (action.fieldContext relation)

/-- The chain with a name, if it is allowed on a relation. -/
def checkChain (relation name : String) : Except Fault Chain := do
  let chain ← Chain.ofName name
  if ← action.relationAllows registry .chain relation chain.name then return chain
  else throw (.chainTypeNotAllowed relation chain.name)

/-- Refuse an assignment that is not allowed on a relation. -/
def checkAssign (relation : String) (assign : Assign) : Except Fault Unit := do
  if ← action.relationAllows registry .assign relation assign.name then return ()
  else throw (.assignTypeNotAllowed relation assign.name)

/-- The chain and the entries of one chain request. -/
def openChain (relation name : String) (params : Json) : Except Fault (Chain × List Entry) := do
  let chain ← action.checkChain registry relation name
  return (chain, ← Entry.ofParams chain params)

/-- An entry of a chain request without its directives, and its assignment, which has to be
allowed. -/
def openEntry (a : Association) (chain : Chain) (e : Entry) :
    Except Fault (Option Assign × Entry) := do
  let (assign, e) ← e.takeAssign chain a.toMany
  match assign with
  | some assign => action.checkAssign registry a.name assign
  | none => pure ()
  return (assign, e)

end Action

/-- Refuse a chain that reads entities whose reading is not allowed; the options of the call are
not seen. -/
def EntityConfig.checkReadChain (config : EntityConfig) (registry : Registry) (b : Batch) :
    Except Fault Unit := do
  let ctx := Context.ofCall b.params (.writeTable Setting.toJson config.read.options) .null
    b.frontEnd.toJson
  let allowed ← Resolve.bool? registry ctx "read.permissions.allowed"
    config.read.permissions.allowed
  if allowed.getD true then return () else throw (.actionNotAllowed b.entityType "read")

end EntityGate
