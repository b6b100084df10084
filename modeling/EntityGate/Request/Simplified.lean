/-
# Simplified params

Params may be written without chains: an item of a relation is created if it has no id, read if
it has nothing else, and updated otherwise, unless it names its chain itself.  Expanding puts
every item under its chain and gives it an assignment if it has none.
-/
import EntityGate.Mutation.Entry

namespace EntityGate.Simplified

/-- The chain that an item names. -/
def explicitChain? (fields : List (String × Json)) : Except Fault (Option Chain) :=
  match Json.lookup "chainType" fields with
  | none | some .null => .ok none
  | some (.str name) => do return some (← Chain.ofName name)
  | some other => .error (.unknownChainType other.compact)

/-- The fields of an item of a relation: a bare id is an item that has nothing else. -/
def itemFields : Json → Except Fault (List (String × Json))
  | .obj fields => .ok fields
  | .str s => .ok [("id", .str s)]
  | .num n => .ok [("id", .num n)]
  | other => .error (.invalidParams (.relationEntry other))

/-- An item of a relation, sorted out. -/
structure Item where
  chain : Chain
  id : Option Json
  /-- The fields that are left, the assignment among them. -/
  fields : List (String × Json)

/-- Sort an item out: its chain, its id and the other fields. -/
def Item.of (fields : List (String × Json)) (defaultAssign : String) : Except Fault Item := do
  let explicit ← explicitChain? fields
  let id := Entry.idOf? fields
  let fields := Json.eraseField "id" (Json.eraseField "chainType" fields)
  let hasValues := fields.any fun entry => entry.1 ≠ "assignType"
  let chain := match explicit, id with
    | some chain, _ => chain
    | none, none => .create
    | none, some _ => if hasValues then .update else .read
  let fields :=
    if chain ≠ .delete ∧ (Json.lookup "assignType" fields).isNone then
      Json.insertField "assignType" (.str defaultAssign) fields
    else fields
  return ⟨chain, id, fields⟩

/-- Put an expanded item under its chain: created items are listed, the others stand under
their ids. -/
def place (chains : List (String × Json)) (item : Item) (fields : List (String × Json)) :
    Except Fault (List (String × Json)) :=
  let slot := Json.lookup item.chain.name chains
  match item.chain, item.id with
  | .create, _ =>
    .ok (Json.insertField "create"
      (.arr ((slot.bind Json.items?).getD [] ++ [.obj fields])) chains)
  | chain, some id =>
    .ok (Json.insertField chain.name
      (.obj (Json.insertField (idKey id) (.obj fields) ((slot.bind Json.fields?).getD [])))
      chains)
  | chain, none => .error (.invalidParams (.missingChainId chain.name))

/-- Expand the items of a relation into its chains, in order. -/
def expandItems (expandFields : List (String × Json) → Except Fault (List (String × Json)))
    (defaultAssign : String) (items : List Json) : Except Fault Json := do
  let chains ← items.foldlM (fun chains v => do
    let item ← Item.of (← itemFields v) defaultAssign
    place chains item (← expandFields item.fields)) []
  return .obj chains

/-- Expand the value of a relation: a list adds its items, an object sets one; a bare id and
`null` stay as they are. -/
def expandRelation (expandFields : List (String × Json) → Except Fault (List (String × Json))) :
    Json → Except Fault Json
  | .arr items => expandItems expandFields "addSingle" items
  | .obj fields => expandItems expandFields "set" [.obj fields]
  | other => .ok other

/-- Expand the relations among the fields of an entity, down to some depth. -/
def expandFields (schema : Schema) : Nat → String → List (String × Json) →
    Except Fault (List (String × Json))
  | 0, _, fields => .ok fields
  | depth + 1, entityType, fields =>
    fields.mapM fun (name, v) => do
      match schema.association? entityType name with
      | some a => return (name, ← expandRelation (expandFields schema depth a.target) v)
      | none => return (name, v)

/-- An entity to update, read or delete: its id and its other fields. -/
def identified (chain : Chain) : Json → Except Fault (Json × List (String × Json))
  | .obj fields =>
    match Entry.idOf? fields with
    | some id => .ok (id, Json.eraseField "id" fields)
    | none => .error (.invalidParams (.missingId chain.name))
  | .str s => .ok (.str s, [])
  | .num n => .ok (.num n, [])
  | other => .error (.invalidParams (.invalidEntry chain.name other))

/-- An entity to create: its fields. -/
def created : Json → Except Fault (List (String × Json))
  | .obj fields => .ok fields
  | _ => .error (.invalidParams .createEntries)

/-- The items of simplified params: a list, or one object. -/
def items? : Json → Option (List Json)
  | .arr items => some items
  | .obj fields => some [.obj fields]
  | _ => none

/-- The params with chains that simplified params stand for. -/
def expand (schema : Schema) (entityType : String) (chain : Chain) (params : Json) :
    Except Fault Json := do
  let expandFields := expandFields schema (params.depth + 1) entityType
  match params with
  | .null => return .null
  | _ =>
    match items? params with
    | none => throw (.invalidParams (.simplifiedParams params))
    | some items =>
      if chain = .create then
        return .arr (← items.mapM fun v => do return .obj (← expandFields (← created v)))
      else
        let byId ← items.foldlM (fun byId v => do
          let (id, fields) ← identified chain v
          return Json.insertField (idKey id) (.obj (← expandFields fields)) byId) []
        return .obj byId

end EntityGate.Simplified
