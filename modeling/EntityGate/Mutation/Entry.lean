/-
# Entries of mutations

The params of a create are field maps; those of the other chains name entities by id, as a map
from ids to field maps or as a list.  Either way they come down to entries: an id, if there is
one, and fields.  A bare id on a relation is short for reading that entity and setting it.
-/
import EntityGate.Mutation.Chain

namespace EntityGate

/-- One entity of a mutation. -/
structure Entry where
  id : Option Json
  /-- The fields, in key order. -/
  fields : List (String × Json)

/-- The text that an id is known by. -/
def idKey (id : Json) : String := id.textOrCompact

namespace Entry

/-- The keys of a chain entry that say how it is processed. -/
def directives : List String := ["assignType", "chainType"]

/-- The id among some fields, `null` being none. -/
def idOf? (fields : List (String × Json)) : Option Json :=
  match Json.lookup "id" fields with
  | some .null => none
  | id => id

/-- An item of a create. -/
def ofCreateItem : Json → Except Fault Entry
  | .obj fields => .ok ⟨none, fields⟩
  | other => .error (.invalidParams (.createEntry other))

/-- An entry of a map from ids to fields. -/
def ofIdField (id : String) : Json → Except Fault Entry
  | .obj fields => .ok ⟨some (.str id), fields⟩
  | .null => .ok ⟨some (.str id), []⟩
  | other => .error (.invalidParams (.entryUnderId id other))

/-- An item of a list of entities: fields with an id, or a bare id. -/
def ofIdItem (chain : Chain) : Json → Except Fault Entry
  | .obj fields =>
    match idOf? fields with
    | some id => .ok ⟨some id, Json.eraseField "id" fields⟩
    | none => .error (.invalidParams (.missingId chain.name))
  | .str s => .ok ⟨some (.str s), []⟩
  | .num n => .ok ⟨some (.num n), []⟩
  | other => .error (.invalidParams (.invalidEntry chain.name other))

/-- The entries that the params of a chain hold. -/
def ofParams (chain : Chain) (params : Json) : Except Fault (List Entry) :=
  match chain, params with
  | _, .null => .ok []
  | .create, .arr items => items.mapM ofCreateItem
  | .create, .obj fields => .ok [⟨none, fields⟩]
  | _, .obj fields => fields.mapM fun (id, v) => ofIdField id v
  | _, .arr items => items.mapM (ofIdItem chain)
  | _, other => .error (.invalidParams (.unexpectedParams chain.name other))

/-- The chain request that a bare id on a relation stands for. -/
def expandScalar (v : Json) : Json :=
  match v with
  | .str _ | .num _ =>
    .obj [("read", .obj [(idKey v, .obj [("assignType", .str "set")])])]
  | other => other

end Entry

end EntityGate
