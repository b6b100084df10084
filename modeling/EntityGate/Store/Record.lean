/-
# Records of entities

What a mutation hands to the store: the fields of one entity and the changes of its relations
that are applied together with the write.  A row is the object that is stored for an entity; its
id stands among the fields.
-/
import EntityGate.Json.Record
import EntityGate.Mutation.Entry

namespace EntityGate

/-- A change of a relation. -/
structure Change where
  relation : String
  assign : Assign
  /-- The id of the related entity. -/
  target : Option Json

/-- One entity on its way into the store, or back from it. -/
structure EntityRecord where
  entityType : String
  /-- Missing until the entity is inserted. -/
  id : Option Json
  /-- The values of the fields, in key order. -/
  fields : List (String × Json)
  changes : List Change
  /-- How the record is attached to its parent. -/
  assign : Option Assign

/-- A page of rows, with the number of all rows if it was asked for. -/
structure ResultPage where
  count : Option Nat
  rows : List Json

namespace Change

/-- The change that clears a relation. -/
def clear (relation : String) : Change := ⟨relation, .setNull, none⟩

/-- The value that describes a change. -/
def toJson (c : Change) : Json :=
  .ofFields [("relation", .str c.relation), ("mutator", .str (c.assign.mutator c.relation)),
    ("assign", .str c.assign.name), ("target", c.target.getD .null)]

end Change

namespace EntityRecord

/-- The record of an entity that is still to be filled. -/
def ofType (entityType : String) : EntityRecord := ⟨entityType, none, [], [], none⟩

/-- The record of a stored row; the id is also left among the fields. -/
def ofRow (entityType : String) (row : Json) : EntityRecord :=
  let fields := row.fields?.getD []
  ⟨entityType, Json.lookup "id" fields, fields, [], none⟩

/-- The row of a record, its id put among the fields. -/
def toRow (r : EntityRecord) : Json :=
  .obj (match r.id with
    | some id => Json.insertField "id" id r.fields
    | none => r.fields)

/-- The record with other fields, an id among them being dropped. -/
def withFields (r : EntityRecord) (fields : List (String × Json)) : EntityRecord :=
  { r with fields := Json.eraseField "id" fields }

/-- The record with the value of a field. -/
def setField (r : EntityRecord) (field : String) (value : Json) : EntityRecord :=
  { r with fields := Json.insertField field value r.fields }

/-- The record with one more change. -/
def addChange (r : EntityRecord) (c : Change) : EntityRecord :=
  { r with changes := r.changes ++ [c] }

/-- The value that describes a record. -/
def toJson (r : EntityRecord) : Json :=
  .ofFields ([("entity_type", .str r.entityType), ("id", r.id.getD .null),
      ("fields", .obj r.fields), ("changes", .arr (r.changes.map Change.toJson))] ++
    Json.writeOption "assign" (fun a => .str a.name) r.assign)

end EntityRecord

end EntityGate
