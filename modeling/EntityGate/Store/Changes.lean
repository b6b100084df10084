/-
# Changes of relations on rows

A field that holds one entity holds its id or `null`; a field that holds a collection holds the
list of the ids.  Ids are the same when their texts are.  An assignment that attaches nothing
leaves the row alone, and one to a field that is no association is refused.
-/
import EntityGate.Store.Record

namespace EntityGate

namespace Assign

/-- Whether an assignment takes entities away. -/
def removes : Assign → Bool
  | remove | removeSingle => true
  | _ => false

/-- The value of a field that holds one entity, after an assignment. -/
def applyOne (a : Assign) (current : Option Json) (target : Json) : Json :=
  if a = setNull then .null
  else if a.removes then
    match current with
    | some id => if idKey id = idKey target then .null else id
    | none => .null
  else target

/-- A list of ids without the first that has the text of an id. -/
def removeId (target : Json) : List Json → List Json
  | [] => []
  | id :: rest => if idKey id = idKey target then rest else id :: removeId target rest

/-- A list of ids with one more, unless its text is already there. -/
def addId (target : Json) (ids : List Json) : List Json :=
  if ids.any fun id => idKey id = idKey target then ids else ids ++ [target]

/-- The ids of a collection after an assignment. -/
def applyMany (a : Assign) (ids : List Json) (target : Json) : List Json :=
  match a with
  | setNull => []
  | set | setSingle => [target]
  | add | addSingle => addId target ids
  | remove | removeSingle => removeId target ids
  | null => ids

end Assign

namespace Change

/-- The value of the relation after a change. -/
def newValue (c : Change) (toMany : Bool) (current : Option Json) : Json :=
  let target := c.target.getD .null
  if toMany then .arr (c.assign.applyMany ((current.bind Json.items?).getD []) target)
  else c.assign.applyOne current target

/-- The fields of a row after a change. -/
def apply (schema : Schema) (entityType : String) (fields : List (String × Json)) (c : Change) :
    Except String (List (String × Json)) :=
  if !c.assign.attaches then .ok fields
  else match schema.association? entityType c.relation with
    | some a =>
      .ok (Json.insertField c.relation (c.newValue a.toMany (Json.lookup c.relation fields))
        fields)
    | none => .error ("unknown association '" ++ c.relation ++ "' on '" ++ entityType ++ "'")

/-- The fields of a row after some changes, one after the other. -/
def applyAll (schema : Schema) (entityType : String) (fields : List (String × Json))
    (changes : List Change) : Except String (List (String × Json)) :=
  changes.foldlM (apply schema entityType) fields

end Change

end EntityGate
