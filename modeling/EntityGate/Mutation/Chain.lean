/-
# Chains and assignments

A relation of an entity may carry a chain request: the related entities are created, read,
updated or deleted first and then assigned to the relation.  Here are the kinds of chains and of
assignments, and the schema that says which fields are relations.
-/
import EntityGate.Fault
import EntityGate.Table
import EntityGate.Text.Case

namespace EntityGate

/-- What happens to an entity. -/
inductive Chain where
  | create
  | read
  | update
  | delete
deriving DecidableEq, Repr

namespace Chain

/-- The name of a chain. -/
def name : Chain → String
  | create => "create"
  | read => "read"
  | update => "update"
  | delete => "delete"

/-- The chain with a name. -/
def ofName? : String → Option Chain
  | "create" => some create
  | "read" => some read
  | "update" => some update
  | "delete" => some delete
  | _ => none

/-- The chain with a name, other names being unknown. -/
def ofName (s : String) : Except Fault Chain :=
  match ofName? s with
  | some c => .ok c
  | none => .error (.unknownChainType s)

end Chain

/-- How a related entity is attached to its parent. -/
inductive Assign where
  | set
  | add
  | remove
  | setSingle
  | addSingle
  | removeSingle
  | setNull
  /-- The chain runs, and nothing is attached. -/
  | null
deriving DecidableEq, Repr

namespace Assign

/-- The name of an assignment. -/
def name : Assign → String
  | set => "set"
  | add => "add"
  | remove => "remove"
  | setSingle => "setSingle"
  | addSingle => "addSingle"
  | removeSingle => "removeSingle"
  | setNull => "setNull"
  | null => "null"

/-- The assignment with a name. -/
def ofName? : String → Option Assign
  | "set" => some set
  | "add" => some add
  | "remove" => some remove
  | "setSingle" => some setSingle
  | "addSingle" => some addSingle
  | "removeSingle" => some removeSingle
  | "setNull" => some setNull
  | "null" => some null
  | _ => none

/-- The assignment with a name, other names being unknown. -/
def ofName (s : String) : Except Fault Assign :=
  match ofName? s with
  | some a => .ok a
  | none => .error (.unknownAssignType s)

/-- Whether an assignment addresses one element by the singular of the relation. -/
def isSingle : Assign → Bool
  | setSingle | addSingle | removeSingle => true
  | _ => false

/-- The verb of the mutator. -/
def verb : Assign → String
  | set | setSingle | setNull | null => "set"
  | add | addSingle => "add"
  | remove | removeSingle => "remove"

/-- A text without one `s` at its end. -/
def singular (s : String) : String :=
  match s.toList.reverse with
  | 's' :: rest => String.ofList rest.reverse
  | _ => s

/-- The name of the mutator that makes an assignment to a relation. -/
def mutator (a : Assign) (relation : String) : String :=
  a.verb ++ Text.capitalize (if a.isSingle then singular relation else relation)

/-- Whether an assignment changes the relation. -/
def attaches (a : Assign) : Bool := a ≠ null

/-- The assignment of a chain entry that names none; a deleted entity is not assigned. -/
def defaultFor : Chain → Bool → Option Assign
  | .delete, _ => none
  | _, true => some addSingle
  | _, false => some set

end Assign

/-- A field that holds related entities. -/
structure Association where
  name : String
  /-- The type of the related entities. -/
  target : String
  /-- Whether the field holds a collection. -/
  toMany : Bool
deriving DecidableEq, Repr

/-- The value that describes an association. -/
def Association.toJson (a : Association) : Json :=
  .ofFields [("name", .str a.name), ("target", .str a.target), ("to_many", .bool a.toMany)]

/-- The associations of each type of entity. -/
abbrev Schema : Type := String → List Association

namespace Schema

/-- The schema with the associations listed for each type. -/
def ofTable (table : Table (List Association)) : Schema :=
  fun entityType => (table.get? entityType).getD []

/-- The association of a type under a field name. -/
def association? (schema : Schema) (entityType name : String) : Option Association :=
  (schema entityType).find? fun a => a.name = name

end Schema

end EntityGate
