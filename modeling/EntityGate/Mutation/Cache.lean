/-
# The cache of a call

While a mutation runs, the rows that it has loaded or written are kept by type and id, so that
no entity is looked up twice.  Rows without an id are not kept.
-/
import EntityGate.Mutation.Entry
import EntityGate.Table

namespace EntityGate

/-- The rows that a mutation has seen, by type and by the text of their id. -/
structure CallCache where
  tables : Table (Table Json)

namespace CallCache

/-- The cache without rows. -/
def empty : CallCache := ⟨.empty⟩

instance : Inhabited CallCache := ⟨empty⟩

/-- The rows of a type by the text of their id. -/
def table (cache : CallCache) (entityType : String) : Table Json :=
  (cache.tables.get? entityType).getD .empty

/-- The row of an entity. -/
def row? (cache : CallCache) (entityType : String) (id : Json) : Option Json :=
  (cache.table entityType).get? (idKey id)

/-- Keep a row under its id. -/
def store (cache : CallCache) (entityType : String) (row : Json) : CallCache :=
  match row.get? "id" with
  | some id => ⟨cache.tables.insert entityType ((cache.table entityType).insert (idKey id) row)⟩
  | none => cache

/-- Forget the row of an entity. -/
def forget (cache : CallCache) (entityType : String) (id : Json) : CallCache :=
  match cache.tables.get? entityType with
  | some rows => ⟨cache.tables.insert entityType (rows.erase (idKey id))⟩
  | none => cache

/-- The number of rows of a type. -/
def count (cache : CallCache) (entityType : String) : Nat := (cache.table entityType).size

end CallCache

end EntityGate
