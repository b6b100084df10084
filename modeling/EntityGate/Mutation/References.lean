/-
# References

The entities that a batch refers to, by type: the ids of its own entries and those of all chain
requests in it.  They are collected so that each type is looked up once.  What is no chain
request is passed over here; verification is where it is refused.
-/
import EntityGate.Mutation.Batch

namespace EntityGate

/-- Ids by type, in the order of first mention. -/
abbrev References : Type := Table (List Json)

namespace References

/-- Add ids of a type. -/
def add (refs : References) (entityType : String) (ids : List Json) : References :=
  refs.insert entityType ((refs.get? entityType).getD [] ++ ids)

/-- Add what the value of a relation refers to; `next` adds what entries of a chain do. -/
def addRelation (next : Chain → List Entry → References → Option References) (v : Json)
    (refs : References) : Option References :=
  match Entry.expandScalar v with
  | .obj chains => chains.foldlM (fun refs (name, params) =>
      match Chain.ofName? name with
      | none => some refs
      | some chain =>
        match Entry.ofParams chain params with
        | .ok entries => next chain entries refs
        | .error _ => some refs) refs
  | _ => some refs

/-- Add what some entries refer to, down to some number of levels. -/
def addEntries (schema : Schema) : Nat → String → Chain → List Entry → References →
    Option References
  | 0, _, _, _, _ => none
  | levels + 1, entityType, chain, entries, refs =>
    let refs := if chain = .create then refs else refs.add entityType (entries.filterMap Entry.id)
    entries.foldlM (fun refs e => e.fields.foldlM (fun refs (field, v) =>
      match schema.association? entityType field with
      | some a => addRelation (addEntries schema levels a.target) v refs
      | none => some refs) refs) refs

/-- What a batch refers to; none if its chain requests nest more deeply than its levels, with some
more for bare ids.  The entry that a bare id stands for says how it is assigned, and where that is
the name of a relation, it refers to one more entity. -/
def ofBatch? (schema : Schema) (bareLevels : Nat) (b : Batch) : Option References :=
  addEntries schema (b.levels + bareLevels) b.entityType b.chain b.entries .empty

end References

end EntityGate
