/-
# Records

How typed parts are read out of values.  A record has parts with fixed names; it is written as
an object, where each name occurs at most once and other entries are ignored, or as a list of
its parts in the order of their declaration, where the last ones may be missing.  Each part is
read by a reader of its own, which refuses what does not have the right shape.
-/
import EntityGate.Setting.Basic
import EntityGate.Table

namespace EntityGate

/-- A reader of typed values: `none` where the shape is refused. -/
abbrev Shape (α : Type) : Type := Json → Option α

namespace Shape

/-- Any value, in canonical form. -/
def any : Shape Json := fun v => some v.canonical

/-- A text. -/
def text : Shape String := Json.str?

/-- A truth value. -/
def bool : Shape Bool
  | .bool b => some b
  | _ => none

/-- A nonnegative integer. -/
def nat : Shape Nat
  | .num n => n.toNat?
  | _ => none

/-- A setting; every value is one. -/
def setting : Shape Setting := fun v => some (Setting.ofJson v.canonical)

/-- A value that may be `null` for "absent". -/
def optional {α : Type} (shape : Shape α) : Shape (Option α)
  | .null => some none
  | v => (shape v).map some

/-- A list. -/
def list {α : Type} (shape : Shape α) : Shape (List α)
  | .arr items => items.mapM shape
  | _ => none

/-- An object read as a table: the order of first insertion, the last value of each key. -/
def table {α : Type} (shape : Shape α) : Shape (Table α)
  | .obj fields =>
    (fields.mapM fun entry => (shape entry.2).map fun a => (entry.1, a)).map Table.ofList
  | _ => none

/-- A name out of a fixed choice: a text, or an object with the name as its only key and `null`
under it. -/
def choice {α : Type} (find? : String → Option α) : Shape α
  | .str s => find? s
  | .obj [(s, .null)] => find? s
  | _ => none

end Shape

/-- The parts of a record by name. -/
structure Record where
  parts : List (String × Json)

namespace Record

/-- How often a key occurs. -/
def occurrences (name : String) (fields : List (String × Json)) : Nat :=
  (fields.filter fun entry => entry.1 = name).length

/-- The parts that an object has under some names, each at most once. -/
def ofObject? (names : List String) (fields : List (String × Json)) : Option Record :=
  if names.all fun name => occurrences name fields ≤ 1 then
    some ⟨fields.filter fun entry => entry.1 ∈ names⟩
  else none

/-- The record that a value holds, with parts of the given names in order of declaration. -/
def ofJson? (names : List String) : Json → Option Record
  | .obj fields => ofObject? names fields
  | .arr items => if items.length ≤ names.length then some ⟨names.zip items⟩ else none
  | _ => none

/-- The part under a name. -/
def part? (r : Record) (name : String) : Option Json := r.parts.lookup name

/-- A part that has to be there. -/
def required {α : Type} (r : Record) (name : String) (shape : Shape α) : Option α :=
  (r.part? name).bind shape

/-- A part with a value for the case that it is missing. -/
def withDefault {α : Type} (r : Record) (name : String) (shape : Shape α) (default : α) :
    Option α :=
  match r.part? name with
  | none => some default
  | some v => shape v

/-- A part that may be missing or `null`. -/
def optional {α : Type} (r : Record) (name : String) (shape : Shape α) : Option (Option α) :=
  r.withDefault name (Shape.optional shape) none

/-- A table that may be missing. -/
def table {α : Type} (r : Record) (name : String) (shape : Shape α) : Option (Table α) :=
  r.withDefault name (Shape.table shape) .empty

end Record

namespace Json

/-- The entry of a part that is written only when it is there. -/
def writeOption {α : Type} (name : String) (write : α → Json) :
    Option α → List (String × Json)
  | none => []
  | some a => [(name, write a)]

/-- The object that a table is written as. -/
def writeTable {α : Type} (write : α → Json) (t : Table α) : Json :=
  .ofFields (t.entries.map fun (k, a) => (k, write a))

/-- The entry of a table that is written only when it has entries. -/
def writeNonempty {α : Type} (name : String) (write : α → Json) (t : Table α) :
    List (String × Json) :=
  if t.isEmpty then [] else [(name, writeTable write t)]

/-- The entry of a list that is written only when it has items. -/
def writeItems {α : Type} (name : String) (write : α → Json) :
    List α → List (String × Json)
  | [] => []
  | items => [(name, .arr (items.map write))]

/-- The text that may be missing, `null` if it is. -/
def ofText? : Option String → Json
  | none => null
  | some s => str s

/-- The number that may be missing, `null` if it is. -/
def ofNat? : Option Nat → Json
  | none => null
  | some n => nat n

end Json

end EntityGate
