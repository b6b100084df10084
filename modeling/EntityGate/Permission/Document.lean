/-
# Permissions as documents

How permission layers are read out of values and written back.  Flags and hooks that are not
set, and tables without entries, are left out when a layer is written; the hooks themselves are
always written.
-/
import EntityGate.Permission.Basic
import EntityGate.Json.Record

namespace EntityGate

namespace Validation

/-- The names of the parts, in order of declaration. -/
def partNames : List String := ["fields", "rules", "messages", "customAttributes"]

/-- The validation that a value describes. -/
def ofJson? : Shape Validation := fun v => do
  let r ← Record.ofJson? partNames v
  return ⟨← r.withDefault "fields" (Shape.list Shape.text) [],
    ← r.table "rules" Shape.text, ← r.table "messages" Shape.text,
    ← r.table "customAttributes" Shape.text⟩

/-- The value that describes a validation. -/
def toJson (v : Validation) : Json :=
  .ofFields [("fields", .arr (v.fields.map .str)), ("rules", .writeTable .str v.rules),
    ("messages", .writeTable .str v.messages),
    ("customAttributes", .writeTable .str v.customAttributes)]

end Validation

namespace Hooks

/-- The names of the parts, in order of declaration. -/
def partNames : List String := ["closure", "mutate", "enforce", "setTo", "validate"]

/-- The hooks that a value describes. -/
def ofJson? : Shape Hooks := fun v => do
  let r ← Record.ofJson? partNames v
  return ⟨← r.optional "closure" Shape.setting, ← r.optional "mutate" Shape.setting,
    ← r.optional "enforce" Shape.setting, ← r.optional "setTo" Shape.setting,
    ← r.optional "validate" Validation.ofJson?⟩

/-- The value that describes some hooks. -/
def toJson (h : Hooks) : Json :=
  .ofFields (Json.writeOption "closure" Setting.toJson h.closure ++
    Json.writeOption "mutate" Setting.toJson h.mutate ++
    Json.writeOption "enforce" Setting.toJson h.enforce ++
    Json.writeOption "setTo" Setting.toJson h.setTo ++
    Json.writeOption "validate" Validation.toJson h.validate)

end Hooks

namespace Layer

/-- The names of the parts, in order of declaration. -/
def partNames : List String :=
  ["allowed", "permissive", "operators", "directions", "assign", "chain", "settings"]

/-- The layer that the parts of a record describe. -/
def ofRecord? (r : Record) : Option Layer := do
  return ⟨← r.optional "allowed" Shape.setting, ← r.optional "permissive" Shape.setting,
    ← r.table "operators" Shape.setting, ← r.table "directions" Shape.setting,
    ← r.table "assign" Shape.setting, ← r.table "chain" Shape.setting,
    ← r.withDefault "settings" Hooks.ofJson? default⟩

/-- The layer that a value describes. -/
def ofJson? : Shape Layer := fun v => (Record.ofJson? partNames v).bind ofRecord?

/-- The entries that describe a layer. -/
def toFields (l : Layer) : List (String × Json) :=
  Json.writeOption "allowed" Setting.toJson l.allowed ++
  Json.writeOption "permissive" Setting.toJson l.permissive ++
  Json.writeNonempty "operators" Setting.toJson l.operators ++
  Json.writeNonempty "directions" Setting.toJson l.directions ++
  Json.writeNonempty "assign" Setting.toJson l.assign ++
  Json.writeNonempty "chain" Setting.toJson l.chain ++
  [("settings", l.hooks.toJson)]

/-- The value that describes a layer. -/
def toJson (l : Layer) : Json := .ofFields l.toFields

end Layer

namespace Node

/-- The names of the parts, in order of declaration. -/
def partNames : List String := Layer.partNames ++ ["fields", "placeholderNames"]

/-- The node that the parts of a record describe. -/
def ofRecord? (r : Record) : Option Node := do
  return ⟨← Layer.ofRecord? r, ← r.table "fields" Layer.ofJson?,
    ← r.table "placeholderNames" Layer.ofJson?⟩

/-- The node that a value describes. -/
def ofJson? : Shape Node := fun v => (Record.ofJson? partNames v).bind ofRecord?

/-- The entries that describe a node. -/
def toFields (n : Node) : List (String × Json) :=
  n.toLayer.toFields ++ Json.writeNonempty "fields" Layer.toJson n.fields ++
  Json.writeNonempty "placeholderNames" Layer.toJson n.placeholderNames

/-- The value that describes a node. -/
def toJson (n : Node) : Json := .ofFields n.toFields

end Node

end EntityGate
