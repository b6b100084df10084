/-
# Configurations as documents

How configurations and call options are read out of values and written back.  Defaults are
written out; settings that are absent are not.
-/
import EntityGate.Config.Entity
import EntityGate.Json.Reader

namespace EntityGate

namespace Placeholder

/-- The placeholder that a value describes. -/
def ofJson? : Shape Placeholder := fun v => do
  let r ← Record.ofJson? ["value", "type"] v
  return ⟨← r.withDefault "value" Shape.setting default, ← r.optional "type" Shape.setting⟩

/-- The value that describes a placeholder. -/
def toJson (p : Placeholder) : Json :=
  .ofFields ([("value", p.value.toJson)] ++ Json.writeOption "type" Setting.toJson p.paramType)

end Placeholder

namespace CacheRules

/-- The names of the parts, in order of declaration. -/
def partNames : List String :=
  ["useQueryCache", "useResultCache", "timeToLive", "cacheId", "queryCacheDriver",
    "resultCacheDriver"]

/-- The cache rules that a value describes. -/
def ofJson? : Shape CacheRules := fun v => do
  let r ← Record.ofJson? partNames v
  return ⟨← r.optional "useQueryCache" Shape.setting,
    ← r.optional "useResultCache" Shape.setting, ← r.optional "timeToLive" Shape.setting,
    ← r.optional "cacheId" Shape.setting, ← r.optional "queryCacheDriver" Shape.setting,
    ← r.optional "resultCacheDriver" Shape.setting⟩

/-- The value that describes cache rules. -/
def toJson (c : CacheRules) : Json :=
  .ofFields (Json.writeOption "useQueryCache" Setting.toJson c.useQueryCache ++
    Json.writeOption "useResultCache" Setting.toJson c.useResultCache ++
    Json.writeOption "timeToLive" Setting.toJson c.timeToLive ++
    Json.writeOption "cacheId" Setting.toJson c.cacheId ++
    Json.writeOption "queryCacheDriver" Setting.toJson c.queryCacheDriver ++
    Json.writeOption "resultCacheDriver" Setting.toJson c.resultCacheDriver)

end CacheRules

namespace ReadSettings

/-- The read settings that a value describes. -/
def ofJson? : Shape ReadSettings := fun v => do
  let r ← Record.ofJson? ["cache", "placeholders", "fetchJoin"] v
  return ⟨← r.withDefault "cache" CacheRules.ofJson? default,
    ← r.table "placeholders" Placeholder.ofJson?, ← r.optional "fetchJoin" Shape.setting⟩

/-- The value that describes read settings. -/
def toJson (s : ReadSettings) : Json :=
  .ofFields ([("cache", s.cache.toJson),
      ("placeholders", .writeTable Placeholder.toJson s.placeholders)] ++
    Json.writeOption "fetchJoin" Setting.toJson s.fetchJoin)

end ReadSettings

namespace ReadPermissions

/-- The names of the parts, in order of declaration. -/
def partNames : List String :=
  ["allowed", "maxLimit", "where", "having", "orderBy", "groupBy", "placeholders"]

/-- The read permissions that a value describes. -/
def ofJson? : Shape ReadPermissions := fun v => do
  let r ← Record.ofJson? partNames v
  return ⟨← r.optional "allowed" Shape.setting, ← r.optional "maxLimit" Shape.setting,
    ← r.withDefault "where" Node.ofJson? default, ← r.withDefault "having" Node.ofJson? default,
    ← r.withDefault "orderBy" Node.ofJson? default,
    ← r.withDefault "groupBy" Node.ofJson? default,
    ← r.withDefault "placeholders" Node.ofJson? default⟩

/-- The value that describes read permissions. -/
def toJson (p : ReadPermissions) : Json :=
  .ofFields (Json.writeOption "allowed" Setting.toJson p.allowed ++
    Json.writeOption "maxLimit" Setting.toJson p.maxLimit ++
    [("where", p.conditions.toJson), ("having", p.having.toJson),
      ("orderBy", p.orderBy.toJson), ("groupBy", p.groupBy.toJson),
      ("placeholders", p.placeholders.toJson)])

end ReadPermissions

namespace ReadRules

/-- The read rules that a value describes. -/
def ofJson? : Shape ReadRules := fun v => do
  let r ← Record.ofJson? ["query", "settings", "permissions", "options"] v
  return ⟨← r.withDefault "query" BaseQuery.ofJson? default,
    ← r.withDefault "settings" ReadSettings.ofJson? default,
    ← r.withDefault "permissions" ReadPermissions.ofJson? default,
    ← r.table "options" Shape.setting⟩

/-- The value that describes read rules. -/
def toJson (r : ReadRules) : Json :=
  .ofFields [("query", r.query.toJson), ("settings", r.settings.toJson),
    ("permissions", r.permissions.toJson), ("options", .writeTable Setting.toJson r.options)]

end ReadRules

namespace MutationRules

/-- The mutation rules that an object describes: the parts of a node beside the options. -/
def ofJson? : Shape MutationRules
  | .obj fields => do
    let r ← Record.ofObject? (Node.partNames ++ ["options"]) fields
    return ⟨← Node.ofRecord? r, ← r.table "options" Shape.setting⟩
  | _ => none

/-- The value that describes mutation rules. -/
def toJson (m : MutationRules) : Json :=
  .ofFields (m.permissions.toFields ++ [("options", .writeTable Setting.toJson m.options)])

end MutationRules

namespace EntityConfig

/-- The names of the parts, in order of declaration. -/
def partNames : List String := ["alias", "read", "create", "update", "delete"]

/-- The entity configuration that a value describes. -/
def ofJson? : Shape EntityConfig := fun v => do
  let r ← Record.ofJson? partNames v
  return ⟨← r.withDefault "alias" Shape.text "t",
    ← r.withDefault "read" ReadRules.ofJson? default,
    ← r.withDefault "create" MutationRules.ofJson? default,
    ← r.withDefault "update" MutationRules.ofJson? default,
    ← r.withDefault "delete" MutationRules.ofJson? default⟩

/-- The value that describes an entity configuration. -/
def toJson (e : EntityConfig) : Json :=
  .ofFields [("alias", .str e.aliasName), ("read", e.read.toJson), ("create", e.create.toJson),
    ("update", e.update.toJson), ("delete", e.delete.toJson)]

/-- The rules of a mutation by the name of its action. -/
def mutation? (e : EntityConfig) : String → Option MutationRules
  | "create" => some e.create
  | "update" => some e.update
  | "delete" => some e.delete
  | _ => none

/-- The entity configuration that a text in some dialect describes. -/
def load (dialect : Json.Dialect) (text : String) : Except Fault EntityConfig :=
  match (Json.readIn? dialect text).bind ofJson? with
  | some e => .ok e
  | none => .error .unreadableConfiguration

end EntityConfig

namespace GateConfig

/-- The configuration that a value describes. -/
def ofJson? : Shape GateConfig := fun v => do
  let r ← Record.ofJson? ["entities"] v
  return ⟨← r.table "entities" EntityConfig.ofJson?⟩

/-- The value that describes a configuration. -/
def toJson (c : GateConfig) : Json :=
  .ofFields [("entities", .writeTable EntityConfig.toJson c.entities)]

/-- The configuration that a text in some dialect describes. -/
def load (dialect : Json.Dialect) (text : String) : Except Fault GateConfig :=
  match (Json.readIn? dialect text).bind ofJson? with
  | some c => .ok c
  | none => .error .unreadableConfiguration

end GateConfig

namespace CallOptions

/-- The names of the options that are not settings. -/
def partNames : List String := ["permissions", "mutationPermissions", "placeholders"]

/-- The call options that an object describes: every entry that is no part is a setting. -/
def ofJson? : Shape CallOptions
  | .obj fields => do
    let r ← Record.ofObject? partNames fields
    let settings ← Shape.table Shape.setting
      (.obj (fields.filter fun entry => entry.1 ∉ partNames))
    return ⟨← r.optional "permissions" ReadPermissions.ofJson?,
      ← r.optional "mutationPermissions" Node.ofJson?,
      ← r.table "placeholders" Placeholder.ofJson?, settings⟩
  | _ => none

/-- The value that describes call options, as settings read it. -/
def toJson (o : CallOptions) : Json :=
  .ofFields (Json.writeOption "permissions" ReadPermissions.toJson o.permissions ++
    Json.writeOption "mutationPermissions" Node.toJson o.mutationPermissions ++
    Json.writeNonempty "placeholders" Placeholder.toJson o.placeholders ++
    o.settings.entries.map fun (k, s) => (k, s.toJson))

end CallOptions

end EntityGate
