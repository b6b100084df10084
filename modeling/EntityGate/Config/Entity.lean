/-
# Entity configurations

What the configuration says about one type of entity: its alias, how it is read, and how it is
created, updated and deleted.
-/
import EntityGate.Config.Query
import EntityGate.Permission.Document

namespace EntityGate

/-- A query parameter that the configuration or a call supplies. -/
structure Placeholder where
  value : Setting
  paramType : Setting?

/-- How the results of a read are cached. -/
structure CacheRules where
  useQueryCache : Setting?
  useResultCache : Setting?
  timeToLive : Setting?
  cacheId : Setting?
  queryCacheDriver : Setting?
  resultCacheDriver : Setting?

instance : Inhabited CacheRules := ⟨⟨none, none, none, none, none, none⟩⟩

/-- The settings of reads. -/
structure ReadSettings where
  cache : CacheRules
  placeholders : Table Placeholder
  fetchJoin : Setting?

instance : Inhabited ReadSettings := ⟨⟨default, .empty, none⟩⟩

/-- The permissions of reads, one node for each clause of the front end. -/
structure ReadPermissions where
  allowed : Setting?
  maxLimit : Setting?
  conditions : Node
  having : Node
  orderBy : Node
  groupBy : Node
  placeholders : Node

instance : Inhabited ReadPermissions :=
  ⟨⟨none, none, default, default, default, default, default⟩⟩

/-- The rules of reads. -/
structure ReadRules where
  query : BaseQuery
  settings : ReadSettings
  permissions : ReadPermissions
  /-- Defaults for the options of a call. -/
  options : Table Setting

instance : Inhabited ReadRules := ⟨⟨default, default, default, .empty⟩⟩

/-- The rules of one kind of mutation: the node of the action is the aggregate layer of the
fields it writes. -/
structure MutationRules where
  permissions : Node
  /-- Defaults for the options of a call. -/
  options : Table Setting

instance : Inhabited MutationRules := ⟨⟨default, .empty⟩⟩

/-- The configuration of one type of entity. -/
structure EntityConfig where
  /-- The alias of the entity in queries. -/
  aliasName : String
  read : ReadRules
  create : MutationRules
  update : MutationRules
  delete : MutationRules

instance : Inhabited EntityConfig := ⟨⟨"t", default, default, default, default⟩⟩

/-- Options and overrides that the back end passes along with a call. -/
structure CallOptions where
  permissions : Option ReadPermissions
  mutationPermissions : Option Node
  placeholders : Table Placeholder
  /-- Every other option. -/
  settings : Table Setting

instance : Inhabited CallOptions := ⟨⟨none, none, .empty, .empty⟩⟩

/-- The configuration of all types of entities. -/
structure GateConfig where
  entities : Table EntityConfig

instance : Inhabited GateConfig := ⟨⟨.empty⟩⟩

namespace ReadPermissions

/-- Read permissions with others on top, node by node. -/
def merge (base top : ReadPermissions) : ReadPermissions where
  allowed := top.allowed <|> base.allowed
  maxLimit := top.maxLimit <|> base.maxLimit
  conditions := base.conditions.merge top.conditions
  having := base.having.merge top.having
  orderBy := base.orderBy.merge top.orderBy
  groupBy := base.groupBy.merge top.groupBy
  placeholders := base.placeholders.merge top.placeholders

end ReadPermissions

namespace CallOptions

/-- The value of an option. -/
def get? (o : CallOptions) (key : String) : Setting? := o.settings.get? key

/-- The options with one more. -/
def withOption (o : CallOptions) (key : String) (value : Setting) : CallOptions :=
  { o with settings := o.settings.insert key value }

/-- The options with one more placeholder. -/
def withPlaceholder (o : CallOptions) (name : String) (value : Setting) : CallOptions :=
  { o with placeholders := o.placeholders.insert name ⟨value, none⟩ }

/-- The options with read permissions on top of the configured ones. -/
def withPermissions (o : CallOptions) (permissions : ReadPermissions) : CallOptions :=
  { o with permissions := some permissions }

/-- The options with mutation permissions on top of the configured ones. -/
def withMutationPermissions (o : CallOptions) (node : Node) : CallOptions :=
  { o with mutationPermissions := some node }

end CallOptions

namespace GateConfig

/-- The configuration with the entities of another one added; types that both have are taken
from the other one. -/
def merge (base other : GateConfig) : GateConfig := ⟨base.entities.merge other.entities⟩

/-- The configuration of a type of entity. -/
def entity (config : GateConfig) (entityType : String) : Except Fault EntityConfig :=
  match config.entities.get? entityType with
  | some e => .ok e
  | none => .error (.unknownEntityType entityType)

end GateConfig

end EntityGate
