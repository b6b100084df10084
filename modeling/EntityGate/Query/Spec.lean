/-
# Query specifications

The description of a read that a backend executes: every part is resolved, every front-end part
is authorized, and every value of the request is bound to a parameter.
-/
import EntityGate.Filter.Expr
import EntityGate.Config.Query

namespace EntityGate

/-- The direction of an order. -/
inductive Direction where
  | asc
  | desc
deriving DecidableEq, Repr

namespace Direction

/-- The name of a direction. -/
def name : Direction → String
  | asc => "ASC"
  | desc => "DESC"

/-- The direction with a name, in any case. -/
def ofName? (s : String) : Option Direction :=
  if Text.sameIgnoringAsciiCase s "ASC" then some asc
  else if Text.sameIgnoringAsciiCase s "DESC" then some desc
  else none

end Direction

/-- A source of rows. -/
structure FromClause where
  entity : String
  aliasName : String
  indexBy : Option String

/-- A join. -/
structure JoinClause where
  kind : JoinKind
  target : String
  aliasName : String
  conditionType : Option String
  condition : Option String
  indexBy : Option String

/-- One key of the order of rows. -/
structure OrderClause where
  field : String
  direction : Direction

/-- A bound parameter. -/
structure Parameter where
  value : Json
  paramType : Option String

/-- How the result of a read is cached. -/
structure CacheSettings where
  enabled : Bool
  useQueryCache : Bool
  useResultCache : Bool
  timeToLive : Option Nat
  cacheId : Option String
  queryCacheDriver : Option String
  resultCacheDriver : Option String

instance : Inhabited CacheSettings := ⟨⟨false, false, false, none, none, none, none⟩⟩

/-- What the result of a read looks like. -/
structure ResultShaping where
  paginate : Bool
  fetchJoin : Bool
  hydrate : Bool
  returnCount : Bool

/-- A read that a backend executes. -/
structure QuerySpec where
  entityType : String
  select : List String
  sources : List FromClause
  joins : List JoinClause
  conditions : Option Expr
  having : Option Expr
  orderBy : List OrderClause
  groupBy : List String
  parameters : Table Parameter
  cache : CacheSettings
  limit : Nat
  /-- The position of the first row, counted from one. -/
  offset : Nat
  shaping : ResultShaping

namespace FromClause

/-- The value that describes a source. -/
def toJson (c : FromClause) : Json :=
  .ofFields [("entity", .str c.entity), ("alias", .str c.aliasName),
    ("index_by", .ofText? c.indexBy)]

end FromClause

namespace JoinClause

/-- The value that describes a join. -/
def toJson (c : JoinClause) : Json :=
  .ofFields [("kind", .str c.kind.name), ("target", .str c.target), ("alias", .str c.aliasName),
    ("condition_type", .ofText? c.conditionType), ("condition", .ofText? c.condition),
    ("index_by", .ofText? c.indexBy)]

end JoinClause

namespace OrderClause

/-- The value that describes an order. -/
def toJson (c : OrderClause) : Json :=
  .ofFields [("field", .str c.field), ("direction", .str c.direction.name)]

end OrderClause

namespace Parameter

/-- The value that describes a parameter. -/
def toJson (p : Parameter) : Json :=
  .ofFields [("value", p.value), ("param_type", .ofText? p.paramType)]

end Parameter

namespace CacheSettings

/-- The value that describes cache settings. -/
def toJson (c : CacheSettings) : Json :=
  .ofFields [("enabled", .bool c.enabled), ("use_query_cache", .bool c.useQueryCache),
    ("use_result_cache", .bool c.useResultCache), ("time_to_live", .ofNat? c.timeToLive),
    ("cache_id", .ofText? c.cacheId), ("query_cache_driver", .ofText? c.queryCacheDriver),
    ("result_cache_driver", .ofText? c.resultCacheDriver)]

end CacheSettings

namespace ResultShaping

/-- What a result looks like unless something else is asked for. -/
def standard : ResultShaping := ⟨false, true, true, true⟩

/-- The value that describes the shaping of a result. -/
def toJson (s : ResultShaping) : Json :=
  .ofFields [("paginate", .bool s.paginate), ("fetch_join", .bool s.fetchJoin),
    ("hydrate", .bool s.hydrate), ("return_count", .bool s.returnCount)]

end ResultShaping

namespace QuerySpec

/-- The limit of a read that asks for none. -/
def defaultLimit : Nat := 25

/-- The offset of a read that asks for none. -/
def defaultOffset : Nat := 1

/-- The query of a type of entity without any parts. -/
def ofType (entityType : String) : QuerySpec where
  entityType := entityType
  select := []
  sources := []
  joins := []
  conditions := none
  having := none
  orderBy := []
  groupBy := []
  parameters := .empty
  cache := default
  limit := defaultLimit
  offset := defaultOffset
  shaping := .standard

/-- The alias of the first source. -/
def rootAlias (q : QuerySpec) : String :=
  match q.sources with
  | [] => "t"
  | source :: _ => source.aliasName

/-- The value of a parameter. -/
def parameter? (q : QuerySpec) (name : String) : Option Json :=
  (q.parameters.get? name).map Parameter.value

/-- The expression that may be missing, `null` if it is. -/
def exprToJson : Option Expr → Json
  | none => .null
  | some e => e.toJson

/-- The value that describes a query. -/
def toJson (q : QuerySpec) : Json :=
  .ofFields [("entity_type", .str q.entityType), ("select", .arr (q.select.map .str)),
    ("from", .arr (q.sources.map FromClause.toJson)),
    ("joins", .arr (q.joins.map JoinClause.toJson)),
    ("where_clause", exprToJson q.conditions), ("having", exprToJson q.having),
    ("order_by", .arr (q.orderBy.map OrderClause.toJson)),
    ("group_by", .arr (q.groupBy.map .str)),
    ("parameters", .writeTable Parameter.toJson q.parameters), ("cache", q.cache.toJson),
    ("limit", .nat q.limit), ("offset", .nat q.offset), ("shaping", q.shaping.toJson)]

end QuerySpec

end EntityGate
