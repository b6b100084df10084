/-
# Base queries

The part of an entity's configuration that every read starts from: what is selected, from
where, under which conditions and in which order.  A base condition is either a plain text or
an operator with parts as arguments.
-/
import EntityGate.Filter.Operator
import EntityGate.Permission.Basic

namespace EntityGate

/-- A part of a base condition. -/
inductive BasePart where
  /-- A setting that stands for a value or a text. -/
  | value (s : Setting)
  /-- An operator applied to parts. -/
  | expression (operator : String) (arguments : List BasePart)

/-- A base condition and how it is joined to those before it. -/
structure BaseCondition where
  connective : Connective
  part : BasePart

/-- A source of rows. -/
structure BaseSource where
  entity : Setting
  aliasName : Setting
  indexBy : Setting?

/-- The kinds of joins. -/
inductive JoinKind where
  | left
  | inner
deriving DecidableEq, Repr

/-- A join to an association. -/
structure BaseJoin where
  target : Setting
  joinAlias : Setting
  kind : JoinKind
  conditionType : Setting?
  condition : Setting?
  indexBy : Setting?

/-- A base order. -/
structure BaseOrder where
  sort : Setting
  order : Setting

/-- The base query of an entity. -/
structure BaseQuery where
  select : Table Setting
  sources : Table BaseSource
  joins : Table BaseJoin
  conditions : Table BaseCondition
  having : Table BaseCondition
  orderBy : Table BaseOrder
  groupBy : Table Setting

instance : Inhabited BaseQuery :=
  ⟨⟨.empty, .empty, .empty, .empty, .empty, .empty, .empty⟩⟩

namespace JoinKind

/-- The name of a kind of join. -/
def name : JoinKind → String
  | left => "left"
  | inner => "inner"

/-- The kind of join with a name. -/
def ofName? : String → Option JoinKind
  | "left" => some left
  | "inner" => some inner
  | _ => none

end JoinKind

namespace BasePart

mutual
/-- The part that a canonical value describes: an object with an `expr` entry is an operator. -/
def ofJson : Json → BasePart
  | .obj fields =>
    match Json.lookup "expr" fields with
    | some operator => expression operator.textOrCompact (argumentsOf fields)
    | none => value (Setting.ofJson (.obj fields))
  | v => value (Setting.ofJson v)

/-- The parts that some values describe. -/
def ofItems : List Json → List BasePart
  | [] => []
  | v :: rest => ofJson v :: ofItems rest

/-- The arguments among the entries of an operator: a list, nothing for `null` or no entry, and
any other value alone. -/
def argumentsOf : List (String × Json) → List BasePart
  | [] => []
  | (k, v) :: rest =>
    if k = "arguments" then
      match v with
      | .arr items => ofItems items
      | .null => []
      | v => [ofJson v]
    else argumentsOf rest
end

mutual
/-- The value that describes a part. -/
def toJson : BasePart → Json
  | value s => s.toJson
  | expression operator arguments =>
    .ofFields [("expr", .str operator), ("arguments", .arr (toItems arguments))]

/-- The values that describe some parts. -/
def toItems : List BasePart → List Json
  | [] => []
  | p :: rest => toJson p :: toItems rest
end

end BasePart

namespace BaseCondition

/-- The condition that a value describes. -/
def ofJson? : Shape BaseCondition := fun v => do
  let r ← Record.ofJson? ["type", "value"] v
  return ⟨← r.withDefault "type" (Shape.choice Connective.ofName?) .and,
    ← r.required "value" fun v => some (BasePart.ofJson v.canonical)⟩

/-- The value that describes a condition. -/
def toJson (c : BaseCondition) : Json :=
  .ofFields [("type", .str c.connective.name), ("value", c.part.toJson)]

end BaseCondition

namespace BaseSource

/-- The source that a value describes. -/
def ofJson? : Shape BaseSource := fun v => do
  let r ← Record.ofJson? ["entity", "alias", "indexBy"] v
  return ⟨← r.required "entity" Shape.setting, ← r.required "alias" Shape.setting,
    ← r.optional "indexBy" Shape.setting⟩

/-- The value that describes a source. -/
def toJson (s : BaseSource) : Json :=
  .ofFields ([("entity", s.entity.toJson), ("alias", s.aliasName.toJson)] ++
    Json.writeOption "indexBy" Setting.toJson s.indexBy)

end BaseSource

namespace BaseJoin

/-- The names of the parts, in order of declaration. -/
def partNames : List String :=
  ["target", "joinAlias", "kind", "conditionType", "condition", "indexBy"]

/-- The join that a value describes. -/
def ofJson? : Shape BaseJoin := fun v => do
  let r ← Record.ofJson? partNames v
  return ⟨← r.required "target" Shape.setting, ← r.required "joinAlias" Shape.setting,
    ← r.withDefault "kind" (Shape.choice JoinKind.ofName?) .left,
    ← r.optional "conditionType" Shape.setting, ← r.optional "condition" Shape.setting,
    ← r.optional "indexBy" Shape.setting⟩

/-- The value that describes a join. -/
def toJson (j : BaseJoin) : Json :=
  .ofFields ([("target", j.target.toJson), ("joinAlias", j.joinAlias.toJson),
      ("kind", .str j.kind.name)] ++
    Json.writeOption "conditionType" Setting.toJson j.conditionType ++
    Json.writeOption "condition" Setting.toJson j.condition ++
    Json.writeOption "indexBy" Setting.toJson j.indexBy)

end BaseJoin

namespace BaseOrder

/-- The order that a value describes; it ascends unless it says otherwise. -/
def ofJson? : Shape BaseOrder := fun v => do
  let r ← Record.ofJson? ["sort", "order"] v
  return ⟨← r.required "sort" Shape.setting,
    ← r.withDefault "order" Shape.setting (.literal (.str "ASC"))⟩

/-- The value that describes an order. -/
def toJson (o : BaseOrder) : Json :=
  .ofFields [("sort", o.sort.toJson), ("order", o.order.toJson)]

end BaseOrder

namespace BaseQuery

/-- The names of the parts, in order of declaration. -/
def partNames : List String :=
  ["select", "from", "joins", "where", "having", "orderBy", "groupBy"]

/-- The base query that a value describes. -/
def ofJson? : Shape BaseQuery := fun v => do
  let r ← Record.ofJson? partNames v
  return ⟨← r.table "select" Shape.setting, ← r.table "from" BaseSource.ofJson?,
    ← r.table "joins" BaseJoin.ofJson?, ← r.table "where" BaseCondition.ofJson?,
    ← r.table "having" BaseCondition.ofJson?, ← r.table "orderBy" BaseOrder.ofJson?,
    ← r.table "groupBy" Shape.setting⟩

/-- The value that describes a base query. -/
def toJson (q : BaseQuery) : Json :=
  .ofFields [("select", .writeTable Setting.toJson q.select),
    ("from", .writeTable BaseSource.toJson q.sources),
    ("joins", .writeTable BaseJoin.toJson q.joins),
    ("where", .writeTable BaseCondition.toJson q.conditions),
    ("having", .writeTable BaseCondition.toJson q.having),
    ("orderBy", .writeTable BaseOrder.toJson q.orderBy),
    ("groupBy", .writeTable Setting.toJson q.groupBy)]

end BaseQuery

end EntityGate
