/-
# Front-end options

What an untrusted client may ask of a read: conditions, orders, groups, placeholder values and
a page.  Everything is a literal; nothing here is evaluated.
-/
import EntityGate.Filter.Condition

namespace EntityGate

/-- A placeholder value from the front end. -/
structure FrontEndPlaceholder where
  value : Json
  paramType : Option String

/-- The query part of front-end options. -/
structure FrontEndQuery where
  conditions : List Condition
  having : List Condition
  /-- Directions by field. -/
  orderBy : Table String
  groupBy : List String
  placeholders : Table FrontEndPlaceholder

instance : Inhabited FrontEndQuery := ⟨⟨[], [], .empty, [], .empty⟩⟩

/-- The options part of front-end options. -/
structure RequestOptions where
  returnCount : Option Bool
  limit : Option Nat
  /-- The position of the first row, counted from one. -/
  offset : Option Nat
  useGetParams : Option Bool
  simplifiedParams : Option Bool

instance : Inhabited RequestOptions := ⟨⟨none, none, none, none, none⟩⟩

/-- The options that a client sends along with a request. -/
structure FrontEndOptions where
  query : FrontEndQuery
  options : RequestOptions

instance : Inhabited FrontEndOptions := ⟨⟨default, default⟩⟩

namespace FrontEndPlaceholder

/-- The placeholder that a value describes. -/
def ofJson? : Shape FrontEndPlaceholder := fun v => do
  let r ← Record.ofJson? ["value", "type"] v
  return ⟨← r.withDefault "value" Shape.any .null, ← r.optional "type" Shape.text⟩

/-- The value that describes a placeholder. -/
def toJson (p : FrontEndPlaceholder) : Json :=
  .ofFields ([("value", p.value)] ++ Json.writeOption "type" .str p.paramType)

end FrontEndPlaceholder

namespace FrontEndQuery

/-- The names of the parts, in order of declaration. -/
def partNames : List String := ["where", "having", "orderBy", "groupBy", "placeholders"]

/-- The query that a value describes. -/
def ofJson? : Shape FrontEndQuery := fun v => do
  let r ← Record.ofJson? partNames v
  return ⟨← r.withDefault "where" (Shape.list Condition.ofJson?) [],
    ← r.withDefault "having" (Shape.list Condition.ofJson?) [],
    ← r.table "orderBy" Shape.text, ← r.withDefault "groupBy" (Shape.list Shape.text) [],
    ← r.table "placeholders" FrontEndPlaceholder.ofJson?⟩

/-- The value that describes a query. -/
def toJson (q : FrontEndQuery) : Json :=
  .ofFields (Json.writeItems "where" Condition.toJson q.conditions ++
    Json.writeItems "having" Condition.toJson q.having ++
    Json.writeNonempty "orderBy" .str q.orderBy ++
    Json.writeItems "groupBy" .str q.groupBy ++
    Json.writeNonempty "placeholders" FrontEndPlaceholder.toJson q.placeholders)

end FrontEndQuery

namespace RequestOptions

/-- The names of the parts, in order of declaration. -/
def partNames : List String :=
  ["returnCount", "limit", "offset", "useGetParams", "simplifiedParams"]

/-- The options that a value describes. -/
def ofJson? : Shape RequestOptions := fun v => do
  let r ← Record.ofJson? partNames v
  return ⟨← r.optional "returnCount" Shape.bool, ← r.optional "limit" Shape.nat,
    ← r.optional "offset" Shape.nat, ← r.optional "useGetParams" Shape.bool,
    ← r.optional "simplifiedParams" Shape.bool⟩

/-- The value that describes some options. -/
def toJson (o : RequestOptions) : Json :=
  .ofFields (Json.writeOption "returnCount" .bool o.returnCount ++
    Json.writeOption "limit" .nat o.limit ++ Json.writeOption "offset" .nat o.offset ++
    Json.writeOption "useGetParams" .bool o.useGetParams ++
    Json.writeOption "simplifiedParams" .bool o.simplifiedParams)

end RequestOptions

namespace FrontEndOptions

/-- The front-end options that a value describes. -/
def ofJson? : Shape FrontEndOptions := fun v => do
  let r ← Record.ofJson? ["query", "options"] v
  return ⟨← r.withDefault "query" FrontEndQuery.ofJson? default,
    ← r.withDefault "options" RequestOptions.ofJson? default⟩

/-- The value that describes front-end options. -/
def toJson (o : FrontEndOptions) : Json :=
  .ofFields [("query", o.query.toJson), ("options", o.options.toJson)]

/-- The options with one more condition. -/
def withCondition (o : FrontEndOptions) (c : Condition) : FrontEndOptions :=
  { o with query := { o.query with conditions := o.query.conditions ++ [c] } }

/-- The options with one more condition on groups. -/
def withHaving (o : FrontEndOptions) (c : Condition) : FrontEndOptions :=
  { o with query := { o.query with having := o.query.having ++ [c] } }

/-- The options with an order by a field. -/
def withOrder (o : FrontEndOptions) (field direction : String) : FrontEndOptions :=
  { o with query := { o.query with orderBy := o.query.orderBy.insert field direction } }

/-- The options with one more group. -/
def withGroup (o : FrontEndOptions) (field : String) : FrontEndOptions :=
  { o with query := { o.query with groupBy := o.query.groupBy ++ [field] } }

/-- The options with the value of a placeholder. -/
def withPlaceholder (o : FrontEndOptions) (name : String) (value : Json) : FrontEndOptions :=
  { o with query := { o.query with
    placeholders := o.query.placeholders.insert name ⟨value, none⟩ } }

/-- The options with a limit. -/
def withLimit (o : FrontEndOptions) (limit : Nat) : FrontEndOptions :=
  { o with options := { o.options with limit := some limit } }

/-- The options with an offset. -/
def withOffset (o : FrontEndOptions) (offset : Nat) : FrontEndOptions :=
  { o with options := { o.options with offset := some offset } }

/-- The options with the wish for a count, or against one. -/
def withReturnCount (o : FrontEndOptions) (wanted : Bool) : FrontEndOptions :=
  { o with options := { o.options with returnCount := some wanted } }

/-- Whether the params of the request are in simplified form. -/
def isSimplified (o : FrontEndOptions) : Bool := o.options.simplifiedParams.getD false

end FrontEndOptions

end EntityGate
