/-
# Compiling reads

A read request becomes a query specification in three stages, and the stages are reported as
they are entered.  *Resolving* checks the structure of everything the front end sent and then
resolves the base query.  *Permission checking* authorizes each placeholder, condition, order
and group of the front end.  *Assembling* settles the page and the shape of the result.  The
front-end conditions are joined to the base conditions by conjunction, so they only narrow.
-/
import EntityGate.Config.Document
import EntityGate.Query.Base
import EntityGate.Query.FrontEnd

namespace EntityGate

/-- The phases of a read. -/
inductive ReadPhase where
  | idle
  | resolving
  | permissionChecking
  | assembling
  | executing
  | returnUnexecuted
  | done
  | failed
deriving DecidableEq, Repr

/-- The name of a phase. -/
def ReadPhase.name : ReadPhase → String
  | idle => "idle"
  | resolving => "resolving"
  | permissionChecking => "permission_checking"
  | assembling => "assembling"
  | executing => "executing"
  | returnUnexecuted => "return_unexecuted"
  | done => "done"
  | failed => "failed"

/-- A computation that reports the phases it enters, also when it fails. -/
abbrev Phased (α : Type) : Type := ExceptT Fault (StateM (List ReadPhase)) α

namespace Phased

/-- Report that a phase is entered. -/
def enter (phase : ReadPhase) : Phased Unit := modify fun phases => phases ++ [phase]

/-- The outcome of a computation, and the phases it entered. -/
def outcome {α : Type} (p : Phased α) : Except Fault α × List ReadPhase := (p.run).run []

end Phased

/-- All that a read is compiled from. -/
structure ReadRequest where
  entityType : String
  config : EntityConfig
  frontEnd : FrontEndOptions
  overrides : CallOptions
  ctx : Context

namespace ReadRequest

/-- The layers of a setting: the call's overrides, then the options of the entity. -/
def layers (r : ReadRequest) (key : String) : List Setting? :=
  [r.overrides.get? key, r.config.read.options.get? key]

/-- The configured permissions with those of the call on top. -/
def permissions (r : ReadRequest) : ReadPermissions :=
  match r.overrides.permissions with
  | some top => r.config.read.permissions.merge top
  | none => r.config.read.permissions

end ReadRequest

/-- The front-end input after the structural checks. -/
structure CheckedQuery where
  conditions : List Checked
  having : List Checked
  orders : List (String × Direction)
  groups : List String

namespace CheckedQuery

/-- The structural check of an order. -/
def checkOrder (field direction : String) : Except Fault (String × Direction) := do
  Field.verify field
  match Direction.ofName? direction with
  | some d => return (field, d)
  | none => throw (.invalidDirection field direction)

/-- The structural checks of everything the front end sent. -/
def of (q : FrontEndQuery) : Except Fault CheckedQuery := do
  let conditions ← Condition.check q.conditions
  let having ← Condition.check q.having
  let orders ← q.orderBy.entries.mapM fun (field, direction) => checkOrder field direction
  q.groupBy.forM Field.verify
  return ⟨conditions, having, orders, q.groupBy⟩

/-- The number of tests in both clauses. -/
def leafCount (q : CheckedQuery) : Nat :=
  Checked.leafCountItems q.conditions + Checked.leafCountItems q.having

end CheckedQuery

namespace Compile

open Resolve BasePart

variable (registry : Registry) (r : ReadRequest)

/-! ## Resolving -/

/-- Refuse more tests and placeholders than the configuration allows. -/
def checkParamCount (checked : CheckedQuery) : Except Fault Unit := do
  match ← findNat? registry r.ctx "queryMaxParams" (r.layers "queryMaxParams") with
  | none => return ()
  | some max =>
    let count := checked.leafCount + r.frontEnd.query.placeholders.size
    if max < count then throw (.tooManyParams count max) else return ()

/-- What is selected: the alias of the entity unless the configuration says otherwise. -/
def select : Except Fault (List String) := do
  let parts ← r.config.read.query.select.entries.mapM fun (key, s) =>
    requiredText registry r.ctx ("query.select." ++ key) s
  return if parts.isEmpty then [r.config.aliasName] else parts

/-- A configured source. -/
def source (key : String) (s : BaseSource) : Except Fault FromClause := do
  return ⟨← requiredText registry r.ctx ("query.from." ++ key ++ ".entity") s.entity,
    ← requiredText registry r.ctx ("query.from." ++ key ++ ".alias") s.aliasName,
    ← text? registry r.ctx "indexBy" s.indexBy⟩

/-- Where rows come from: the entity itself unless the configuration says otherwise. -/
def sources : Except Fault (List FromClause) := do
  let clauses ← r.config.read.query.sources.entries.mapM fun (key, s) => source registry r key s
  return if clauses.isEmpty then [⟨r.entityType, r.config.aliasName, none⟩] else clauses

/-- A configured join. -/
def join (key : String) (j : BaseJoin) : Except Fault JoinClause := do
  return ⟨j.kind, ← requiredText registry r.ctx ("query.joins." ++ key ++ ".target") j.target,
    ← requiredText registry r.ctx ("query.joins." ++ key ++ ".joinAlias") j.joinAlias,
    ← text? registry r.ctx "conditionType" j.conditionType,
    ← text? registry r.ctx "condition" j.condition, ← text? registry r.ctx "indexBy" j.indexBy⟩

/-- A configured order. -/
def baseOrder (key : String) (o : BaseOrder) : Except Fault OrderClause := do
  let sort ← requiredText registry r.ctx ("query.orderBy." ++ key ++ ".sort") o.sort
  let path := "query.orderBy." ++ key ++ ".order"
  let direction ← requiredText registry r.ctx path o.order
  match Direction.ofName? direction with
  | some d => return ⟨sort, d⟩
  | none => throw (.invalidConfiguration path (.notADirection direction))

/-- The cache settings: none of them where caching is not allowed. -/
def cache : Except Fault CacheSettings := do
  let allowed ← findBool? registry r.ctx "allowCache" (r.layers "allowCache")
  if allowed = some false then return default
  else
    let rules := r.config.read.settings.cache
    let layers (key : String) (s : Setting?) : List Setting? := r.layers key ++ [s]
    let useQueryCache ← findBool? registry r.ctx "useQueryCache"
      (layers "useQueryCache" rules.useQueryCache)
    let useResultCache ← findBool? registry r.ctx "useResultCache"
      (layers "useResultCache" rules.useResultCache)
    let timeToLive ← findNat? registry r.ctx "timeToLive"
      (layers "timeToLive" rules.timeToLive)
    let cacheId ← findValue? registry r.ctx (layers "cacheId" rules.cacheId)
    let queryDriver ← findValue? registry r.ctx
      (layers "queryCacheDriver" rules.queryCacheDriver)
    let resultDriver ← findValue? registry r.ctx
      (layers "resultCacheDriver" rules.resultCacheDriver)
    return ⟨true, useQueryCache.getD true, useResultCache.getD true, timeToLive,
      cacheId.map Json.textOrCompact, queryDriver.bind Json.str?, resultDriver.bind Json.str?⟩

/-- The base query, with the values it binds. -/
def baseQuery : Except Fault (QuerySpec × Bound) := do
  let base := r.config.read.query
  let select ← select registry r
  let sources ← sources registry r
  let joins ← base.joins.entries.mapM fun (key, j) => join registry r key j
  let (conditions, bound) ← clause registry r.ctx [] base.conditions.values
  let (having, bound) ← clause registry r.ctx bound base.having.values
  let orderBy ← base.orderBy.entries.mapM fun (key, o) => baseOrder registry r key o
  let groupBy ← base.groupBy.entries.mapM fun (key, s) =>
    requiredText registry r.ctx ("query.groupBy." ++ key) s
  let cache ← cache registry r
  return ({ QuerySpec.ofType r.entityType with
    select, sources, joins, conditions, having, orderBy, groupBy, cache }, bound)

/-- Structural checks first, then the base query. -/
def resolving : Except Fault (CheckedQuery × QuerySpec × Bound) := do
  let checked ← CheckedQuery.of r.frontEnd.query
  checkParamCount registry r checked
  let (spec, bound) ← baseQuery registry r
  return (checked, spec, bound)

/-! ## Permission checking -/

/-- The placeholders of the back end: those of the settings, then those of the options, then
those of the call, the later ones winning. -/
def backEndPlaceholders : Except Fault (Table Placeholder) := do
  let configured := r.config.read.settings.placeholders
  let fromOptions ← match r.config.read.options.get? "placeholders" with
    | none => pure .empty
    | some s =>
      match Shape.table Placeholder.ofJson? s.toJson with
      | some t => pure t
      | none => throw (.invalidConfiguration "read.options.placeholders" .shape)
  return (configured.merge fromOptions).merge r.overrides.placeholders

/-- The parameter of a placeholder of the back end. -/
def backEndPlaceholder (name : String) (p : Placeholder) : Except Fault (String × Parameter) := do
  if Bound.isReserved name then
    throw (.invalidConfiguration ("read.settings.placeholders." ++ name) .reservedName)
  else
    let value ← p.value.resolve registry r.ctx
    let paramType ← text? registry r.ctx "placeholder type" p.paramType
    return (name, ⟨value, paramType⟩)

/-- The parameter of a placeholder of the front end, after its permission check and hooks. -/
def frontEndPlaceholder (node : Node) (name : String) (p : FrontEndPlaceholder) :
    Except Fault (String × Parameter) := do
  if Bound.isReserved name then throw (.placeholderNotAllowed name)
  else
    let field := node.placeholderNames.get? name
    let ctx := r.ctx.withExtra "placeholder" (.str name)
    let allowed ← Permission.allowedCheck registry node.toLayer
      (field.bind fun f => f.allowed) ctx
    if !allowed then throw (.placeholderNotAllowed name)
    else
      let hooked ← Permission.applyHooks registry node.toLayer field p.value ctx
      if hooked.vetoed then throw (.closureVeto name)
      else return (name, ⟨hooked.value, p.paramType⟩)

/-- The parameters of all placeholders, the front end coming last. -/
def placeholders (permissions : ReadPermissions) : Except Fault (List (String × Parameter)) := do
  let backEnd ← (← backEndPlaceholders r).entries.mapM fun (name, p) =>
    backEndPlaceholder registry r name p
  let frontEnd ← r.frontEnd.query.placeholders.entries.mapM fun (name, p) =>
    frontEndPlaceholder registry r permissions.placeholders name p
  return backEnd ++ frontEnd

/-- The direction that a requested order gets: its own, unless a hook changes it. -/
def authorizeOrder (node : Node) (field : String) (direction : Direction) :
    Except Fault OrderClause := do
  let ctx := r.ctx.withExtra "field" (.str field)
  let verdict ← Permission.check registry node.toLayer (node.field? field) .directions
    direction.name (.str direction.name) ctx
  if verdict.vetoed then throw (.closureVeto field)
  else if !verdict.allowed then throw (.orderByNotAllowed field direction.name)
  else
    let text := (verdict.value.str?).getD direction.name
    match Direction.ofName? text with
    | some d => return ⟨field, d⟩
    | none => throw (.invalidDirection field text)

/-- Refuse a group that is not permitted. -/
def authorizeGroup (node : Node) (field : String) : Except Fault Unit := do
  let layer := node.field? field
  let ctx := r.ctx.withExtra "field" (.str field)
  let hooked ← Permission.applyHooks registry node.toLayer layer (.str field) ctx
  if hooked.vetoed then throw (.closureVeto field)
  else
    let allowed ← Permission.allowedCheck registry node.toLayer
      (layer.bind fun f => f.allowed) ctx
    if allowed then return () else throw (.groupByNotAllowed field)

/-- A value bound to a generated parameter. -/
def generated (entry : String × Json) : String × Parameter := (entry.1, ⟨entry.2, none⟩)

/-- Authorize what the front end asks for, and add it to the base query. -/
def authorizing (checked : CheckedQuery) (spec : QuerySpec) (configured : Bound) :
    Except Fault QuerySpec := do
  let permissions := r.permissions
  let placeholders ← placeholders registry r permissions
  let (conditions, bound) ←
    Checked.buildAll registry permissions.conditions r.ctx [] checked.conditions
  let (having, bound) ←
    Checked.buildAll registry permissions.having r.ctx bound checked.having
  let orders ← checked.orders.mapM fun (field, direction) =>
    authorizeOrder registry r permissions.orderBy field direction
  checked.groups.forM (authorizeGroup registry r permissions.groupBy)
  return { spec with
    conditions := Expr.narrow spec.conditions conditions
    having := Expr.narrow spec.having having
    orderBy := spec.orderBy ++ orders
    groupBy := spec.groupBy ++ checked.groups
    parameters := .ofList ((Bound.named Bound.config configured).map generated ++
      placeholders ++ (Bound.named Bound.frontEnd bound).map generated) }

/-! ## Assembling -/

/-- The limit of a read whose configuration sets no maximum. -/
def defaultMaxLimit : Nat := 100

/-- Settle the page and the shape of the result. -/
def assembling (spec : QuerySpec) : Except Fault QuerySpec := do
  let options := r.frontEnd.options
  let limit := options.limit.getD QuerySpec.defaultLimit
  let offset := max (options.offset.getD QuerySpec.defaultOffset) 1
  let maxLimit := (← findNat? registry r.ctx "maxLimit"
    (r.layers "maxLimit" ++ [r.permissions.maxLimit])).getD defaultMaxLimit
  if maxLimit < limit then throw (.limitExceeded limit maxLimit)
  else
    let paginate ← findBool? registry r.ctx "paginate" (r.layers "paginate")
    let fetchJoin ← findBool? registry r.ctx "fetchJoin"
      (r.layers "fetchJoin" ++ [r.config.read.settings.fetchJoin])
    let hydrate ← findBool? registry r.ctx "hydrate" (r.layers "hydrate")
    return { spec with
      limit, offset
      shaping := ⟨paginate.getD false, fetchJoin.getD true, hydrate.getD true,
        options.returnCount.getD true⟩ }

end Compile

/-- The query specification of a read request. -/
def compile (registry : Registry) (r : ReadRequest) : Phased QuerySpec := do
  Phased.enter .resolving
  let (checked, spec, bound) ← Compile.resolving registry r
  Phased.enter .permissionChecking
  let spec ← Compile.authorizing registry r checked spec bound
  Phased.enter .assembling
  Compile.assembling registry r spec

end EntityGate
