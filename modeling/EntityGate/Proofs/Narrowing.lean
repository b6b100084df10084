/-
# Front-end input narrows the base query

A request is compared with the same request without the query part of its front end, everything
that settings see being held fixed.  If the request compiles, so does the bare one, and the two
queries differ only in what the front end may add: conjuncts at the end of the clauses, orders
and groups after the configured ones, and parameters of its own.

The one way in which front-end input could still reach a base condition is a text of the
configuration that refers to a parameter by name, `:name`, where the front end supplies that
name.  The comparison assumes that no base condition does so.
-/
import EntityGate.Proofs.Compilation
import EntityGate.Proofs.Evaluation

namespace EntityGate

open Compile Decision

namespace Expr

/-- The parameters that the texts of a clause refer to, none if it is absent. -/
def clauseTextNames : Option Expr → List String
  | none => []
  | some e => e.textNames

end Expr

namespace QuerySpec

/-- The parameters that the texts of both clauses refer to. -/
def textNames (q : QuerySpec) : List String :=
  Expr.clauseTextNames q.conditions ++ Expr.clauseTextNames q.having

/-- Queries that agree on the names in a clause agree on whether it holds of a row. -/
lemma clauseHolds_congr {q q' : QuerySpec} {row : Json} {clause : Option Expr}
    (hp : q.AgreeOn q' (Expr.clauseNames clause))
    (ht : q.AgreeOn q' (Expr.clauseTextNames clause)) :
    q.clauseHolds row clause = q'.clauseHolds row clause := by
  cases clause with
  | none => rfl
  | some e => exact holds_congr e hp ht

/-- A query narrows another one: it reads from the same place, keeps no row that the other one
refuses, and orders and groups by more at most. -/
structure Narrows (q base : QuerySpec) : Prop where
  entityType : q.entityType = base.entityType
  select : q.select = base.select
  sources : q.sources = base.sources
  joins : q.joins = base.joins
  cache : q.cache = base.cache
  configured : ∀ i, q.parameters.get? (Bound.paramName Bound.config i) =
    base.parameters.get? (Bound.paramName Bound.config i)
  orderBy : base.orderBy <+: q.orderBy
  groupBy : base.groupBy <+: q.groupBy
  conditions : ∀ row, q.clauseHolds row q.conditions = .ok true →
    base.clauseHolds row base.conditions = .ok true
  having : ∀ row, q.clauseHolds row q.having = .ok true →
    base.clauseHolds row base.having = .ok true

end QuerySpec

namespace ReadRequest

/-- The request without the query part of its front end. -/
def withoutQuery (r : ReadRequest) : ReadRequest :=
  { r with frontEnd := { r.frontEnd with query := default } }

/-- The base conditions of a request refer to no parameter that the front end supplies to the
query `q`: to none of its placeholders, and to none that is generated for a value of it. -/
def BaseApart (registry : Registry) (r : ReadRequest) (q : QuerySpec) : Prop :=
  ∀ spec bound, baseQuery registry r = .ok (spec, bound) → ∀ name ∈ spec.textNames,
    name ∉ r.frontEnd.query.placeholders.keys ∧
      ∀ i, name = Bound.paramName Bound.frontEnd i → name ∉ q.parameters.keys

end ReadRequest

namespace Compile

variable {registry : Registry} {r : ReadRequest}

/-! ## The bare request -/

/-- The input of a front end that asks for nothing, after the structural checks. -/
def nothingChecked : CheckedQuery := ⟨[], [], [], []⟩

lemma checked_default : CheckedQuery.of default = .ok nothingChecked := rfl

lemma checkParamCount_nothing {checked : CheckedQuery}
    (h : checkParamCount registry r checked = .ok ()) :
    checkParamCount registry r.withoutQuery nothingChecked = .ok () := by
  rw [checkParamCount, bind_eq_ok] at h
  obtain ⟨max?, hmax, -⟩ := h
  have hmax' : Resolve.findNat? registry r.withoutQuery.ctx "queryMaxParams"
      (r.withoutQuery.layers "queryMaxParams") = .ok max? := hmax
  rw [checkParamCount, hmax', ok_bind]
  cases max? with
  | none => rfl
  | some max => exact if_neg (Nat.not_lt_zero max)

lemma frontEndParameters_withoutQuery (permissions : ReadPermissions) :
    frontEndParameters registry r.withoutQuery permissions = .ok [] := rfl

/-- A name that the front end does not supply is bound alike with and without its entries. -/
lemma get?_allParameters {configured : Bound} {backEnd frontEnd : List (String × Parameter)}
    {values : Bound} {name : String} (hfrontEnd : name ∉ frontEnd.map Prod.fst)
    (hvalues : name ∉ (Bound.named Bound.frontEnd values).map Prod.fst) :
    (Table.ofList (allParameters configured backEnd frontEnd values)).get? name =
      (Table.ofList (allParameters configured backEnd [] [])).get? name := by
  rw [← keys_generated] at hvalues
  have hbare : allParameters configured backEnd [] [] =
      (Bound.named Bound.config configured).map generated ++ backEnd := by
    simp [allParameters, Bound.named]
  rw [hbare, allParameters, Table.get?_ofList_append hvalues, ← List.append_assoc,
    Table.get?_ofList_append hfrontEnd]

/-! ## Narrowing -/

end Compile

namespace QuerySpec

/-- A query that is extended and shaped narrows the base query, shaped alike, if no name that a
base clause mentions is bound in another way. -/
lemma extended_narrows {spec : QuerySpec} {conditions having : Option Expr}
    {orders : List OrderClause} {groups : List String}
    {parameters parameters' : List (String × Parameter)} {limit offset : Nat}
    {shaping : ResultShaping}
    (hnames : Bound.Configured (Expr.clauseNames spec.conditions) ∧
      Bound.Configured (Expr.clauseNames spec.having))
    (hconfigured : ∀ i, (Table.ofList parameters).get? (Bound.paramName Bound.config i) =
      (Table.ofList parameters').get? (Bound.paramName Bound.config i))
    (htexts : ∀ name ∈ spec.textNames,
      (Table.ofList parameters).get? name = (Table.ofList parameters').get? name) :
    ((spec.extended conditions having orders groups parameters).shaped limit offset
        shaping).Narrows
      ((spec.extended none none [] [] parameters').shaped limit offset shaping) := by
  have hparams : ∀ {names : List String}, Bound.Configured names →
      ((spec.extended conditions having orders groups parameters).shaped limit offset
          shaping).AgreeOn
        ((spec.extended none none [] [] parameters').shaped limit offset shaping) names := by
    intro names hnames
    refine ⟨rfl, fun name hname => ?_⟩
    obtain ⟨i, rfl⟩ := hnames name hname
    exact congrArg (Option.map Parameter.value) (hconfigured i)
  have htext : ((spec.extended conditions having orders groups parameters).shaped limit offset
        shaping).AgreeOn
      ((spec.extended none none [] [] parameters').shaped limit offset shaping)
      spec.textNames :=
    ⟨rfl, fun name hname => congrArg (Option.map Parameter.value) (htexts name hname)⟩
  refine ⟨rfl, rfl, rfl, rfl, rfl, hconfigured, ?_, ?_, fun row hrow => ?_, fun row hrow => ?_⟩
  · exact ⟨orders, by simp [extended, shaped]⟩
  · exact ⟨groups, by simp [extended, shaped]⟩
  · have hbase := clauseHolds_of_narrow hrow
    rwa [clauseHolds_congr (hparams hnames.1) htext.left] at hbase
  · have hbase := clauseHolds_of_narrow hrow
    rwa [clauseHolds_congr (hparams hnames.2) htext.right] at hbase

end QuerySpec

namespace Compile

/-- A request that compiles does so without the query part of its front end too, and its query
narrows the one that is compiled then. -/
theorem compile_narrows (registry : Registry) (r : ReadRequest) (q : QuerySpec)
    (h : (compile registry r).outcome.1 = .ok q) (hapart : r.BaseApart registry q) :
    ∃ base, (compile registry r.withoutQuery).outcome.1 = .ok base ∧ q.Narrows base := by
  obtain ⟨checked, spec, configured, authorized, hres, hauth, hass⟩ := compile_eq_ok.mp h
  obtain ⟨-, hcount, hbase⟩ := resolving_eq_ok.mp hres
  obtain ⟨backEnd, frontEnd, conditions, _, having, values, orders, hbackEnd, hfrontEnd, -, -, -,
    -, hextended⟩ := authorizing_eq_ok.mp hauth
  obtain ⟨limit, offset, shaping, hshaped, hshape⟩ := assembling_eq_ok hass
  -- the bare request goes through the same stages with nothing to check or to authorize
  have hres' : resolving registry r.withoutQuery = .ok (nothingChecked, spec, configured) :=
    resolving_eq_ok.mpr ⟨checked_default, checkParamCount_nothing hcount, hbase⟩
  have hauth' : authorizing registry r.withoutQuery nothingChecked spec configured =
      .ok (spec.extended none none [] [] (allParameters configured backEnd [] [])) :=
    authorizing_eq_ok.mpr ⟨backEnd, [], none, [], none, [], [], hbackEnd,
      frontEndParameters_withoutQuery _, rfl, rfl, rfl, rfl, rfl⟩
  refine ⟨_, compile_eq_ok.mpr ⟨_, _, _, _, hres', hauth', hshape _⟩, ?_⟩
  rw [hshaped, hextended]
  have hkeys := frontEndParameters_keys hfrontEnd
  refine QuerySpec.extended_narrows (baseQuery_names hbase) (fun i => ?_) fun name hname => ?_
  · -- configured names are reserved, so no placeholder takes one
    refine get?_allParameters (fun hmem => ?_) fun hmem => ?_
    · have := frontEndParameters_not_reserved hfrontEnd hmem
      rw [Bound.isReserved_config] at this
      cases this
    · obtain ⟨j, -, hj⟩ := Bound.mem_keys_named.mp hmem
      exact Bound.config_ne_frontEnd i j hj
  · obtain ⟨hplaceholder, hgenerated⟩ := hapart spec configured hbase name hname
    refine get?_allParameters (hkeys ▸ hplaceholder) fun hmem => ?_
    obtain ⟨i, -, hi⟩ := Bound.mem_keys_named.mp hmem
    refine hgenerated i hi ?_
    rw [hshaped, hextended]
    refine Table.mem_keys_ofList.mpr ?_
    rw [allParameters, List.map_append, keys_generated]
    exact List.mem_append_right _ hmem

/-! ## A request that asks for more -/

/-- Albums of one owner, whose name the back end supplies; a client may filter and send
placeholders. -/
def ownedAlbums : EntityConfig :=
  { (default : EntityConfig) with
    read := { (default : ReadRules) with
      query := { (default : BaseQuery) with
        conditions := .ofList [("owner", ⟨.and, .expression "eq"
          [.value (.literal (.str "t.owner")), .value (.literal (.str ":me"))]⟩)] }
      settings := { (default : ReadSettings) with
        placeholders := .ofList [("me", ⟨.literal (.str "ann"), none⟩)] }
      permissions := { (default : ReadPermissions) with
        conditions := { (default : Node) with permissive := some (.literal (.bool true)) }
        placeholders := { (default : Node) with permissive := some (.literal (.bool true)) } } } }

/-- A request that tries to get around the owner by a disjunction. -/
def widerRequest : ReadRequest where
  entityType := "album"
  config := ownedAlbums
  frontEnd := { (default : FrontEndOptions) with
    query := { (default : FrontEndQuery) with
      conditions := [⟨some "t.year", .or, "eq", [.bool true], []⟩]
      placeholders := .ofList [("you", ⟨.str "bob", none⟩)] } }
  overrides := default
  ctx := .ofCall .null .null .null .null

/-- The query of that request: the disjunction has become a conjunct. -/
def widerQuery : QuerySpec where
  entityType := "album"
  select := ["t"]
  sources := [⟨"album", "t", none⟩]
  joins := []
  conditions := some (.and [.predicate "t.owner" .eq [.fragment ":me"],
    .predicate "t.year" .eq [.param "frontEndParam0"]])
  having := none
  orderBy := []
  groupBy := []
  parameters := .ofList [("me", ⟨.str "ann", none⟩), ("you", ⟨.str "bob", none⟩),
    ("frontEndParam0", ⟨.bool true, none⟩)]
  cache := ⟨true, true, true, none, none, none, none⟩
  limit := 25
  offset := 1
  shaping := .standard

lemma widerRequest_compiles :
    (compile .standard widerRequest).outcome.1 = .ok widerQuery := by
  have hchecked : CheckedQuery.of widerRequest.frontEnd.query =
      .ok ⟨[.leaf .or "t.year" .eq [.literal (.bool true)]], [], [], []⟩ := by
    simp only [CheckedQuery.of, widerRequest, Condition.check, List.mapM_cons,
      Condition.checkWithin, Condition.checkArguments]
    rfl
  exact compile_eq_ok.mpr ⟨_, _, _, _, resolving_eq_ok.mpr ⟨hchecked, rfl, rfl⟩, rfl, rfl⟩

lemma widerRequest_apart : widerRequest.BaseApart .standard widerQuery := by
  intro spec bound hbase name hname
  have hspec : spec.textNames = ["me"] := by
    cases hbase
    rfl
  rw [hspec, List.mem_singleton] at hname
  subst hname
  refine ⟨by decide, fun i hi => ?_⟩
  have hreserved := Bound.isReserved_frontEnd i
  rw [← hi] at hreserved
  exact absurd hreserved (by decide)

/-- The base condition of the albums refers to a parameter by name, and still the query of that
request narrows it. -/
theorem widerQuery_narrows :
    (compile .standard widerRequest).outcome.1 = .ok widerQuery ∧
      widerRequest.BaseApart .standard widerQuery ∧
      ∃ base, (compile .standard widerRequest.withoutQuery).outcome.1 = .ok base ∧
        widerQuery.Narrows base :=
  ⟨widerRequest_compiles, widerRequest_apart,
    compile_narrows .standard widerRequest widerQuery widerRequest_compiles widerRequest_apart⟩

end Compile

end EntityGate
