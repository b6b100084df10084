/-
# Which requests a compilation accepts

A request whose structure is sound and whose settings resolve compiles exactly if everything it
asks for is permitted: each test at every depth, each order, each group and each placeholder, with
no more tests and placeholders than are allowed and no more rows.  The query then consists of the
base query and of what was asked for, test by test and order by order, and of nothing else.
-/
import EntityGate.Proofs.Building
import Mathlib.Data.List.Forall2

namespace EntityGate

open Decision

namespace Decision

variable {ε α β : Type}

/-- What a loop returns corresponds pass by pass to what it ran over. -/
lemma forall₂_of_mapM_eq_ok {f : α → Except ε β} {r : α → β → Prop}
    (hf : ∀ a b, f a = .ok b → r a b) {l : List α} {bs : List β} (hl : l.mapM f = .ok bs) :
    List.Forall₂ r l bs := by
  induction l generalizing bs with
  | nil =>
    have : bs = [] := by simpa [eq_comm] using hl
    exact this ▸ .nil
  | cons a l ih =>
    obtain ⟨b, hb, rest, hrest, rfl⟩ := mapM_cons_eq_ok.mp hl
    exact .cons (hf a b hb) (ih hrest)

end Decision

namespace Table

variable {α : Type}

/-- The last of some entries under a name is what a table holds after they were inserted. -/
lemma get?_foldl_insert_of_mem {more : List (String × α)} {name : String}
    (h : name ∈ more.map Prod.fst) (t : Table α) :
    ∃ v, (name, v) ∈ more ∧
      (more.foldl (fun t (k, v) => t.insert k v) t).get? name = some v := by
  induction more generalizing t with
  | nil => simp at h
  | cons entry rest ih =>
    obtain ⟨k, v⟩ := entry
    rw [List.foldl_cons]
    by_cases hrest : name ∈ rest.map Prod.fst
    · obtain ⟨u, hu, hget⟩ := ih hrest (t.insert k v)
      exact ⟨u, List.mem_cons_of_mem _ hu, hget⟩
    · have hname : name = k := by
        rw [List.map_cons, List.mem_cons] at h
        exact h.resolve_right hrest
      subst hname
      refine ⟨v, List.mem_cons_self, ?_⟩
      rw [get?_foldl_insert_of_notMem hrest, get?_insert, if_pos rfl]

lemma mem_keys_merge {t other : Table α} {name : String} :
    name ∈ (t.merge other).keys ↔ name ∈ t.keys ∨ name ∈ other.keys := by
  rw [merge, mergeWith, keys.eq_def other]
  induction other.entries generalizing t with
  | nil => simp
  | cons entry rest ih =>
    obtain ⟨k, v⟩ := entry
    rw [List.foldl_cons, ih, mem_keys_insert, List.map_cons, List.mem_cons, or_assoc]

end Table

/-! ## What a front end asks for -/

namespace Compile

variable {registry : Registry} {r : ReadRequest}

/-- An order that the layers of a node permit, with what has become of its direction. -/
def Ordered (registry : Registry) (node : Node) (ctx : Context) (asked : String × Direction)
    (clause : OrderClause) : Prop :=
  ∃ after, Permission.Permits registry node.toLayer (node.field? asked.1) .directions
      asked.2.name (.str asked.2.name) (ctx.withExtra "field" (.str asked.1)) after ∧
    Direction.ofName? (after.str?.getD asked.2.name) = some clause.direction ∧
    clause.field = asked.1

/-- A group that the layers of a node permit. -/
def Grouped (registry : Registry) (node : Node) (ctx : Context) (field : String) : Prop :=
  (∃ after, Permission.Passes registry node.toLayer (node.field? field) (.str field)
      (ctx.withExtra "field" (.str field)) after) ∧
    Permission.Allows registry node.toLayer ((node.field? field).bind fun f => f.allowed)
      (ctx.withExtra "field" (.str field))

/-- A placeholder that the layers of a node permit, with what has become of its value. -/
structure Placed (registry : Registry) (node : Node) (ctx : Context) (name : String)
    (value after : Json) : Prop where
  allowed : Permission.Allows registry node.toLayer
    ((node.placeholderNames.get? name).bind fun f => f.allowed)
    (ctx.withExtra "placeholder" (.str name))
  passes : Permission.Passes registry node.toLayer (node.placeholderNames.get? name) value
    (ctx.withExtra "placeholder" (.str name)) after

lemma authorizeOrder_eq_ok {node : Node} {field : String} {direction : Direction}
    {clause : OrderClause} :
    authorizeOrder registry r node field direction = .ok clause ↔
      Ordered registry node r.ctx (field, direction) clause := by
  rw [authorizeOrder, Ordered]
  constructor
  · intro h
    obtain ⟨⟨allowed, vetoed, after⟩, hverdict, h⟩ := bind_eq_ok.mp h
    cases vetoed with
    | true => cases h
    | false =>
      cases allowed with
      | false => cases h
      | true =>
        refine ⟨after, Permission.check_eq_allowed.mp hverdict, ?_⟩
        simp only [Bool.false_eq_true, if_false, Bool.not_true] at h
        split at h
        · rename_i d hd
          cases h
          exact ⟨hd, rfl⟩
        · cases h
  · rintro ⟨after, hpermits, hdirection, hfield⟩
    refine bind_eq_ok.mpr ⟨_, Permission.check_eq_allowed.mpr hpermits, ?_⟩
    simp only [Bool.false_eq_true, if_false, Bool.not_true, hdirection]
    cases clause
    cases hfield
    rfl

lemma authorizeGroup_eq_ok {node : Node} {field : String} :
    authorizeGroup registry r node field = .ok () ↔ Grouped registry node r.ctx field := by
  rw [authorizeGroup, Grouped]
  constructor
  · intro h
    obtain ⟨⟨after, vetoed⟩, hhooks, h⟩ := bind_eq_ok.mp h
    cases vetoed with
    | true => cases h
    | false =>
      obtain ⟨allowed, hallowed, h⟩ := bind_eq_ok.mp h
      cases allowed with
      | false => cases h
      | true =>
        exact ⟨⟨after, Permission.applyHooks_eq_ok.mp hhooks⟩,
          Permission.allowedCheck_eq_true.mp hallowed⟩
  · rintro ⟨⟨after, hpasses⟩, hallows⟩
    exact bind_eq_ok.mpr ⟨_, Permission.applyHooks_eq_ok.mpr hpasses,
      bind_eq_ok.mpr ⟨true, Permission.allowedCheck_eq_true.mpr hallows, rfl⟩⟩

/-- The parameter of a placeholder, if its name is free and the layers permit it. -/
lemma frontEndPlaceholder_eq_ok_iff {node : Node} {name : String} {p : FrontEndPlaceholder}
    {entry : String × Parameter} :
    frontEndPlaceholder registry r node name p = .ok entry ↔
      Bound.isReserved name = false ∧ ∃ after, Placed registry node r.ctx name p.value after ∧
        entry = (name, ⟨after, p.paramType⟩) := by
  rw [frontEndPlaceholder]
  cases hreserved : Bound.isReserved name with
  | true => simp
  | false =>
    simp only [Bool.false_eq_true, if_false, true_and]
    constructor
    · intro h
      obtain ⟨allowed, hallowed, h⟩ := bind_eq_ok.mp h
      cases allowed with
      | false => cases h
      | true =>
        obtain ⟨⟨after, vetoed⟩, hhooks, h⟩ := bind_eq_ok.mp h
        cases vetoed with
        | true => cases h
        | false =>
          cases h
          exact ⟨after, ⟨Permission.allowedCheck_eq_true.mp hallowed,
            Permission.applyHooks_eq_ok.mp hhooks⟩, rfl⟩
    · rintro ⟨after, ⟨hallows, hpasses⟩, rfl⟩
      exact bind_eq_ok.mpr ⟨true, Permission.allowedCheck_eq_true.mpr hallows,
        bind_eq_ok.mpr ⟨⟨after, false⟩, Permission.applyHooks_eq_ok.mpr hpasses, rfl⟩⟩

/-! ## What a request resolves to -/

end Compile

/-- What a request resolves to before anything is authorized. -/
structure Resolved where
  checked : CheckedQuery
  base : QuerySpec
  configured : Bound
  maxParams : Option Nat
  maxLimit : Option Nat
  /-- The placeholders among the options of the entity. -/
  fromOptions : Table Placeholder

namespace ReadRequest

/-- The placeholders among the options of the entity, if they can be read. -/
def optionPlaceholders? (r : ReadRequest) : Option (Table Placeholder) :=
  match r.config.read.options.get? "placeholders" with
  | none => some .empty
  | some s => Shape.table Placeholder.ofJson? s.toJson

/-- The placeholders of the back end. -/
def placeholdersWith (r : ReadRequest) (fromOptions : Table Placeholder) : Table Placeholder :=
  (r.config.read.settings.placeholders.merge fromOptions).merge r.overrides.placeholders

/-- A request whose structure is sound and whose settings, those of permissions apart, resolve. -/
structure Resolves (registry : Registry) (r : ReadRequest) (s : Resolved) : Prop where
  checked : CheckedQuery.of r.frontEnd.query = .ok s.checked
  base : Compile.baseQuery registry r = .ok (s.base, s.configured)
  maxParams : Resolve.findNat? registry r.ctx "queryMaxParams" (r.layers "queryMaxParams") =
    .ok s.maxParams
  options : r.optionPlaceholders? = some s.fromOptions
  values : ∀ entry ∈ (r.placeholdersWith s.fromOptions).entries, ∃ value paramType,
    entry.2.value.resolve registry r.ctx = .ok value ∧
      Resolve.text? registry r.ctx "placeholder type" entry.2.paramType = .ok paramType
  maxLimit : Resolve.findNat? registry r.ctx "maxLimit"
    (r.layers "maxLimit" ++ [r.permissions.maxLimit]) = .ok s.maxLimit
  paginate : ∃ b, Resolve.findBool? registry r.ctx "paginate" (r.layers "paginate") = .ok b
  fetchJoin : ∃ b, Resolve.findBool? registry r.ctx "fetchJoin"
    (r.layers "fetchJoin" ++ [r.config.read.settings.fetchJoin]) = .ok b
  hydrate : ∃ b, Resolve.findBool? registry r.ctx "hydrate" (r.layers "hydrate") = .ok b

/-- A request for nothing that is not permitted. -/
structure Admits (registry : Registry) (r : ReadRequest) (s : Resolved) : Prop where
  conditions : AllPermitted registry r.permissions.conditions r.ctx
    (Checked.itemTests s.checked.conditions)
  having : AllPermitted registry r.permissions.having r.ctx (Checked.itemTests s.checked.having)
  orders : ∀ asked ∈ s.checked.orders,
    ∃ clause, Compile.Ordered registry r.permissions.orderBy r.ctx asked clause
  groups : ∀ field ∈ s.checked.groups, Compile.Grouped registry r.permissions.groupBy r.ctx field
  placeholders : ∀ entry ∈ r.frontEnd.query.placeholders.entries, ∃ after,
    Compile.Placed registry r.permissions.placeholders r.ctx entry.1 entry.2.value after
  /-- No layer of placeholders uses a name that is kept for generated parameters. -/
  names : ∀ name, name ∈ r.config.read.settings.placeholders.keys ∨ name ∈ s.fromOptions.keys ∨
    name ∈ r.overrides.placeholders.keys ∨ name ∈ r.frontEnd.query.placeholders.keys →
      Bound.isReserved name = false
  count : ∀ max, s.maxParams = some max →
    (Checked.itemTests s.checked.conditions).length + (Checked.itemTests s.checked.having).length +
      r.frontEnd.query.placeholders.size ≤ max
  limit : r.frontEnd.options.limit.getD QuerySpec.defaultLimit ≤
    s.maxLimit.getD Compile.defaultMaxLimit

/-- A query that consists of the base query and of what a request asks for. -/
structure Answers (registry : Registry) (r : ReadRequest) (s : Resolved) (q : QuerySpec) :
    Prop where
  conditions : Expr.clauseTests q.conditions = Expr.clauseTests s.base.conditions ++
    (Checked.itemTests s.checked.conditions).map FieldTest.key
  having : Expr.clauseTests q.having = Expr.clauseTests s.base.having ++
    (Checked.itemTests s.checked.having).map FieldTest.key
  orders : ∃ orders, q.orderBy = s.base.orderBy ++ orders ∧
    List.Forall₂ (Compile.Ordered registry r.permissions.orderBy r.ctx) s.checked.orders orders
  groups : q.groupBy = s.base.groupBy ++ s.checked.groups
  /-- A placeholder of the front end has the value that its hooks made of it. -/
  placeholders : ∀ name ∈ r.frontEnd.query.placeholders.keys, ∃ p after,
    (name, p) ∈ r.frontEnd.query.placeholders.entries ∧
      Compile.Placed registry r.permissions.placeholders r.ctx name p.value after ∧
      q.parameters.get? name = some ⟨after, p.paramType⟩
  /-- Every other parameter is generated or comes from the back end. -/
  names : ∀ name ∈ q.parameters.keys, Bound.isReserved name = true ∨
    name ∈ (r.placeholdersWith s.fromOptions).keys ∨ name ∈ r.frontEnd.query.placeholders.keys

end ReadRequest

namespace Compile

variable {registry : Registry} {r : ReadRequest} {s : Resolved}

/-! ## The single checks -/

lemma backEndPlaceholders_of_options {fromOptions : Table Placeholder}
    (h : r.optionPlaceholders? = some fromOptions) :
    backEndPlaceholders r = .ok (r.placeholdersWith fromOptions) := by
  rw [ReadRequest.optionPlaceholders?] at h
  rw [backEndPlaceholders]
  cases hoption : r.config.read.options.get? "placeholders" with
  | none =>
    rw [hoption] at h
    cases h
    rfl
  | some s =>
    rw [hoption] at h
    simp only [show Placeholder.ofJson?.table s.toJson = some fromOptions from h]
    rfl

lemma mem_keys_placeholdersWith {fromOptions : Table Placeholder} {name : String} :
    name ∈ (r.placeholdersWith fromOptions).keys ↔
      name ∈ r.config.read.settings.placeholders.keys ∨ name ∈ fromOptions.keys ∨
        name ∈ r.overrides.placeholders.keys := by
  rw [ReadRequest.placeholdersWith, Table.mem_keys_merge, Table.mem_keys_merge, or_assoc]

lemma backEndPlaceholder_eq_ok {name : String} {p : Placeholder} {entry : String × Parameter}
    (h : backEndPlaceholder registry r name p = .ok entry) :
    entry.1 = name ∧ Bound.isReserved name = false := by
  rw [backEndPlaceholder] at h
  split at h
  · cases h
  · rename_i hreserved
    obtain ⟨value, -, h⟩ := bind_eq_ok.mp h
    obtain ⟨paramType, -, h⟩ := bind_eq_ok.mp h
    cases h
    exact ⟨rfl, by simpa using hreserved⟩

/-- Where all of them resolve, the placeholders of the back end are accepted exactly if no name is
reserved. -/
lemma backEndParameters_accepts (h : r.Resolves registry s) :
    (∃ entries, backEndParameters registry r = .ok entries) ↔
      ∀ name ∈ (r.placeholdersWith s.fromOptions).keys, Bound.isReserved name = false := by
  have hparameters : backEndParameters registry r =
      (r.placeholdersWith s.fromOptions).entries.mapM fun entry =>
        backEndPlaceholder registry r entry.1 entry.2 := by
    rw [backEndParameters, backEndPlaceholders_of_options h.options]
    rfl
  rw [hparameters, exists_mapM_eq_ok, Table.keys]
  constructor
  · intro hall name hname
    obtain ⟨entry, hentry, rfl⟩ := List.mem_map.mp hname
    obtain ⟨made, hmade⟩ := hall entry hentry
    exact (backEndPlaceholder_eq_ok hmade).2
  · intro hfree entry hentry
    obtain ⟨value, paramType, hvalue, htype⟩ := h.values entry hentry
    refine ⟨(entry.1, ⟨value, paramType⟩), ?_⟩
    show backEndPlaceholder registry r entry.1 entry.2 = _
    rw [backEndPlaceholder, hfree entry.1 (List.mem_map_of_mem hentry)]
    exact bind_eq_ok.mpr ⟨value, hvalue, bind_eq_ok.mpr ⟨paramType, htype, rfl⟩⟩

lemma backEndParameters_keys (h : r.Resolves registry s) {entries : List (String × Parameter)}
    (hentries : backEndParameters registry r = .ok entries) :
    entries.map Prod.fst = (r.placeholdersWith s.fromOptions).keys := by
  rw [backEndParameters, backEndPlaceholders_of_options h.options] at hentries
  exact map_of_mapM_eq_ok (fun _ _ hentry => (backEndPlaceholder_eq_ok hentry).1) hentries

/-- The placeholders of the front end are accepted exactly if no name is reserved and each of them
is permitted. -/
lemma frontEndParameters_accepts :
    (∃ entries, frontEndParameters registry r r.permissions = .ok entries) ↔
      (∀ name ∈ r.frontEnd.query.placeholders.keys, Bound.isReserved name = false) ∧
        ∀ entry ∈ r.frontEnd.query.placeholders.entries, ∃ after,
          Placed registry r.permissions.placeholders r.ctx entry.1 entry.2.value after := by
  rw [frontEndParameters, exists_mapM_eq_ok, Table.keys]
  constructor
  · intro hall
    refine ⟨fun name hname => ?_, fun entry hentry => ?_⟩
    · obtain ⟨entry, hentry, rfl⟩ := List.mem_map.mp hname
      obtain ⟨made, hmade⟩ := hall entry hentry
      exact (frontEndPlaceholder_eq_ok_iff.mp hmade).1
    · obtain ⟨made, hmade⟩ := hall entry hentry
      obtain ⟨-, after, hplaced, -⟩ := frontEndPlaceholder_eq_ok_iff.mp hmade
      exact ⟨after, hplaced⟩
  · rintro ⟨hfree, hplaced⟩ entry hentry
    obtain ⟨after, hafter⟩ := hplaced entry hentry
    exact ⟨_, frontEndPlaceholder_eq_ok_iff.mpr
      ⟨hfree entry.1 (List.mem_map_of_mem hentry), after, hafter, rfl⟩⟩

lemma checkParamCount_eq_ok (h : r.Resolves registry s) :
    checkParamCount registry r s.checked = .ok () ↔
      ∀ max, s.maxParams = some max →
        s.checked.leafCount + r.frontEnd.query.placeholders.size ≤ max := by
  rw [checkParamCount, h.maxParams, ok_bind]
  cases s.maxParams with
  | none => simp
  | some max => simp

/-- Where its settings resolve, assembling refuses nothing but a limit above the maximum. -/
lemma assembling_accepts (h : r.Resolves registry s) (spec : QuerySpec) :
    (∃ q, assembling registry r spec = .ok q) ↔
      r.frontEnd.options.limit.getD QuerySpec.defaultLimit ≤
        s.maxLimit.getD defaultMaxLimit := by
  obtain ⟨paginate, hpaginate⟩ := h.paginate
  obtain ⟨fetchJoin, hfetchJoin⟩ := h.fetchJoin
  obtain ⟨hydrate, hhydrate⟩ := h.hydrate
  simp only [assembling, h.maxLimit, ok_bind, hpaginate, hfetchJoin, hhydrate]
  by_cases hlimit : s.maxLimit.getD defaultMaxLimit <
      r.frontEnd.options.limit.getD QuerySpec.defaultLimit
  · simp [hlimit, Nat.not_le.mpr hlimit]
  · simp [hlimit, Nat.not_lt.mp hlimit]

lemma leafCount_eq (checked : CheckedQuery) :
    checked.leafCount = (Checked.itemTests checked.conditions).length +
      (Checked.itemTests checked.having).length := by
  rw [CheckedQuery.leafCount, Checked.length_itemTests, Checked.length_itemTests]

/-! ## The request as a whole -/

/-- Of a request that resolves, only the count, the permissions and the limit decide. -/
lemma compile_of_resolves (h : r.Resolves registry s) {q : QuerySpec} :
    (compile registry r).outcome.1 = .ok q ↔
      checkParamCount registry r s.checked = .ok () ∧
        ∃ authorized, authorizing registry r s.checked s.base s.configured = .ok authorized ∧
          assembling registry r authorized = .ok q := by
  rw [compile_eq_ok]
  constructor
  · rintro ⟨checked, spec, bound, authorized, hresolving, hauthorizing, hassembling⟩
    obtain ⟨hchecked, hcount, hbase⟩ := resolving_eq_ok.mp hresolving
    cases hchecked.symm.trans h.checked
    cases hbase.symm.trans h.base
    exact ⟨hcount, authorized, hauthorizing, hassembling⟩
  · rintro ⟨hcount, authorized, hauthorizing, hassembling⟩
    exact ⟨s.checked, s.base, s.configured, authorized,
      resolving_eq_ok.mpr ⟨h.checked, hcount, h.base⟩, hauthorizing, hassembling⟩

/-- What passes authorization asks for nothing that is not permitted. -/
lemma admits_of_stages (h : r.Resolves registry s)
    (hcount : checkParamCount registry r s.checked = .ok ()) {authorized q : QuerySpec}
    (hauthorizing : authorizing registry r s.checked s.base s.configured = .ok authorized)
    (hassembling : assembling registry r authorized = .ok q) : r.Admits registry s := by
  obtain ⟨backEnd, frontEnd, conditions, bound, having, bound', orders, hbackEnd, hfrontEnd,
    hconditions, hhaving, horders, hgroups, -⟩ := authorizing_eq_ok.mp hauthorizing
  have hbackEndNames := (backEndParameters_accepts h).mp ⟨backEnd, hbackEnd⟩
  obtain ⟨hfrontEndNames, hplaced⟩ := frontEndParameters_accepts.mp ⟨frontEnd, hfrontEnd⟩
  refine ⟨(Checked.buildAll_sound hconditions).1, (Checked.buildAll_sound hhaving).1,
    fun asked hasked => ?_, fun field hfield => ?_, hplaced, fun name hname => ?_,
    fun max hmax => ?_, (assembling_accepts h authorized).mp ⟨q, hassembling⟩⟩
  · obtain ⟨clause, hclause⟩ := exists_mapM_eq_ok.mp ⟨orders, horders⟩ asked hasked
    exact ⟨clause, authorizeOrder_eq_ok.mp hclause⟩
  · exact authorizeGroup_eq_ok.mp (forM_eq_ok.mp hgroups field hfield)
  · rcases hname with hname | hname | hname | hname
    · exact hbackEndNames name (mem_keys_placeholdersWith.mpr (.inl hname))
    · exact hbackEndNames name (mem_keys_placeholdersWith.mpr (.inr (.inl hname)))
    · exact hbackEndNames name (mem_keys_placeholdersWith.mpr (.inr (.inr hname)))
    · exact hfrontEndNames name hname
  · rw [← leafCount_eq]
    exact (checkParamCount_eq_ok h).mp hcount max hmax

/-- A request for nothing that is not permitted passes all stages. -/
lemma stages_of_admits (h : r.Resolves registry s) (hadmits : r.Admits registry s) :
    checkParamCount registry r s.checked = .ok () ∧
      ∃ q authorized, authorizing registry r s.checked s.base s.configured = .ok authorized ∧
        assembling registry r authorized = .ok q := by
  refine ⟨(checkParamCount_eq_ok h).mpr fun max hmax => ?_, ?_⟩
  · rw [leafCount_eq]
    exact hadmits.count max hmax
  obtain ⟨backEnd, hbackEnd⟩ := (backEndParameters_accepts h).mpr fun name hname => by
    refine hadmits.names name ?_
    rcases mem_keys_placeholdersWith.mp hname with hname | hname | hname
    · exact .inl hname
    · exact .inr (.inl hname)
    · exact .inr (.inr (.inl hname))
  obtain ⟨frontEnd, hfrontEnd⟩ :
      ∃ entries, frontEndParameters registry r r.permissions = .ok entries :=
    frontEndParameters_accepts.mpr
      ⟨fun name hname => hadmits.names name (.inr (.inr (.inr hname))), hadmits.placeholders⟩
  obtain ⟨conditions, bound, hconditions⟩ := Checked.buildAll_complete hadmits.conditions []
  obtain ⟨having, bound', hhaving⟩ := Checked.buildAll_complete hadmits.having bound
  obtain ⟨orders, horders⟩ := exists_mapM_eq_ok.mpr fun asked hasked => by
    obtain ⟨clause, hclause⟩ := hadmits.orders asked hasked
    exact ⟨clause, authorizeOrder_eq_ok.mpr hclause⟩
  have hgroups : s.checked.groups.forM (authorizeGroup registry r r.permissions.groupBy) = .ok () :=
    forM_eq_ok.mpr fun field hfield => authorizeGroup_eq_ok.mpr (hadmits.groups field hfield)
  have hauthorizing : authorizing registry r s.checked s.base s.configured =
      .ok (s.base.extended conditions having orders s.checked.groups
        (allParameters s.configured backEnd frontEnd bound')) :=
    authorizing_eq_ok.mpr ⟨backEnd, frontEnd, conditions, bound, having, bound', orders, hbackEnd,
      hfrontEnd, hconditions, hhaving, horders, hgroups, rfl⟩
  obtain ⟨q, hq⟩ := (assembling_accepts h _).mpr hadmits.limit
  exact ⟨q, _, hauthorizing, hq⟩

/-- What passes authorization is the base query with just what was asked for. -/
lemma answers_of_stages (h : r.Resolves registry s) {authorized q : QuerySpec}
    (hauthorizing : authorizing registry r s.checked s.base s.configured = .ok authorized)
    (hassembling : assembling registry r authorized = .ok q) : r.Answers registry s q := by
  obtain ⟨backEnd, frontEnd, conditions, bound, having, bound', orders, hbackEnd, hfrontEnd,
    hconditions, hhaving, horders, -, rfl⟩ := authorizing_eq_ok.mp hauthorizing
  obtain ⟨limit, offset, shaping, rfl, -⟩ := assembling_eq_ok hassembling
  have hkeys := frontEndParameters_keys hfrontEnd
  have hordered : List.Forall₂ (Ordered registry r.permissions.orderBy r.ctx) s.checked.orders
      orders := by
    refine forall₂_of_mapM_eq_ok ?_ horders
    rintro ⟨field, direction⟩ clause hclause
    exact authorizeOrder_eq_ok.mp hclause
  refine ⟨?_, ?_, ⟨orders, rfl, hordered⟩, rfl, fun name hname => ?_, fun name hname => ?_⟩
  · exact (Expr.clauseTests_narrow _ _).trans
      (congrArg (Expr.clauseTests s.base.conditions ++ ·) (Checked.buildAll_sound hconditions).2)
  · exact (Expr.clauseTests_narrow _ _).trans
      (congrArg (Expr.clauseTests s.base.having ++ ·) (Checked.buildAll_sound hhaving).2)
  · -- the parameters of the front end come after all others but the generated ones
    rw [← hkeys] at hname
    have hfree := frontEndParameters_not_reserved hfrontEnd hname
    have hgenerated : name ∉
        ((Bound.named Bound.frontEnd bound').map generated).map Prod.fst := by
      intro hmem
      rw [keys_generated] at hmem
      obtain ⟨i, -, rfl⟩ := Bound.mem_keys_named.mp hmem
      rw [Bound.isReserved_frontEnd] at hfree
      cases hfree
    obtain ⟨parameter, hparameter, hget⟩ := Table.get?_foldl_insert_of_mem hname
      (Table.ofList ((Bound.named Bound.config s.configured).map generated ++ backEnd))
    obtain ⟨entry, hentry, hmade⟩ := mem_of_mapM_eq_ok hfrontEnd hparameter
    obtain ⟨-, after, hplaced, heq⟩ := frontEndPlaceholder_eq_ok_iff.mp hmade
    obtain ⟨rfl, rfl⟩ := Prod.mk.inj heq
    refine ⟨entry.2, after, hentry, hplaced, ?_⟩
    show (Table.ofList (allParameters s.configured backEnd frontEnd bound')).get? entry.1 = _
    rw [allParameters, Table.get?_ofList_append hgenerated, ← List.append_assoc,
      Table.ofList_append, hget]
  · have hname : name ∈ (Table.ofList
        (allParameters s.configured backEnd frontEnd bound')).keys := hname
    rw [Table.mem_keys_ofList, allParameters] at hname
    simp only [List.map_append, List.mem_append, keys_generated] at hname
    rcases hname with (hname | hname | hname) | hname
    · obtain ⟨i, -, rfl⟩ := Bound.mem_keys_named.mp hname
      exact .inl (Bound.isReserved_config i)
    · rw [backEndParameters_keys h hbackEnd] at hname
      exact .inr (.inl hname)
    · rw [hkeys] at hname
      exact .inr (.inr hname)
    · obtain ⟨i, -, rfl⟩ := Bound.mem_keys_named.mp hname
      exact .inl (Bound.isReserved_frontEnd i)

/-- A request whose structure is sound and whose settings resolve compiles if and only if all that
it asks for is permitted, and then to the base query with just that. -/
theorem accepts_iff_admits (registry : Registry) (r : ReadRequest) (s : Resolved)
    (h : r.Resolves registry s) :
    ((∃ q, (compile registry r).outcome.1 = .ok q) ↔ r.Admits registry s) ∧
      ∀ q, (compile registry r).outcome.1 = .ok q → r.Answers registry s q := by
  refine ⟨⟨?_, fun hadmits => ?_⟩, fun q hq => ?_⟩
  · rintro ⟨q, hq⟩
    obtain ⟨hcount, authorized, hauthorizing, hassembling⟩ := (compile_of_resolves h).mp hq
    exact admits_of_stages h hcount hauthorizing hassembling
  · obtain ⟨hcount, q, authorized, hauthorizing, hassembling⟩ := stages_of_admits h hadmits
    exact ⟨q, (compile_of_resolves h).mpr ⟨hcount, authorized, hauthorizing, hassembling⟩⟩
  · obtain ⟨-, authorized, hauthorizing, hassembling⟩ := (compile_of_resolves h).mp hq
    exact answers_of_stages h hauthorizing hassembling

/-- A node that permits all it is not told otherwise about. -/
def permissiveNode : Node := { (default : Node) with permissive := some (.literal (.bool true)) }

/-- Albums whose tests, orders, groups and placeholders are open to clients. -/
def openAlbums : EntityConfig :=
  { (default : EntityConfig) with
    read := { (default : ReadRules) with
      permissions := { (default : ReadPermissions) with
        conditions := permissiveNode
        orderBy := permissiveNode
        groupBy := permissiveNode
        placeholders := permissiveNode } } }

/-- A test as a client writes it into an argument. -/
def nestedArgument : Json := .ofFields [("operator", .str "isNull"), ("field", .str "t.label")]

/-- A condition with that test inside an argument. -/
def nestedCondition : Condition :=
  ⟨none, .and, "orX", [], [⟨some "t.year", .and, "eq", [nestedArgument], []⟩]⟩

/-- A request with that condition, an order, a group and a placeholder. -/
def nestedRequest : ReadRequest where
  entityType := "album"
  config := openAlbums
  frontEnd := { (default : FrontEndOptions) with
    query := { (default : FrontEndQuery) with
      conditions := [nestedCondition]
      orderBy := .ofList [("t.year", "desc")]
      groupBy := ["t.label"]
      placeholders := .ofList [("you", ⟨.str "bob", none⟩)] } }
  overrides := default
  ctx := .ofCall .null .null .null .null

/-- What that request resolves to. -/
def nestedResolved : Resolved where
  checked := ⟨[.group .and .orX [.leaf .and "t.year" .eq
    [.nested (.leaf .and "t.label" .isNull [])]]], [], [("t.year", .desc)], ["t.label"]⟩
  base := { QuerySpec.ofType "album" with
    select := ["t"]
    sources := [⟨"album", "t", none⟩]
    cache := ⟨true, true, true, none, none, none, none⟩ }
  configured := []
  maxParams := none
  maxLimit := none
  fromOptions := .empty

lemma nestedRequest_resolves : nestedRequest.Resolves .standard nestedResolved where
  checked := by
    have hdepth : nestedCondition.argumentDepth = 5 := rfl
    have hwritten : Condition.isNested nestedArgument = true := rfl
    have hread : Condition.ofJson? nestedArgument = some ⟨some "t.label", .and, "isNull", [], []⟩ :=
      rfl
    simp only [CheckedQuery.of, nestedRequest, Condition.check, List.mapM_cons, hdepth]
    simp only [nestedCondition, Condition.checkWithin, Condition.checkItems,
      Condition.checkArguments, hwritten, hread, if_true]
    rfl
  base := rfl
  maxParams := rfl
  options := rfl
  values := by
    intro entry hentry
    cases hentry
  maxLimit := rfl
  paginate := ⟨none, rfl⟩
  fetchJoin := ⟨none, rfl⟩
  hydrate := ⟨none, rfl⟩

lemma nestedRequest_compiles : ∃ q, (compile .standard nestedRequest).outcome.1 = .ok q :=
  ⟨_, compile_eq_ok.mpr ⟨_, _, _, _,
    resolving_eq_ok.mpr ⟨nestedRequest_resolves.checked, rfl, rfl⟩, rfl, rfl⟩⟩

/-- That request compiles, so all it asks for is permitted, the inner test included. -/
theorem nestedRequest_accepted :
    nestedRequest.Resolves .standard nestedResolved ∧
      (∃ q, (compile .standard nestedRequest).outcome.1 = .ok q) ∧
      nestedRequest.Admits .standard nestedResolved ∧
      ∀ q, (compile .standard nestedRequest).outcome.1 = .ok q →
        nestedRequest.Answers .standard nestedResolved q := by
  obtain ⟨haccepts, hanswers⟩ :=
    accepts_iff_admits .standard nestedRequest nestedResolved nestedRequest_resolves
  exact ⟨nestedRequest_resolves, nestedRequest_compiles, haccepts.mp nestedRequest_compiles,
    hanswers⟩

end Compile

end EntityGate
