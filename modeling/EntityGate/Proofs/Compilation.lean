/-
# The stages of a compilation

What a compilation that comes out well went through: the stages, each with what it handed on.
The base query names its own generated parameters only, whatever the values it binds, and no
placeholder of either end takes a name that is kept for generated parameters.  So the parameters
of a compiled query fall into four groups that do not get into each other's way: configured
values, placeholders of the back end, placeholders of the front end, and front-end values.
-/
import EntityGate.Proofs.Decision
import EntityGate.Proofs.Tables
import EntityGate.Query.Compile

namespace EntityGate

open Decision

/-! ## Generated names -/

namespace Bound

lemma isReserved_config (i : Nat) : isReserved (paramName config i) = true := by
  simp [isReserved, paramName, config, String.toList_append]

lemma isReserved_frontEnd (i : Nat) : isReserved (paramName frontEnd i) = true := by
  simp [isReserved, paramName, frontEnd, String.toList_append]

/-- The two families of generated names have nothing in common. -/
lemma config_ne_frontEnd (i j : Nat) : paramName config i ≠ paramName frontEnd j := by
  intro h
  have hlists := congrArg String.toList h
  simp [paramName, config, frontEnd, String.toList_append] at hlists

lemma mem_keys_named {family name : String} {bound : Bound} :
    name ∈ (named family bound).map Prod.fst ↔ ∃ i < bound.length, name = paramName family i := by
  simp only [named, List.mem_map, List.mem_mapIdx]
  constructor
  · rintro ⟨-, ⟨i, hi, rfl⟩, rfl⟩
    exact ⟨i, hi, rfl⟩
  · rintro ⟨i, hi, rfl⟩
    exact ⟨_, ⟨i, hi, rfl⟩, rfl⟩

/-- Some names are the generated names of the values that are bound in between, in order. -/
def Numbered (family : String) (before after : Bound) (names : List String) : Prop :=
  ∃ more, after = before ++ more ∧
    names = (List.range' before.length more.length).map (paramName family)

lemma Numbered.nil (family : String) (bound : Bound) : Numbered family bound bound [] :=
  ⟨[], by simp, rfl⟩

/-- One more value takes the first name that is left. -/
lemma Numbered.cons {family : String} {before after : Bound} {names : List String} {v : Json}
    (h : Numbered family (before ++ [v]) after names) :
    Numbered family before after (paramName family before.length :: names) := by
  obtain ⟨more, rfl, rfl⟩ := h
  refine ⟨v :: more, by simp, ?_⟩
  rw [List.length_append, List.length_singleton, List.length_cons, List.range'_succ,
    List.map_cons]

lemma Numbered.append {family : String} {before between after : Bound} {names more : List String}
    (h : Numbered family before between names) (hmore : Numbered family between after more) :
    Numbered family before after (names ++ more) := by
  obtain ⟨values, rfl, rfl⟩ := h
  obtain ⟨others, rfl, rfl⟩ := hmore
  refine ⟨values ++ others, by simp, ?_⟩
  rw [List.length_append, List.length_append, ← List.map_append]
  have hrange := List.range'_append_1 (s := before.length) (m := values.length)
    (n := others.length)
  rw [← hrange]

/-- All names are generated for some of the bound values. -/
def Within (family : String) (bound : Bound) (names : List String) : Prop :=
  ∀ name ∈ names, ∃ i < bound.length, name = paramName family i

lemma Within.nil (family : String) (bound : Bound) : Within family bound [] :=
  fun _ h => absurd h (by simp)

lemma Within.append {family : String} {bound : Bound} {names more : List String}
    (h : Within family bound names) (hmore : Within family bound more) :
    Within family bound (names ++ more) := by
  intro name hname
  rcases List.mem_append.mp hname with hname | hname
  · exact h name hname
  · exact hmore name hname

lemma Within.mono {family : String} {bound after : Bound} {names : List String}
    (h : Within family bound names) (hafter : bound <+: after) : Within family after names := by
  intro name hname
  obtain ⟨i, hi, rfl⟩ := h name hname
  exact ⟨i, Nat.lt_of_lt_of_le hi hafter.length_le, rfl⟩

lemma Numbered.within {family : String} {before after : Bound} {names : List String}
    (h : Numbered family before after names) : Within family after names := by
  obtain ⟨more, rfl, rfl⟩ := h
  intro name hname
  obtain ⟨i, hi, rfl⟩ := List.mem_map.mp hname
  rw [List.mem_range'_1] at hi
  rw [List.length_append]
  exact ⟨i, hi.2, rfl⟩

lemma Numbered.le {family : String} {before after : Bound} {names : List String}
    (h : Numbered family before after names) : before <+: after := by
  obtain ⟨more, rfl, -⟩ := h
  exact List.prefix_append _ _

/-- All names are generated for configured values. -/
def Configured (names : List String) : Prop := ∀ name ∈ names, ∃ i, name = paramName config i

lemma Within.configured {bound : Bound} {names : List String} (h : Within config bound names) :
    Configured names := by
  intro name hname
  obtain ⟨i, -, rfl⟩ := h name hname
  exact ⟨i, rfl⟩

end Bound

/-! ## The names in base conditions -/

namespace BasePart

open EntityGate.Bound

variable {registry : Registry} {ctx : Context}

mutual
/-- The expression of a base part names the values that are bound for it, in order. -/
theorem toExpr_names : (p : BasePart) → ∀ {bound after : Bound} {e : Expr},
    toExpr registry ctx bound p = .ok (e, after) → Numbered config bound after e.parameterNames
  | .value s, bound, after, e, h => by
    rw [toExpr, bind_eq_ok] at h
    obtain ⟨text, -, h⟩ := h
    cases h
    exact Numbered.nil config bound
  | .expression operatorName arguments, bound, after, e, h => by
    rw [toExpr, bind_eq_ok] at h
    obtain ⟨operator, -, h⟩ := h
    -- a junction has expressions as its arguments, a predicate a field and operands
    split at h
    · obtain ⟨⟨items, _⟩, hitems, h⟩ := bind_eq_ok.mp h
      have hnames := toExprs_names arguments hitems
      cases h
      split <;> exact hnames
    · split at h
      · rename_i s rest
        obtain ⟨field, -, h⟩ := bind_eq_ok.mp h
        obtain ⟨⟨operands, _⟩, hoperands, h⟩ := bind_eq_ok.mp h
        have hnames := toOperands_names rest hoperands
        cases h
        exact hnames
      · cases h

theorem toExprs_names : (parts : List BasePart) → ∀ {bound after : Bound} {es : List Expr},
    toExprs registry ctx bound parts = .ok (es, after) →
      Numbered config bound after (Expr.parameterNamesItems es)
  | [], bound, after, es, h => by
    cases h
    exact Numbered.nil config bound
  | p :: rest, bound, after, es, h => by
    rw [toExprs, bind_eq_ok] at h
    obtain ⟨⟨e, _⟩, he, h⟩ := h
    obtain ⟨⟨others, _⟩, hothers, h⟩ := bind_eq_ok.mp h
    cases h
    exact (toExpr_names p he).append (toExprs_names rest hothers)

theorem toOperands_names : (parts : List BasePart) →
    ∀ {bound after : Bound} {operands : List Operand},
    toOperands registry ctx bound parts = .ok (operands, after) →
      Numbered config bound after (Expr.operandNames operands)
  | [], bound, after, operands, h => by
    cases h
    exact Numbered.nil config bound
  | .value s :: rest, bound, after, operands, h => by
    rw [toOperands, bind_eq_ok] at h
    obtain ⟨v, -, h⟩ := h
    split at h
    · obtain ⟨⟨others, _⟩, hothers, h⟩ := bind_eq_ok.mp h
      have hnames := toOperands_names rest hothers
      cases h
      exact hnames
    · obtain ⟨⟨others, _⟩, hothers, h⟩ := bind_eq_ok.mp h
      have hnames := toOperands_names rest hothers
      cases h
      exact hnames.cons
  | .expression operator arguments :: rest, bound, after, operands, h => by
    rw [toOperands, bind_eq_ok] at h
    obtain ⟨⟨e, _⟩, he, h⟩ := h
    obtain ⟨⟨others, _⟩, hothers, h⟩ := bind_eq_ok.mp h
    cases h
    exact (toExpr_names (.expression operator arguments) he).append
      (toOperands_names rest hothers)
end

end BasePart

/-! ## Lists that are taken of expressions -/

namespace Expr

/-- A list that is taken of a conjunction or disjunction item by item. -/
structure Itemwise {α : Type} (list : Expr → List α) : Prop where
  and_items : ∀ items, list (.and items) = items.flatMap list
  or_items : ∀ items, list (.or items) = items.flatMap list

namespace Itemwise

variable {α : Type} {list : Expr → List α} (h : Itemwise list)
include h

lemma andThen (acc e : Expr) : list (acc.andThen e) = list acc ++ list e := by
  cases acc <;> simp [Expr.andThen, h.and_items]

lemma orElse (acc e : Expr) : list (acc.orElse e) = list acc ++ list e := by
  cases acc <;> simp [Expr.orElse, h.or_items]

/-- Joining an expression to those before it adds its list to theirs. -/
lemma join (before : Option Expr) (e : Expr) (connective : Connective) :
    list (Expr.join before e connective) = before.elim [] list ++ list e := by
  cases before with
  | none => rfl
  | some acc =>
    rw [Expr.join]
    split
    · exact h.orElse acc e
    · exact h.andThen acc e

/-- So does narrowing a clause by another one. -/
lemma narrow (clause more : Option Expr) :
    (Expr.narrow clause more).elim [] list = clause.elim [] list ++ more.elim [] list := by
  cases more with
  | none => simp [Expr.narrow]
  | some e =>
    cases clause with
    | none => rfl
    | some acc => exact h.andThen acc e

end Itemwise

/-- The parameters that a clause names, none if it is absent. -/
def clauseNames : Option Expr → List String
  | none => []
  | some e => e.parameterNames

lemma clauseNames_eq_elim (clause : Option Expr) :
    clauseNames clause = clause.elim [] parameterNames := by
  cases clause <;> rfl

lemma itemwise_parameterNames : Itemwise parameterNames := by
  have hitems : ∀ items, parameterNamesItems items = items.flatMap parameterNames := by
    intro items
    induction items with
    | nil => rfl
    | cons e rest ih => rw [parameterNamesItems, ih, List.flatMap_cons]
  exact ⟨hitems, hitems⟩

lemma parameterNames_join (before : Option Expr) (e : Expr) (connective : Connective) :
    (join before e connective).parameterNames = clauseNames before ++ e.parameterNames := by
  rw [clauseNames_eq_elim]
  exact itemwise_parameterNames.join before e connective

/-- A narrowed clause names what both clauses name. -/
lemma clauseNames_narrow (clause more : Option Expr) :
    clauseNames (narrow clause more) = clauseNames clause ++ clauseNames more := by
  simp only [clauseNames_eq_elim]
  exact itemwise_parameterNames.narrow clause more

end Expr

/-- A base clause names values that are bound for it or were bound before, and binds more values
only. -/
theorem BasePart.clause_names {registry : Registry} {ctx : Context} {bound after : Bound}
    {conditions : List BaseCondition} {e : Option Expr}
    (h : BasePart.clause registry ctx bound conditions = .ok (e, after)) :
    bound <+: after ∧ Bound.Within Bound.config after (Expr.clauseNames e) := by
  have hstart : bound <+: bound ∧
      Bound.Within Bound.config bound (Expr.clauseNames (none : Option Expr)) :=
    ⟨List.prefix_rfl, Bound.Within.nil _ _⟩
  refine foldlM_eq_ok_induct
    (p := fun made => bound <+: made.2 ∧
      Bound.Within Bound.config made.2 (Expr.clauseNames made.1)) ?_ hstart h
  rintro ⟨acc, b⟩ c ⟨acc', b'⟩ ⟨hle, hacc⟩ hstep
  obtain ⟨⟨part, _⟩, hpart, hstep⟩ := bind_eq_ok.mp hstep
  have hnames := BasePart.toExpr_names c.part hpart
  cases hstep
  refine ⟨hle.trans hnames.le, ?_⟩
  show Bound.Within Bound.config _ (Expr.parameterNames _)
  split
  · exact hnames.within
  · rw [Expr.parameterNames_join]
    exact (hacc.mono hnames.le).append hnames.within

/-! ## Stages -/

/-- A stage enters its phase, takes a decision, and goes on with what was decided. -/
lemma Phased.stage {α β : Type} (phase : ReadPhase) (e : Except Fault α) (next : α → Phased β)
    (phases : List ReadPhase) :
    (Phased.enter phase >>= fun _ => (liftM e : Phased α) >>= next) phases =
      match e with
      | .ok a => next a (phases ++ [phase])
      | .error f => (.error f, phases ++ [phase]) := by
  cases e <;> rfl

lemma Phased.lastStage {α : Type} (phase : ReadPhase) (e : Except Fault α)
    (phases : List ReadPhase) :
    (Phased.enter phase >>= fun _ => (liftM e : Phased α)) phases = (e, phases ++ [phase]) := by
  cases e <;> rfl

namespace Compile

variable {registry : Registry} {r : ReadRequest}

/-- What a compilation comes to, and the phases it enters. -/
lemma compile_run (phases : List ReadPhase) :
    compile registry r phases = match resolving registry r with
      | .error f => (.error f, phases ++ [.resolving])
      | .ok (checked, spec, bound) => match authorizing registry r checked spec bound with
        | .error f => (.error f, phases ++ [.resolving, .permissionChecking])
        | .ok spec => (assembling registry r spec,
          phases ++ [.resolving, .permissionChecking, .assembling]) := by
  rw [compile, Phased.stage]
  cases resolving registry r with
  | error f => rfl
  | ok resolved =>
    obtain ⟨checked, spec, bound⟩ := resolved
    dsimp only
    rw [Phased.stage]
    cases authorizing registry r checked spec bound with
    | error f => simp
    | ok spec => simp [Phased.lastStage]

/-- A compilation comes out well exactly if its three stages do, one after the other. -/
theorem compile_eq_ok {q : QuerySpec} :
    (compile registry r).outcome.1 = .ok q ↔
      ∃ checked spec bound authorized, resolving registry r = .ok (checked, spec, bound) ∧
        authorizing registry r checked spec bound = .ok authorized ∧
        assembling registry r authorized = .ok q := by
  have hrun : (compile registry r).outcome = compile registry r [] := rfl
  rw [hrun, compile_run]
  constructor
  · intro h
    split at h
    · cases h
    · rename_i checked spec bound hres
      split at h
      · cases h
      · rename_i authorized hauth
        exact ⟨checked, spec, bound, authorized, hres, hauth, h⟩
  · rintro ⟨checked, spec, bound, authorized, hres, hauth, hass⟩
    rw [hres]
    dsimp only
    rw [hauth]
    exact hass

lemma resolving_eq_ok {checked : CheckedQuery} {spec : QuerySpec} {bound : Bound} :
    resolving registry r = .ok (checked, spec, bound) ↔
      CheckedQuery.of r.frontEnd.query = .ok checked ∧
        checkParamCount registry r checked = .ok () ∧
        baseQuery registry r = .ok (spec, bound) := by
  simp only [resolving, bind_eq_ok]
  constructor
  · rintro ⟨_, hchecked, ⟨⟩, hcount, ⟨_, _⟩, hbase, h⟩
    cases h
    exact ⟨hchecked, hcount, hbase⟩
  · rintro ⟨hchecked, hcount, hbase⟩
    exact ⟨checked, hchecked, (), hcount, (spec, bound), hbase, rfl⟩

/-- The clauses of a base query name parameters of its own values only. -/
theorem baseQuery_within {spec : QuerySpec} {bound : Bound}
    (h : baseQuery registry r = .ok (spec, bound)) :
    Bound.Within Bound.config bound (Expr.clauseNames spec.conditions) ∧
      Bound.Within Bound.config bound (Expr.clauseNames spec.having) := by
  simp only [baseQuery, bind_eq_ok] at h
  obtain ⟨_, -, _, -, _, -, ⟨conditions, _⟩, hconditions, ⟨having, _⟩, hhaving, h⟩ := h
  obtain ⟨_, -, _, -, _, -, h⟩ := h
  cases h
  obtain ⟨-, hnames⟩ := BasePart.clause_names hconditions
  obtain ⟨hle, hhavingNames⟩ := BasePart.clause_names hhaving
  exact ⟨hnames.mono hle, hhavingNames⟩

/-- The clauses of a base query name configured parameters only. -/
theorem baseQuery_names {spec : QuerySpec} {bound : Bound}
    (h : baseQuery registry r = .ok (spec, bound)) :
    Bound.Configured (Expr.clauseNames spec.conditions) ∧
      Bound.Configured (Expr.clauseNames spec.having) := by
  obtain ⟨hconditions, hhaving⟩ := baseQuery_within h
  exact ⟨hconditions.configured, hhaving.configured⟩

/-! ## Parameters -/

variable (registry r) in
/-- The parameters of the placeholders of the back end. -/
def backEndParameters : Except Fault (List (String × Parameter)) := do
  (← backEndPlaceholders r).entries.mapM fun (name, p) => backEndPlaceholder registry r name p

variable (registry r) in
/-- The parameters of the placeholders of the front end. -/
def frontEndParameters (permissions : ReadPermissions) :
    Except Fault (List (String × Parameter)) :=
  r.frontEnd.query.placeholders.entries.mapM fun (name, p) =>
    frontEndPlaceholder registry r permissions.placeholders name p

lemma placeholders_eq_ok {permissions : ReadPermissions} {entries : List (String × Parameter)} :
    placeholders registry r permissions = .ok entries ↔
      ∃ backEnd frontEnd, backEndParameters registry r = .ok backEnd ∧
        frontEndParameters registry r permissions = .ok frontEnd ∧
        entries = backEnd ++ frontEnd := by
  simp only [placeholders, backEndParameters, frontEndParameters, bind_eq_ok, pure_eq_ok,
    Except.ok.injEq]
  constructor
  · rintro ⟨table, htable, backEnd, hbackEnd, frontEnd, hfrontEnd, rfl⟩
    exact ⟨backEnd, frontEnd, ⟨table, htable, hbackEnd⟩, hfrontEnd, rfl⟩
  · rintro ⟨backEnd, frontEnd, ⟨table, htable, hbackEnd⟩, hfrontEnd, rfl⟩
    exact ⟨table, htable, backEnd, hbackEnd, frontEnd, hfrontEnd, rfl⟩

lemma frontEndPlaceholder_eq_ok {node : Node} {name : String} {p : FrontEndPlaceholder}
    {entry : String × Parameter}
    (h : frontEndPlaceholder registry r node name p = .ok entry) :
    entry.1 = name ∧ Bound.isReserved name = false := by
  unfold frontEndPlaceholder at h
  split at h
  · cases h
  · rename_i hreserved
    refine ⟨?_, by simpa using hreserved⟩
    simp only [bind_eq_ok] at h
    obtain ⟨allowed, -, h⟩ := h
    split at h
    · cases h
    · obtain ⟨hooked, -, h⟩ := bind_eq_ok.mp h
      split at h <;> cases h
      rfl

/-- The parameters of the front end's placeholders are those that were sent. -/
lemma frontEndParameters_keys {permissions : ReadPermissions}
    {entries : List (String × Parameter)}
    (h : frontEndParameters registry r permissions = .ok entries) :
    entries.map Prod.fst = r.frontEnd.query.placeholders.keys :=
  map_of_mapM_eq_ok (fun _ _ hentry => (frontEndPlaceholder_eq_ok hentry).1) h

/-- No placeholder of the front end has a name that is kept for generated parameters. -/
lemma frontEndParameters_not_reserved {permissions : ReadPermissions}
    {entries : List (String × Parameter)}
    (h : frontEndParameters registry r permissions = .ok entries) {name : String}
    (hname : name ∈ entries.map Prod.fst) : Bound.isReserved name = false := by
  have hall := forall_of_mapM_eq_ok (p := fun entry => Bound.isReserved entry.1 = false)
    (fun _ _ hentry => by
      obtain ⟨hkey, hreserved⟩ := frontEndPlaceholder_eq_ok hentry
      rw [hkey]
      exact hreserved) h
  obtain ⟨entry, hentry, rfl⟩ := List.mem_map.mp hname
  exact hall entry hentry

lemma keys_generated (entries : List (String × Json)) :
    (entries.map generated).map Prod.fst = entries.map Prod.fst := by
  simp [generated, Function.comp_def]

lemma lookup_generated (entries : List (String × Json)) (name : String) :
    (entries.map generated).lookup name = (entries.lookup name).map fun v => ⟨v, none⟩ := by
  induction entries with
  | nil => rfl
  | cons entry rest ih =>
    obtain ⟨k, v⟩ := entry
    rw [List.map_cons, generated, Table.lookup_cons, Table.lookup_cons, ih]
    split <;> rfl

end Compile

/-! ## Authorizing and assembling -/

namespace QuerySpec

/-- The query with what a front end adds to its clauses, and with the given parameters. -/
def extended (spec : QuerySpec) (conditions having : Option Expr) (orders : List OrderClause)
    (groups : List String) (parameters : List (String × Parameter)) : QuerySpec :=
  { spec with
    conditions := Expr.narrow spec.conditions conditions
    having := Expr.narrow spec.having having
    orderBy := spec.orderBy ++ orders
    groupBy := spec.groupBy ++ groups
    parameters := .ofList parameters }

/-- The query with a page and a shape. -/
def shaped (spec : QuerySpec) (limit offset : Nat) (shaping : ResultShaping) : QuerySpec :=
  { spec with limit, offset, shaping }

end QuerySpec

namespace Compile

variable {registry : Registry} {r : ReadRequest}

/-- All parameters of a query, in order: configured values, the placeholders of both ends, and
front-end values. -/
def allParameters (configured : Bound) (backEnd frontEnd : List (String × Parameter))
    (values : Bound) : List (String × Parameter) :=
  (Bound.named Bound.config configured).map generated ++ (backEnd ++ frontEnd) ++
    (Bound.named Bound.frontEnd values).map generated

/-- What authorization adds to a base query, and where it comes from. -/
theorem authorizing_eq_ok {checked : CheckedQuery} {spec q : QuerySpec} {configured : Bound} :
    authorizing registry r checked spec configured = .ok q ↔
      ∃ backEnd frontEnd conditions bound having bound' orders,
        backEndParameters registry r = .ok backEnd ∧
        frontEndParameters registry r r.permissions = .ok frontEnd ∧
        Checked.buildAll registry r.permissions.conditions r.ctx [] checked.conditions =
          .ok (conditions, bound) ∧
        Checked.buildAll registry r.permissions.having r.ctx bound checked.having =
          .ok (having, bound') ∧
        (checked.orders.mapM fun (field, direction) =>
          authorizeOrder registry r r.permissions.orderBy field direction) = .ok orders ∧
        checked.groups.forM (authorizeGroup registry r r.permissions.groupBy) = .ok () ∧
        q = spec.extended conditions having orders checked.groups
          (allParameters configured backEnd frontEnd bound') := by
  simp only [authorizing, bind_eq_ok, placeholders_eq_ok, pure_eq_ok, Except.ok.injEq]
  constructor
  · rintro ⟨_, ⟨backEnd, frontEnd, hbackEnd, hfrontEnd, rfl⟩, ⟨conditions, bound⟩, hconditions,
      ⟨having, bound'⟩, hhaving, orders, horders, ⟨⟩, hgroups, rfl⟩
    exact ⟨backEnd, frontEnd, conditions, bound, having, bound', orders, hbackEnd, hfrontEnd,
      hconditions, hhaving, horders, hgroups, rfl⟩
  · rintro ⟨backEnd, frontEnd, conditions, bound, having, bound', orders, hbackEnd, hfrontEnd,
      hconditions, hhaving, horders, hgroups, rfl⟩
    exact ⟨_, ⟨backEnd, frontEnd, hbackEnd, hfrontEnd, rfl⟩, ⟨conditions, bound⟩, hconditions,
      ⟨having, bound'⟩, hhaving, orders, horders, (), hgroups, rfl⟩

/-- The page and the shape of a result are settled without a look at the query. -/
lemma assembling_eq_ok {spec q : QuerySpec} (h : assembling registry r spec = .ok q) :
    ∃ limit offset shaping, q = spec.shaped limit offset shaping ∧
      ∀ other, assembling registry r other = .ok (other.shaped limit offset shaping) := by
  simp only [assembling, bind_eq_ok] at h
  obtain ⟨max, hmax, h⟩ := h
  split at h
  · cases h
  · rename_i hlimit
    obtain ⟨paginate, hpaginate, h⟩ := bind_eq_ok.mp h
    obtain ⟨fetchJoin, hfetchJoin, h⟩ := bind_eq_ok.mp h
    obtain ⟨hydrate, hhydrate, h⟩ := bind_eq_ok.mp h
    refine ⟨_, _, _, (Except.ok.inj h).symm, fun other => ?_⟩
    simp only [assembling, hmax, ok_bind, if_neg hlimit, hpaginate, hfetchJoin, hhydrate]
    rfl

end Compile

end EntityGate
