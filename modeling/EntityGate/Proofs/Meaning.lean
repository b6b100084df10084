/-
# What front-end conditions mean

Front-end conditions are read here as they are written: a test says what its operator says about
the value of its field and its arguments, a group asks its conditions one after the other, and in
a list each condition is joined to all before it.  No expression, no parameter and no backend
occurs in that reading.  The clause that is built from the conditions, evaluated where its
parameters are bound, gives the same answer on every row: true, false or an error.

On the way the two passes do a good deal that must not show.  Junctions are flattened when a
condition is put at their end, every literal is replaced by the name of a parameter whose number
goes on through the whole tree, and the arguments of a membership test become one list, which the
backend takes apart again.
-/
import EntityGate.Proofs.Evaluation
import EntityGate.Proofs.Numbering

namespace EntityGate

open Decision

/-! ## The direct reading -/

namespace Condition

mutual
/-- Whether no argument in a condition, at any depth, is a condition itself. -/
def isPlain : Condition → Bool
  | ⟨_, _, _, arguments, conditions⟩ =>
    arguments.all (fun v => !isNested v) && arePlain conditions

/-- Whether no argument in some conditions is a condition itself. -/
def arePlain : List Condition → Bool
  | [] => true
  | c :: rest => isPlain c && arePlain rest
end

/-- What a test says about the value of its field.  A membership test asks for the value among its
arguments, those of them that are lists standing for their items. -/
def readsTest (op : Operator) (v : Json) (arguments : List Json) : Answer :=
  match op with
  | .isIn => .ok ((Checked.flattenOnce arguments).any (Column.same v))
  | .notIn => .ok (!(Checked.flattenOnce arguments).any (Column.same v))
  | op => Column.test op v arguments

mutual
/-- What a condition says where each field has a value or is not known. -/
def reads (value : String → Except String Json) : Condition → Answer
  | ⟨field, _, operator, arguments, conditions⟩ =>
    match Operator.ofName? operator with
    | some .andX => readsAll value conditions
    | some .orX => readsSome value conditions
    | some op => do readsTest op (← value (field.getD "")) arguments
    | none => .error ("unknown operator '" ++ operator ++ "'")

/-- What the conditions of a conjunction say, asked in order. -/
def readsAll (value : String → Except String Json) : List Condition → Answer
  | [] => .ok true
  | c :: rest => Answer.andThen (reads value c) (readsAll value rest)

/-- What the conditions of a disjunction say, asked in order. -/
def readsSome (value : String → Except String Json) : List Condition → Answer
  | [] => .ok false
  | c :: rest => Answer.orElse (reads value c) (readsSome value rest)
end

/-- What a condition says together with those before it: only `or` makes a disjunction. -/
def joined (value : String → Except String Json) (before : Answer) (c : Condition) : Answer :=
  if c.connective = .or then Answer.orElse before (reads value c)
  else Answer.andThen before (reads value c)

/-- What a list of conditions says: each is joined to everything before it. -/
def readsList (value : String → Except String Json) : List Condition → Answer
  | [] => .ok true
  | c :: rest => rest.foldl (joined value) (reads value c)

end Condition

/-- Whether no layer of a node replaces values. -/
structure Node.KeepsValues (node : Node) : Prop where
  aggregate : node.hooks.mutate = none
  fields : ∀ name layer, node.field? name = some layer → layer.hooks.mutate = none

namespace QuerySpec

/-- The value of a field in a row: of the column of that name, if the alias is that of the root. -/
def fieldValue (q : QuerySpec) (row : Json) (field : String) : Except String Json := do
  return cell row (← q.column? field)

/-- Whether the parameters of a query bind the values of the front end to the names that are
generated for these. -/
def Carries (q : QuerySpec) (bound : Bound) : Prop :=
  ∀ i v, bound[i]? = some v → q.parameter? (Bound.paramName Bound.frontEnd i) = some v

variable {q : QuerySpec} {row : Json}

lemma Carries.mono {bound after : Bound} (h : q.Carries after) (hle : bound <+: after) :
    q.Carries bound := by
  obtain ⟨more, rfl⟩ := hle
  intro i v hv
  obtain ⟨hi, -⟩ := List.getElem?_eq_some_iff.mp hv
  refine h i v ?_
  rw [List.getElem?_append_left hi]
  exact hv

lemma Carries.boundValue {bound after : Bound} {v : Json} (h : q.Carries after)
    (hle : bound ++ [v] <+: after) :
    q.boundValue (Bound.paramName Bound.frontEnd bound.length) = .ok v := by
  have hparameter := h.mono hle bound.length v (by simp)
  rw [QuerySpec.boundValue, hparameter]

/-- A query whose parameters are those of the builder carries all values that were bound. -/
lemma carries_of_parameters {bound : Bound}
    (h : q.parameters = .ofList ((Bound.named Bound.frontEnd bound).map Compile.generated)) :
    q.Carries bound := by
  intro i v hv
  have hnodup :
      (((Bound.named Bound.frontEnd bound).map Compile.generated).map Prod.fst).Nodup := by
    rw [Compile.keys_generated]
    exact Bound.nodup_keys_named _ _
  have hget := Table.get?_ofList_append_of_nodup hnodup []
    (Bound.paramName Bound.frontEnd i)
  rw [List.nil_append, Bound.lookup_named_generated, hv] at hget
  rw [parameter?, h, hget]
  rfl

/-- A test says what its operator says about the value of its field and the values of its
operands. -/
lemma holds_predicate {field : String} {op : Operator} {operands : List Operand}
    {values : List Json} (hvalues : operands.mapM (q.operandValue row) = .ok values) :
    q.holds row (.predicate field op operands) =
      (do Column.test op (← q.fieldValue row field) values) := by
  rw [holds, fieldValue, hvalues]
  cases q.column? field <;> rfl

end QuerySpec

/-! ## Structural checks of plain conditions -/

namespace Condition

lemma connective_of_checkWithin {fuel : Nat} {c : Condition} {checked : Checked}
    (h : checkWithin fuel c = .ok checked) : checked.connective = c.connective := by
  cases fuel with
  | zero =>
    rw [checkWithin] at h
    cases h
  | succ fuel =>
    rw [checkWithin] at h
    obtain ⟨operator, -, h⟩ := bind_eq_ok.mp h
    split at h
    · split at h
      · cases h
      · obtain ⟨conditions, -, h⟩ := bind_eq_ok.mp h
        cases h
        rfl
    · obtain ⟨⟨⟩, -, h⟩ := bind_eq_ok.mp h
      split at h
      · obtain ⟨arguments, -, h⟩ := bind_eq_ok.mp h
        cases h
        rfl
      · cases h

/-- Arguments that are not conditions are literals. -/
lemma checkArguments_plain {fuel : Nat} {arguments : List Json}
    {checked : List CheckedArgument} (hplain : arguments.all (fun v => !isNested v) = true)
    (h : checkArguments fuel arguments = .ok checked) :
    checked = arguments.map CheckedArgument.literal := by
  induction arguments generalizing checked with
  | nil =>
    rw [checkArguments] at h
    cases h
    rfl
  | cons v rest ih =>
    rw [List.all_cons, Bool.and_eq_true] at hplain
    obtain ⟨hv, hrest⟩ := hplain
    have hnot : isNested v = false := by simpa using hv
    rw [checkArguments, hnot] at h
    simp only [Bool.false_eq_true, if_false, pure_eq_ok, ok_bind] at h
    obtain ⟨others, hothers, h⟩ := bind_eq_ok.mp h
    cases h
    rw [ih hrest hothers, List.map_cons]

end Condition

/-! ## Building from literals -/

namespace Checked

variable {registry : Registry} {node : Node} {ctx : Context} {q : QuerySpec} {row : Json}

lemma literals_map (arguments : List Json) :
    literals (arguments.map CheckedArgument.literal) = arguments := by
  induction arguments with
  | nil => rfl
  | cons v rest ih => rw [List.map_cons, literals, ih]

/-- Without hooks that replace values, the literals of a test are what is bound. -/
lemma authorize_keeps (hnode : node.KeepsValues) {field : String} {operator : Operator}
    {arguments : List Json} {value : Json}
    (h : authorize registry node ctx field operator (arguments.map CheckedArgument.literal) =
      .ok value) : value = .arr arguments := by
  have hreplaced := (authorize_eq_ok.mp h).passes.replaced
  have hnone : Permission.mutateOf node.toLayer (node.field? field) = none := by
    rw [Permission.mutateOf, hnode.aggregate]
    cases hlayer : node.field? field with
    | none => rfl
    | some layer =>
      rw [Option.bind_some, hnode.fields field layer hlayer]
      rfl
  rw [hnone, literals_map] at hreplaced
  exact hreplaced

lemma buildNested_literals (bound : Bound) (arguments : List Json) :
    buildNested registry node ctx bound (arguments.map CheckedArgument.literal) =
      .ok ([], bound) := by
  induction arguments with
  | nil => rfl
  | cons v rest ih =>
    rw [List.map_cons, buildNested]
    exact ih

/-- The operands of literals have the values of these. -/
lemma buildOperands_values {arguments : List Json} {bound after : Bound}
    {operands : List Operand}
    (h : buildOperands registry node ctx bound arguments
      (arguments.map CheckedArgument.literal) = .ok (operands, after)) (hq : q.Carries after) :
    operands.mapM (q.operandValue row) = .ok arguments := by
  induction arguments generalizing bound operands with
  | nil =>
    cases h
    rfl
  | cons v rest ih =>
    rw [List.map_cons] at h
    obtain ⟨others, hothers, rfl⟩ := buildOperands_literal_eq_ok.mp h
    rw [List.headD_cons, List.tail_cons] at hothers
    have hle := (buildOperands_names _ hothers).le
    have hrest := ih hothers
    rw [List.mapM_cons, QuerySpec.operandValue, hq.boundValue hle, hrest]
    rfl

/-- A test that is built from literals says of a row what it says directly. -/
lemma build_leaf_means (hnode : node.KeepsValues) {connective : Connective} {field : String}
    {operator : Operator} {arguments : List Json} {bound after : Bound} {e : Expr}
    (h : build registry node ctx bound (.leaf connective field operator
      (arguments.map CheckedArgument.literal)) = .ok (e, after)) (hq : q.Carries after) :
    q.holds row e =
      (do Condition.readsTest operator (← q.fieldValue row field) arguments) := by
  rw [build] at h
  obtain ⟨value, hvalue, h⟩ := bind_eq_ok.mp h
  have hliterals := authorize_keeps hnode hvalue
  subst hliterals
  split at h
  · -- the arguments are bound as one list, which the test takes apart again
    rename_i hmembership
    obtain ⟨⟨operands, _⟩, hoperands, h⟩ := bind_eq_ok.mp h
    rw [buildNested_literals] at hoperands
    cases hoperands
    cases h
    have hoperand : ([.param (Bound.paramName Bound.frontEnd bound.length)] : List Operand).mapM
        (q.operandValue row) = .ok [.arr (flattenOnce arguments)] := by
      rw [List.mapM_cons, QuerySpec.operandValue, hq.boundValue List.prefix_rfl]
      rfl
    rw [QuerySpec.holds_predicate hoperand]
    cases operator with
    | isIn => rfl
    | notIn => rfl
    | andX | orX | eq | neq | lt | lte | gt | gte | isNull | isNotNull | like | notLike
    | between => cases hmembership
  · rename_i hmembership
    obtain ⟨⟨operands, _⟩, hoperands, h⟩ := bind_eq_ok.mp h
    cases h
    rw [QuerySpec.holds_predicate (buildOperands_values hoperands hq)]
    cases operator with
    | isIn => exact absurd rfl hmembership
    | notIn => exact absurd rfl hmembership
    | andX | orX | eq | neq | lt | lte | gt | gte | isNull | isNotNull | like | notLike
    | between => rfl

end Checked

/-! ## Conditions -/

namespace Condition

variable {registry : Registry} {node : Node} {ctx : Context} {q : QuerySpec} {row : Json}

open Checked

lemma ofName_eq_ok {name : String} {operator : Operator}
    (h : Operator.ofName name = .ok operator) : Operator.ofName? name = some operator := by
  rw [Operator.ofName] at h
  split at h
  · rename_i found hfound
    cases h
    exact hfound
  · cases h

mutual
/-- The expression of a plain condition says of a row what the condition says. -/
theorem build_means (hnode : node.KeepsValues) : (c : Condition) →
    ∀ {fuel : Nat} {checked : Checked} {bound after : Bound} {e : Expr},
    c.isPlain = true → checkWithin fuel c = .ok checked →
      build registry node ctx bound checked = .ok (e, after) → q.Carries after →
      q.holds row e = c.reads (q.fieldValue row)
  | ⟨field, connective, operatorName, arguments, conditions⟩, fuel, checked, bound, after, e,
      hplain, hcheck, hbuild, hq => by
    rw [isPlain, Bool.and_eq_true] at hplain
    obtain ⟨harguments, hconditions⟩ := hplain
    cases fuel with
    | zero =>
      rw [checkWithin] at hcheck
      cases hcheck
    | succ fuel =>
      rw [checkWithin] at hcheck
      obtain ⟨operator, hoperator, hcheck⟩ := bind_eq_ok.mp hcheck
      have hname := ofName_eq_ok hoperator
      rw [reads, hname]
      split at hcheck
      · -- a group: what is built for its conditions is asked in the same order
        rename_i hcombinator
        split at hcheck
        · cases hcheck
        · obtain ⟨group, hgroup, hcheck⟩ := bind_eq_ok.mp hcheck
          cases hcheck
          rw [build] at hbuild
          obtain ⟨⟨items, _⟩, hitems, hbuild⟩ := bind_eq_ok.mp hbuild
          cases hbuild
          obtain ⟨hall, hsome⟩ := buildItems_means hnode conditions hconditions hgroup hitems hq
          cases operator with
          | andX =>
            rw [if_neg (by decide), QuerySpec.holds]
            exact hall
          | orX =>
            rw [if_pos rfl, QuerySpec.holds]
            exact hsome
          | eq | neq | lt | lte | gt | gte | isIn | notIn | isNull | isNotNull | like | notLike
          | between => cases hcombinator
      · rename_i hcombinator
        obtain ⟨⟨⟩, -, hcheck⟩ := bind_eq_ok.mp hcheck
        split at hcheck
        · obtain ⟨literals, hliterals, hcheck⟩ := bind_eq_ok.mp hcheck
          cases hcheck
          rw [checkArguments_plain harguments hliterals] at hbuild
          rw [build_leaf_means hnode hbuild hq]
          cases operator with
          | andX => exact absurd rfl hcombinator
          | orX => exact absurd rfl hcombinator
          | eq | neq | lt | lte | gt | gte | isIn | notIn | isNull | isNotNull | like | notLike
          | between => rfl
        · cases hcheck

/-- The expressions of plain conditions, as a conjunction and as a disjunction. -/
theorem buildItems_means (hnode : node.KeepsValues) : (cs : List Condition) →
    ∀ {fuel : Nat} {checked : List Checked} {bound after : Bound} {es : List Expr},
    arePlain cs = true → checkItems fuel cs = .ok checked →
      buildItems registry node ctx bound checked = .ok (es, after) → q.Carries after →
      q.holdsAll row es = readsAll (q.fieldValue row) cs ∧
        q.holdsSome row es = readsSome (q.fieldValue row) cs
  | [], fuel, checked, bound, after, es, _, hcheck, hbuild, _ => by
    rw [checkItems] at hcheck
    cases hcheck
    cases hbuild
    rw [QuerySpec.holdsAll, QuerySpec.holdsSome, readsAll, readsSome]
    exact ⟨rfl, rfl⟩
  | c :: rest, fuel, checked, bound, after, es, hplain, hcheck, hbuild, hq => by
    rw [arePlain, Bool.and_eq_true] at hplain
    obtain ⟨hc, hrest⟩ := hplain
    rw [checkItems] at hcheck
    obtain ⟨first, hfirst, hcheck⟩ := bind_eq_ok.mp hcheck
    obtain ⟨others, hothers, hcheck⟩ := bind_eq_ok.mp hcheck
    cases hcheck
    obtain ⟨e, between, more, he, hmore, rfl⟩ := buildItems_cons_eq_ok.mp hbuild
    have hbetween := hq.mono (buildItems_names others hmore).le
    have hholds := build_means hnode c hc hfirst he hbetween
    obtain ⟨hall, hsome⟩ := buildItems_means hnode rest hrest hothers hmore hq
    rw [QuerySpec.holdsAll_cons, QuerySpec.holdsSome_cons, readsAll, readsSome, hholds, hall,
      hsome]
    exact ⟨rfl, rfl⟩
end

/-- A clause that has begun goes on as the conditions are joined to what it says. -/
lemma buildFrom_means (hnode : node.KeepsValues) {cs : List Condition} {checked : List Checked}
    {acc : Expr} {clause : Option Expr} {bound after : Bound} (hplain : arePlain cs = true)
    (hcheck : check cs = .ok checked)
    (hbuild : buildFrom registry node ctx (some acc) bound checked = .ok (clause, after))
    (hq : q.Carries after) :
    q.clauseHolds row clause = cs.foldl (joined (q.fieldValue row)) (q.holds row acc) := by
  induction cs generalizing checked acc bound with
  | nil =>
    cases hcheck
    cases hbuild
    rfl
  | cons c rest ih =>
    rw [arePlain, Bool.and_eq_true] at hplain
    obtain ⟨hc, hrest⟩ := hplain
    rw [check] at hcheck
    obtain ⟨first, hfirst, others, hothers, rfl⟩ := mapM_cons_eq_ok.mp hcheck
    rw [buildFrom] at hbuild
    obtain ⟨⟨e, between⟩, he, hbuild⟩ := bind_eq_ok.mp hbuild
    obtain ⟨names, hnames, -⟩ := buildFrom_names hbuild
    have hholds : q.holds row e = c.reads (q.fieldValue row) :=
      build_means hnode c hc hfirst he (hq.mono hnames.le)
    rw [ih hrest hothers hbuild, List.foldl_cons, joined, Expr.join,
      connective_of_checkWithin hfirst, ← hholds]
    split
    · rw [QuerySpec.holds_orElse]
    · rw [QuerySpec.holds_andThen]

/-- The clause that is built from plain conditions, under the parameters of the builder, answers
on every row as the conditions do when they are read as they are written. -/
theorem buildAll_means (registry : Registry) (node : Node) (ctx : Context)
    (conditions : List Condition) (checked : List Checked) (before after : Bound)
    (clause : Option Expr) (q : QuerySpec) (row : Json) (hplain : arePlain conditions = true)
    (hcheck : check conditions = .ok checked) (hnode : node.KeepsValues)
    (hbuild : buildAll registry node ctx before checked = .ok (clause, after))
    (hq : q.Carries after) :
    q.clauseHolds row clause = readsList (q.fieldValue row) conditions := by
  rw [buildAll_eq_buildFrom] at hbuild
  cases conditions with
  | nil =>
    cases hcheck
    cases hbuild
    rfl
  | cons c rest =>
    rw [arePlain, Bool.and_eq_true] at hplain
    obtain ⟨hc, hrest⟩ := hplain
    rw [check] at hcheck
    obtain ⟨first, hfirst, others, hothers, rfl⟩ := mapM_cons_eq_ok.mp hcheck
    rw [buildFrom] at hbuild
    obtain ⟨⟨e, between⟩, he, hbuild⟩ := bind_eq_ok.mp hbuild
    obtain ⟨names, hnames, -⟩ := buildFrom_names hbuild
    have hholds : q.holds row e = c.reads (q.fieldValue row) :=
      build_means hnode c hc hfirst he (hq.mono hnames.le)
    rw [buildFrom_means hnode hrest hothers hbuild hq, Expr.join, hholds, readsList]

/-- Albums with a title, or without a label from the early sixties. -/
def titleOrEarly : Condition :=
  ⟨none, .or, "orX", [], [⟨some "t.title", .and, "eq", [.str "Blue"], []⟩,
    ⟨none, .and, "andX", [], [⟨some "t.label", .and, "isNull", [], []⟩,
      ⟨some "t.year", .and, "between", [.nat 1960, .nat 1965], []⟩]⟩]⟩

/-- Albums of some years or of that kind; and of all these only those that were sold. -/
def soldAlbums : List Condition :=
  [⟨some "t.year", .and, "in", [.nat 1970, .arr [.nat 1971, .nat 1972]], []⟩, titleOrEarly,
    ⟨some "t.sold", .none, "gt", [.nat 0], []⟩]

/-- These conditions after the structural checks. -/
def soldChecked : List Checked :=
  [.leaf .and "t.year" .isIn [.literal (.nat 1970), .literal (.arr [.nat 1971, .nat 1972])],
    .group .or .orX [.leaf .and "t.title" .eq [.literal (.str "Blue")],
      .group .and .andX [.leaf .and "t.label" .isNull [],
        .leaf .and "t.year" .between [.literal (.nat 1960), .literal (.nat 1965)]]],
    .leaf .none "t.sold" .gt [.literal (.nat 0)]]

/-- The values that are bound for them. -/
def soldBound : Bound :=
  [.arr [.nat 1970, .nat 1971, .nat 1972], .str "Blue", .nat 1960, .nat 1965, .nat 0]

/-- The clause that is built from them. -/
def soldClause : Expr :=
  .and [.or [.predicate "t.year" .isIn [.param "frontEndParam0"],
      .or [.predicate "t.title" .eq [.param "frontEndParam1"],
        .and [.predicate "t.label" .isNull [],
          .predicate "t.year" .between [.param "frontEndParam2", .param "frontEndParam3"]]]],
    .predicate "t.sold" .gt [.param "frontEndParam4"]]

/-- A query of albums with the parameters of the builder. -/
def soldQuery : QuerySpec :=
  { QuerySpec.ofType "album" with
    parameters := .ofList ((Bound.named Bound.frontEnd soldBound).map Compile.generated) }

/-- An album that was sold, of another year but with that title. -/
def blueAlbum : Json := .ofFields [("title", .str "Blue"), ("year", .nat 1999), ("sold", .nat 5)]

lemma soldAlbums_checked : check soldAlbums = .ok soldChecked := by
  have hdepth : titleOrEarly.argumentDepth = 6 := rfl
  simp only [soldAlbums, check, List.mapM_cons, hdepth]
  simp only [titleOrEarly, checkWithin, checkItems, checkArguments]
  rfl

lemma soldAlbums_built : buildAll .standard Compile.permissiveNode
    (.ofCall .null .null .null .null) [] soldChecked = .ok (some soldClause, soldBound) := rfl

lemma permissiveNode_keepsValues : Compile.permissiveNode.KeepsValues :=
  ⟨rfl, fun _ _ h => by cases h⟩

/-- On that album the clause and the conditions agree. -/
theorem soldAlbums_means :
    arePlain soldAlbums = true ∧ check soldAlbums = .ok soldChecked ∧
      Compile.permissiveNode.KeepsValues ∧
      buildAll .standard Compile.permissiveNode (.ofCall .null .null .null .null) []
        soldChecked = .ok (some soldClause, soldBound) ∧
      soldQuery.Carries soldBound ∧
      soldQuery.clauseHolds blueAlbum (some soldClause) =
        readsList (soldQuery.fieldValue blueAlbum) soldAlbums :=
  ⟨by decide, soldAlbums_checked, permissiveNode_keepsValues, soldAlbums_built,
    QuerySpec.carries_of_parameters rfl,
    buildAll_means .standard Compile.permissiveNode (.ofCall .null .null .null .null) soldAlbums
      soldChecked [] soldBound (some soldClause) soldQuery blueAlbum (by decide)
      soldAlbums_checked permissiveNode_keepsValues soldAlbums_built
      (QuerySpec.carries_of_parameters rfl)⟩

example : readsList (soldQuery.fieldValue blueAlbum) soldAlbums = .ok true := by decide +kernel

end Condition

end EntityGate
