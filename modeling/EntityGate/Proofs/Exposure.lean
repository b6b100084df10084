/-
# What the base query shows of a request

The configured conditions of a read, with literal condition texts and fields, in two contexts.
Each resolved argument goes one of two ways: a text goes into the clause as it is, any other value
is bound to a generated parameter.  Hence the outlines of the clauses do not depend on the
context, and the clauses themselves depend on no more than the texts that the arguments resolve
to.

They do depend on these.  A text that a client sends and a configured argument reads stands in the
query where a backend expects the name of a column or of a parameter, and the last theorem has a
client who compares a column with itself.

A condition without a connective takes the place of those before it, so the arguments of these are
not seen in the clause; the numbers of later parameters still count them.
-/
import EntityGate.Proofs.Dependence

namespace EntityGate

open Decision

/-! ## The texts among operands -/

namespace Expr

mutual
/-- The texts that stand as operands in an expression, in order. -/
def operandTexts : Expr → List String
  | fragment _ => []
  | predicate _ _ arguments => textsOfOperands arguments
  | and items => textsOfItems items
  | or items => textsOfItems items

/-- The texts among some operands. -/
def textsOfOperands : List Operand → List String
  | [] => []
  | .param _ :: rest => textsOfOperands rest
  | .fragment text :: rest => text :: textsOfOperands rest
  | .expr e :: rest => operandTexts e ++ textsOfOperands rest

/-- The texts that stand as operands in some expressions. -/
def textsOfItems : List Expr → List String
  | [] => []
  | e :: rest => operandTexts e ++ textsOfItems rest
end

/-- The texts that stand as operands in a clause, none if it is absent. -/
def clauseTexts : Option Expr → List String
  | none => []
  | some e => e.operandTexts

lemma clauseTexts_eq_elim (clause : Option Expr) :
    clauseTexts clause = clause.elim [] operandTexts := by
  cases clause <;> rfl

lemma itemwise_operandTexts : Itemwise operandTexts := by
  have hitems : ∀ items, textsOfItems items = items.flatMap operandTexts := by
    intro items
    induction items with
    | nil => rfl
    | cons e rest ih => rw [textsOfItems, ih, List.flatMap_cons]
  exact ⟨hitems, hitems⟩

lemma operandTexts_join (before : Option Expr) (e : Expr) (connective : Connective) :
    (join before e connective).operandTexts = clauseTexts before ++ e.operandTexts := by
  rw [clauseTexts_eq_elim]
  exact itemwise_operandTexts.join before e connective

end Expr

/-- The value that a setting resolves to in a context, unless it resolves to a text. -/
def Setting.readValue? (registry : Registry) (ctx : Context) (s : Setting) : Option Json :=
  match s.resolve registry ctx with
  | .ok v => if v.str?.isNone then some v else none
  | .error _ => none

namespace BasePart

variable {registry : Registry} {ctx ctx' : Context}

/-- The texts that some settings resolve to, in order. -/
def textsRead (registry : Registry) (ctx : Context) (settings : List Setting) : List String :=
  settings.filterMap (Setting.readText? registry ctx)

/-- The values other than texts that some settings resolve to, in order. -/
def valuesRead (registry : Registry) (ctx : Context) (settings : List Setting) : List Json :=
  settings.filterMap (Setting.readValue? registry ctx)

lemma textsRead_append (settings more : List Setting) :
    textsRead registry ctx (settings ++ more) =
      textsRead registry ctx settings ++ textsRead registry ctx more :=
  List.filterMap_append

lemma valuesRead_append (settings more : List Setting) :
    valuesRead registry ctx (settings ++ more) =
      valuesRead registry ctx settings ++ valuesRead registry ctx more :=
  List.filterMap_append

/-- A resolved argument goes one of two ways. -/
lemma operandOf_splits {bound : Bound} {s : Setting} {settings : List Setting} {v : Json}
    (hv : s.resolve registry ctx = .ok v) {others : List Operand}
    (hothers : Expr.textsOfOperands others = textsRead registry ctx settings) :
    Expr.textsOfOperands ((operandOf bound v).1 :: others) =
        textsRead registry ctx (s :: settings) ∧
      (operandOf bound v).2 ++ valuesRead registry ctx settings =
        bound ++ valuesRead registry ctx (s :: settings) := by
  have htext := Setting.readText?_of_resolve hv
  have hvalue : s.readValue? registry ctx = if v.str?.isNone then some v else none := by
    rw [Setting.readValue?, hv]
  rw [textsRead] at hothers
  simp only [textsRead, valuesRead, List.filterMap_cons, htext, hvalue, operandOf]
  cases v.str? with
  | none => simp [Bound.bind, Expr.textsOfOperands, hothers]
  | some text => simp [Expr.textsOfOperands, hothers]

mutual
/-- The texts that the arguments of a part resolve to stand in its expression, and the other
values are bound. -/
theorem toExpr_splits : (p : BasePart) → ∀ {bound after : Bound} {e : Expr},
    toExpr registry ctx bound p = .ok (e, after) →
      e.operandTexts = textsRead registry ctx p.argumentSettings ∧
        after = bound ++ valuesRead registry ctx p.argumentSettings
  | .value s, bound, after, e, h => by
    obtain ⟨text, -, rfl, rfl⟩ := toExpr_value_eq_ok.mp h
    rw [argumentSettings]
    exact ⟨rfl, (List.append_nil _).symm⟩
  | .expression operatorName arguments, bound, after, e, h => by
    obtain ⟨operator, -, hmade⟩ := made_of_toExpr h
    rw [argumentSettings]
    cases hmade with
    | combination _ items hcombines hitems =>
      obtain ⟨htexts, hafter⟩ := toExprs_splits arguments hitems
      rw [if_pos hcombines]
      refine ⟨?_, hafter⟩
      unfold combination
      split <;> exact htexts
    | test s rest field operands hcombines _ hoperands =>
      rw [if_neg (by simp [hcombines]), testSettings]
      exact toOperands_splits rest hoperands

theorem toExprs_splits : (parts : List BasePart) → ∀ {bound after : Bound} {es : List Expr},
    toExprs registry ctx bound parts = .ok (es, after) →
      Expr.textsOfItems es = textsRead registry ctx (conditionSettings parts) ∧
        after = bound ++ valuesRead registry ctx (conditionSettings parts)
  | [], bound, after, es, h => by
    cases h
    rw [conditionSettings]
    exact ⟨rfl, (List.append_nil _).symm⟩
  | p :: rest, bound, after, es, h => by
    obtain ⟨e, between, others, he, hothers, rfl⟩ := toExprs_cons_eq_ok.mp h
    obtain ⟨htext, rfl⟩ := toExpr_splits p he
    obtain ⟨htexts, rfl⟩ := toExprs_splits rest hothers
    rw [conditionSettings, Expr.textsOfItems, htext, htexts, textsRead_append, valuesRead_append,
      List.append_assoc]
    exact ⟨rfl, rfl⟩

theorem toOperands_splits : (parts : List BasePart) →
    ∀ {bound after : Bound} {operands : List Operand},
    toOperands registry ctx bound parts = .ok (operands, after) →
      Expr.textsOfOperands operands = textsRead registry ctx (operandSettings parts) ∧
        after = bound ++ valuesRead registry ctx (operandSettings parts)
  | [], bound, after, operands, h => by
    cases h
    rw [operandSettings]
    exact ⟨rfl, (List.append_nil _).symm⟩
  | .value s :: rest, bound, after, operands, h => by
    obtain ⟨v, others, hv, hothers, rfl⟩ := toOperands_value_eq_ok.mp h
    obtain ⟨htexts, rfl⟩ := toOperands_splits rest hothers
    rw [operandSettings]
    exact operandOf_splits hv htexts
  | .expression operatorName arguments :: rest, bound, after, operands, h => by
    obtain ⟨e, between, others, he, hothers, rfl⟩ := toOperands_expression_eq_ok.mp h
    obtain ⟨htext, rfl⟩ := toExpr_splits (.expression operatorName arguments) he
    obtain ⟨htexts, rfl⟩ := toOperands_splits rest hothers
    rw [operandSettings, Expr.textsOfOperands, htext, htexts, textsRead_append, valuesRead_append,
      List.append_assoc]
    exact ⟨rfl, rfl⟩
end

/-! ## Clauses -/

/-- A clause after a condition with its expression. -/
def attached (acc : Option Expr) (e : Expr) (connective : Connective) : Expr :=
  if connective = .none then e else Expr.join acc e connective

/-- What conditions make of a clause that has begun. -/
def clauseFrom (registry : Registry) (ctx : Context) (acc : Option Expr) (bound : Bound) :
    List BaseCondition → Except Fault (Option Expr × Bound)
  | [] => .ok (acc, bound)
  | c :: rest => do
    let (e, bound) ← toExpr registry ctx bound c.part
    clauseFrom registry ctx (some (attached acc e c.connective)) bound rest

lemma clause_eq_clauseFrom (bound : Bound) (conditions : List BaseCondition) :
    clause registry ctx bound conditions = clauseFrom registry ctx none bound conditions := by
  rw [clause]
  generalize (none : Option Expr) = acc
  induction conditions generalizing acc bound with
  | nil => rfl
  | cons c rest ih =>
    simp only [List.foldlM_cons, clauseFrom, bind_assoc]
    refine bind_congr fun made => ?_
    exact ih made.2 (some (attached acc made.1 c.connective))

lemma clauseFrom_cons_eq_ok {acc clause : Option Expr} {bound after : Bound} {c : BaseCondition}
    {rest : List BaseCondition} :
    clauseFrom registry ctx acc bound (c :: rest) = .ok (clause, after) ↔
      ∃ e between, toExpr registry ctx bound c.part = .ok (e, between) ∧
        clauseFrom registry ctx (some (attached acc e c.connective)) between rest =
          .ok (clause, after) := by
  rw [clauseFrom, bind_eq_ok]
  constructor
  · rintro ⟨⟨e, between⟩, he, h⟩
    exact ⟨e, between, he, h⟩
  · rintro ⟨e, between, he, h⟩
    exact ⟨(e, between), he, h⟩

lemma outline_attached (acc : Option Expr) (e : Expr) (connective : Connective) :
    (attached acc e connective).outline =
      attached (acc.map Expr.outline) e.outline connective := by
  rw [attached, attached]
  split
  · rfl
  · exact Expr.outline_join acc e connective

lemma operandTexts_attached (acc : Option Expr) (e : Expr) (connective : Connective) :
    (attached acc e connective).operandTexts =
      (if connective = .none then [] else Expr.clauseTexts acc) ++ e.operandTexts := by
  rw [attached]
  split
  · rfl
  · exact Expr.operandTexts_join acc e connective

/-- Whether the condition texts and the fields of some conditions are literals. -/
def allFixed (conditions : List BaseCondition) : Bool := conditions.all fun c => c.part.isFixed

/-- The settings of some conditions that stand for operands. -/
def settingsOf (conditions : List BaseCondition) : List Setting :=
  conditions.flatMap fun c => c.part.argumentSettings

/-- Whether one of some conditions takes the place of those before it. -/
def replaces (conditions : List BaseCondition) : Bool :=
  conditions.any fun c => c.connective = .none

/-- The conditions that a clause consists of in the end. -/
def shown : List BaseCondition → List BaseCondition
  | [] => []
  | c :: rest => if replaces rest then shown rest else c :: rest

lemma replaces_cons (c : BaseCondition) (rest : List BaseCondition) :
    replaces (c :: rest) = (decide (c.connective = .none) || replaces rest) :=
  List.any_cons

lemma shown_of_not_replaces {conditions : List BaseCondition} (h : replaces conditions = false) :
    shown conditions = conditions := by
  cases conditions with
  | nil => rfl
  | cons c rest =>
    rw [replaces_cons, Bool.or_eq_false_iff] at h
    simp [shown, h.2]

lemma settingsOf_cons (c : BaseCondition) (rest : List BaseCondition) :
    settingsOf (c :: rest) = c.part.argumentSettings ++ settingsOf rest :=
  List.flatMap_cons

/-- A clause has one outline in all contexts. -/
lemma clauseFrom_outline {conditions : List BaseCondition} (hfixed : allFixed conditions = true)
    {acc acc' clause clause' : Option Expr} {bound bound' after after' : Bound}
    (hacc : acc.map Expr.outline = acc'.map Expr.outline)
    (h : clauseFrom registry ctx acc bound conditions = .ok (clause, after))
    (h' : clauseFrom registry ctx' acc' bound' conditions = .ok (clause', after')) :
    clause.map Expr.outline = clause'.map Expr.outline := by
  induction conditions generalizing acc acc' bound bound' with
  | nil =>
    cases h
    cases h'
    exact hacc
  | cons c rest ih =>
    obtain ⟨e, between, he, h⟩ := clauseFrom_cons_eq_ok.mp h
    obtain ⟨e', between', he', h'⟩ := clauseFrom_cons_eq_ok.mp h'
    rw [allFixed, List.all_cons, Bool.and_eq_true] at hfixed
    refine ih hfixed.2 ?_ h h'
    rw [Option.map_some, Option.map_some, outline_attached, outline_attached, hacc,
      toExpr_outline c.part hfixed.1 he he']

/-- Where all arguments read alike, a clause is the same, and as many values are bound. -/
lemma clauseFrom_congr {conditions : List BaseCondition} (hfixed : allFixed conditions = true)
    (halike : ReadAlike registry ctx ctx' (settingsOf conditions))
    {acc clause clause' : Option Expr} {bound bound' after after' : Bound}
    (hbound : bound.length = bound'.length)
    (h : clauseFrom registry ctx acc bound conditions = .ok (clause, after))
    (h' : clauseFrom registry ctx' acc bound' conditions = .ok (clause', after')) :
    clause = clause' ∧ after.length = after'.length := by
  induction conditions generalizing acc bound bound' with
  | nil =>
    cases h
    cases h'
    exact ⟨rfl, hbound⟩
  | cons c rest ih =>
    obtain ⟨e, between, he, h⟩ := clauseFrom_cons_eq_ok.mp h
    obtain ⟨e', between', he', h'⟩ := clauseFrom_cons_eq_ok.mp h'
    rw [allFixed, List.all_cons, Bool.and_eq_true] at hfixed
    rw [settingsOf_cons, readAlike_append] at halike
    obtain ⟨rfl, hbetween⟩ := toExpr_congr c.part hfixed.1 halike.1 hbound he he'
    exact ih hfixed.2 halike.2 hbetween h h'

/-- Where a clause is the same, the arguments that are seen in it read alike; and what it began
with was the same, unless a condition has taken its place. -/
lemma readAlike_of_clauseFrom {conditions : List BaseCondition}
    (hfixed : allFixed conditions = true)
    {acc acc' clause : Option Expr} {bound bound' after after' : Bound}
    (hacc : acc.map Expr.outline = acc'.map Expr.outline)
    (h : clauseFrom registry ctx acc bound conditions = .ok (clause, after))
    (h' : clauseFrom registry ctx' acc' bound' conditions = .ok (clause, after')) :
    ReadAlike registry ctx ctx' (settingsOf (shown conditions)) ∧
      (replaces conditions = false → acc = acc') := by
  induction conditions generalizing acc acc' bound bound' with
  | nil =>
    cases h
    cases h'
    exact ⟨readAlike_nil, fun _ => rfl⟩
  | cons c rest ih =>
    obtain ⟨e, between, he, h⟩ := clauseFrom_cons_eq_ok.mp h
    obtain ⟨e', between', he', h'⟩ := clauseFrom_cons_eq_ok.mp h'
    rw [allFixed, List.all_cons, Bool.and_eq_true] at hfixed
    have houtline : (some (attached acc e c.connective)).map Expr.outline =
        (some (attached acc' e' c.connective)).map Expr.outline := by
      rw [Option.map_some, Option.map_some, outline_attached, outline_attached, hacc,
        toExpr_outline c.part hfixed.1 he he']
    obtain ⟨hrest, hsame⟩ := ih hfixed.2 houtline h h'
    rw [replaces_cons, shown]
    cases hreplaces : replaces rest with
    | true => exact ⟨by simpa using hrest, fun hno => by simp at hno⟩
    | false =>
      rw [shown_of_not_replaces hreplaces] at hrest
      have hattached : attached acc e c.connective = attached acc' e' c.connective :=
        Option.some.inj (hsame hreplaces)
      rw [attached, attached] at hattached
      rw [if_neg (by simp), settingsOf_cons, readAlike_append]
      by_cases hnone : c.connective = .none
      · rw [if_pos hnone, if_pos hnone] at hattached
        subst hattached
        exact ⟨⟨readAlike_of_toExpr c.part he he', hrest⟩, fun hno => by simp [hnone] at hno⟩
      · rw [if_neg hnone, if_neg hnone] at hattached
        obtain ⟨rfl, rfl⟩ := Expr.join_inj hacc hattached
        exact ⟨⟨readAlike_of_toExpr c.part he he', hrest⟩, fun _ => rfl⟩

/-- The texts in a clause are those that the arguments seen in it resolve to, after the texts that
it began with, unless a condition has taken their place; the other values of all arguments are
bound. -/
lemma clauseFrom_splits {conditions : List BaseCondition} {acc clause : Option Expr}
    {bound after : Bound}
    (h : clauseFrom registry ctx acc bound conditions = .ok (clause, after)) :
    Expr.clauseTexts clause =
        (if replaces conditions then [] else Expr.clauseTexts acc) ++
          textsRead registry ctx (settingsOf (shown conditions)) ∧
      after = bound ++ valuesRead registry ctx (settingsOf conditions) := by
  induction conditions generalizing acc bound with
  | nil =>
    cases h
    exact ⟨(List.append_nil _).symm, (List.append_nil _).symm⟩
  | cons c rest ih =>
    obtain ⟨e, between, he, h⟩ := clauseFrom_cons_eq_ok.mp h
    obtain ⟨htext, rfl⟩ := toExpr_splits c.part he
    obtain ⟨htexts, rfl⟩ := ih h
    rw [settingsOf_cons, valuesRead_append, List.append_assoc]
    refine ⟨?_, rfl⟩
    rw [htexts, Expr.clauseTexts, operandTexts_attached, htext, shown, replaces_cons]
    cases hreplaces : replaces rest with
    | true => simp
    | false => simp [shown_of_not_replaces hreplaces, settingsOf_cons, textsRead_append]

end BasePart

/-! ## The base query -/

namespace BaseQuery

open BasePart

/-- The clauses that the configured conditions of a read make up in a context, with the values
they bind. -/
def Makes (registry : Registry) (ctx : Context) (q : BaseQuery) (conditions having : Option Expr)
    (bound : Bound) : Prop :=
  ∃ between, clause registry ctx [] q.conditions.values = .ok (conditions, between) ∧
    clause registry ctx between q.having.values = .ok (having, bound)

/-- Whether all condition texts and all fields are literals. -/
def isFixed (q : BaseQuery) : Bool :=
  allFixed q.conditions.values && allFixed q.having.values

/-- The settings that stand for operands. -/
def argumentSettings (q : BaseQuery) : List Setting :=
  settingsOf q.conditions.values ++ settingsOf q.having.values

/-- The settings that stand for operands of the clauses that come out in the end. -/
def shownSettings (q : BaseQuery) : List Setting :=
  settingsOf (shown q.conditions.values) ++ settingsOf (shown q.having.values)

/-- The clauses of a compiled base query are made from its configured conditions. -/
theorem makes_of_baseQuery {registry : Registry} {r : ReadRequest} {spec : QuerySpec}
    {bound : Bound} (h : Compile.baseQuery registry r = .ok (spec, bound)) :
    r.config.read.query.Makes registry r.ctx spec.conditions spec.having bound := by
  simp only [Compile.baseQuery, bind_eq_ok] at h
  obtain ⟨_, -, _, -, _, -, ⟨conditions, between⟩, hconditions, ⟨having, _⟩, hhaving, h⟩ := h
  obtain ⟨_, -, _, -, _, -, h⟩ := h
  cases h
  exact ⟨between, hconditions, hhaving⟩

/-- How the clauses that some conditions make up in two contexts hang together. -/
structure Exposes (registry : Registry) (ctx ctx' : Context) (q : BaseQuery)
    (conditions having conditions' having' : Option Expr) (bound bound' : Bound) : Prop where
  /-- The clauses differ at most in operands that stand for arguments. -/
  outline : conditions.map Expr.outline = conditions'.map Expr.outline ∧
    having.map Expr.outline = having'.map Expr.outline
  /-- The texts among the operands are those that the arguments resolve to. -/
  texts : Expr.clauseTexts conditions ++ Expr.clauseTexts having =
    textsRead registry ctx q.shownSettings
  /-- All other values that the arguments resolve to are bound to parameters. -/
  values : bound = valuesRead registry ctx q.argumentSettings
  /-- Where the arguments read alike, nothing differs but the values of parameters. -/
  same : ReadAlike registry ctx ctx' q.argumentSettings →
    conditions = conditions' ∧ having = having' ∧ bound.length = bound'.length
  /-- Where the clauses do not differ, the arguments seen in them read alike. -/
  alike : conditions = conditions' → having = having' →
    ReadAlike registry ctx ctx' q.shownSettings

/-- If condition texts and fields are literals, a base query depends on the request by the texts
that its arguments resolve to and by nothing else. -/
theorem exposes_texts_only (registry : Registry) (ctx ctx' : Context) (q : BaseQuery)
    (conditions having conditions' having' : Option Expr) (bound bound' : Bound)
    (hfixed : q.isFixed = true) (h : q.Makes registry ctx conditions having bound)
    (h' : q.Makes registry ctx' conditions' having' bound') :
    q.Exposes registry ctx ctx' conditions having conditions' having' bound bound' := by
  obtain ⟨between, hconditions, hhaving⟩ := h
  obtain ⟨between', hconditions', hhaving'⟩ := h'
  rw [clause_eq_clauseFrom] at hconditions hhaving hconditions' hhaving'
  obtain ⟨hfixed, hfixedHaving⟩ := (Bool.and_eq_true _ _).mp hfixed
  obtain ⟨htexts, hbetween⟩ := clauseFrom_splits hconditions
  obtain ⟨htextsHaving, hbound⟩ := clauseFrom_splits hhaving
  refine ⟨⟨?_, ?_⟩, ?_, ?_, fun halike => ?_, fun hsame hsameHaving => ?_⟩
  · exact clauseFrom_outline hfixed rfl hconditions hconditions'
  · exact clauseFrom_outline hfixedHaving rfl hhaving hhaving'
  · rw [htexts, htextsHaving, shownSettings, textsRead_append]
    simp [Expr.clauseTexts]
  · rw [hbound, hbetween, argumentSettings, valuesRead_append, List.nil_append]
  · rw [argumentSettings, readAlike_append] at halike
    obtain ⟨hsame, hlength⟩ := clauseFrom_congr hfixed halike.1 rfl hconditions hconditions'
    exact ⟨hsame, clauseFrom_congr hfixedHaving halike.2 hlength hhaving hhaving'⟩
  · subst hsame hsameHaving
    rw [shownSettings, readAlike_append]
    exact ⟨(readAlike_of_clauseFrom hfixed rfl hconditions hconditions').1,
      (readAlike_of_clauseFrom hfixedHaving rfl hhaving hhaving').1⟩

/-- Albums of the client who asks: the owner is compared with a parameter of the request. -/
def albumsOfClient : BaseQuery :=
  { (default : BaseQuery) with
    conditions := .ofList [("owner", ⟨.and, .expression "eq"
      [.value (.literal (.str "t.ownerId")), .value (.fromContext "params.userId")]⟩)] }

/-- The context of a request whose parameter `userId` has a value. -/
def requestOf (userId : Json) : Context :=
  .ofCall (.ofFields [("userId", userId)]) .null .null .null

/-- The clause that these albums have where the client's identifier is a number. -/
def ownedByClient : Expr := .predicate "t.ownerId" .eq [.param "configParam0"]

/-- The clause that they have where it is the name of the column. -/
def ownedByAnyone : Expr := .predicate "t.ownerId" .eq [.fragment "t.ownerId"]

lemma albumsOfClient_makes (n : Nat) :
    albumsOfClient.Makes .standard (requestOf (.nat n)) (some ownedByClient) none [.nat n] :=
  ⟨_, rfl, rfl⟩

/-- Two clients with numbers get one clause, and their numbers are bound. -/
theorem albumsOfClient_exposes :
    albumsOfClient.isFixed = true ∧
      albumsOfClient.Makes .standard (requestOf (.nat 3)) (some ownedByClient) none [.nat 3] ∧
      albumsOfClient.Makes .standard (requestOf (.nat 4)) (some ownedByClient) none [.nat 4] ∧
      albumsOfClient.Exposes .standard (requestOf (.nat 3)) (requestOf (.nat 4))
        (some ownedByClient) none (some ownedByClient) none [.nat 3] [.nat 4] :=
  ⟨rfl, albumsOfClient_makes 3, albumsOfClient_makes 4,
    exposes_texts_only .standard (requestOf (.nat 3)) (requestOf (.nat 4)) albumsOfClient
      (some ownedByClient) none (some ownedByClient) none [.nat 3] [.nat 4] rfl
      (albumsOfClient_makes 3) (albumsOfClient_makes 4)⟩

/-- A client who sends the name of the column gets another clause, with the column on both
sides. -/
theorem albumsOfClient_show_text :
    albumsOfClient.isFixed = true ∧
      albumsOfClient.Makes .standard (requestOf (.nat 3)) (some ownedByClient) none [.nat 3] ∧
      albumsOfClient.Makes .standard (requestOf (.str "t.ownerId")) (some ownedByAnyone) none [] ∧
      ownedByClient ≠ ownedByAnyone := by
  refine ⟨rfl, albumsOfClient_makes 3, ⟨_, rfl, rfl⟩, ?_⟩
  simp [ownedByClient, ownedByAnyone]

end BaseQuery

end EntityGate
