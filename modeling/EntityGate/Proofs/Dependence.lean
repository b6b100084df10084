/-
# What a base clause takes from a request

The base conditions of a read are configured, but the arguments of their tests may be calls that
read the request.  Two runs of the same conditions in two contexts are compared here.  If the
condition texts and the fields are literals, the two clauses have one outline: the same shape, the
same operators, fields and condition texts, and operands at the same places.  What may differ is
an operand that stands for an argument.  It is a generated parameter if the argument resolves to
anything but a text, and then the request cannot be seen in the clause.  If the argument resolves
to a text, however, the operand is that text, wherever the text comes from.

So the clauses are the same if each argument resolves in both contexts to one text or in both to
no text, and, but for conditions that are replaced by a later one, only then.
-/
import EntityGate.Proofs.Compilation

namespace EntityGate

open Decision

/-! ## Settings and parts -/

namespace Setting

/-- Whether a setting is a literal. -/
def isLiteral (s : Setting) : Bool := s.literal?.isSome

/-- The text that a setting resolves to in a context, if it resolves to a text. -/
def readText? (registry : Registry) (ctx : Context) (s : Setting) : Option String :=
  match s.resolve registry ctx with
  | .ok v => v.str?
  | .error _ => none

lemma eq_literal_of_isLiteral {s : Setting} (h : s.isLiteral = true) : ∃ v, s = .literal v := by
  cases s with
  | literal v => exact ⟨v, rfl⟩
  | call name args => cases h
  | list items => cases h
  | map entries => cases h

lemma readText?_of_resolve {registry : Registry} {ctx : Context} {s : Setting} {v : Json}
    (h : s.resolve registry ctx = .ok v) : s.readText? registry ctx = v.str? := by
  rw [readText?, h]

end Setting

namespace BasePart

/-- Whether a name is that of an operator that combines conditions. -/
def combines (operatorName : String) : Bool :=
  ((Operator.ofName? operatorName).map Operator.isCombinator).getD false

mutual
/-- Whether the condition texts and the fields of a part are literals. -/
def isFixed : BasePart → Bool
  | value s => s.isLiteral
  | expression operatorName arguments =>
    if combines operatorName then areFixed arguments else testFixed arguments

/-- Whether the condition texts and the fields of some conditions are literals. -/
def areFixed : List BasePart → Bool
  | [] => true
  | p :: rest => isFixed p && areFixed rest

/-- Whether the field of a test is a literal, and those inside its operands are. -/
def testFixed : List BasePart → Bool
  | value s :: rest => s.isLiteral && operandsFixed rest
  | _ => true

/-- Whether the condition texts and the fields inside some operands are literals. -/
def operandsFixed : List BasePart → Bool
  | [] => true
  | value _ :: rest => operandsFixed rest
  | expression operatorName arguments :: rest =>
    isFixed (expression operatorName arguments) && operandsFixed rest
end

mutual
/-- The settings of a part that stand for operands, in order. -/
def argumentSettings : BasePart → List Setting
  | value _ => []
  | expression operatorName arguments =>
    if combines operatorName then conditionSettings arguments else testSettings arguments

/-- The settings of some conditions that stand for operands. -/
def conditionSettings : List BasePart → List Setting
  | [] => []
  | p :: rest => argumentSettings p ++ conditionSettings rest

/-- The settings of a test that stand for operands: those after its field. -/
def testSettings : List BasePart → List Setting
  | value _ :: rest => operandSettings rest
  | _ => []

/-- The settings among some operands. -/
def operandSettings : List BasePart → List Setting
  | [] => []
  | value s :: rest => s :: operandSettings rest
  | expression operatorName arguments :: rest =>
    argumentSettings (expression operatorName arguments) ++ operandSettings rest
end

end BasePart

/-! ## Outlines -/

namespace Expr

mutual
/-- An expression with one and the same mark for each operand that is not an expression. -/
def outline : Expr → Expr
  | fragment text => fragment text
  | predicate field operator arguments => predicate field operator (operandOutlines arguments)
  | and items => and (itemOutlines items)
  | or items => or (itemOutlines items)

/-- The outlines of some operands. -/
def operandOutlines : List Operand → List Operand
  | [] => []
  | .param _ :: rest => .param "" :: operandOutlines rest
  | .fragment _ :: rest => .param "" :: operandOutlines rest
  | .expr e :: rest => .expr (outline e) :: operandOutlines rest

/-- The outlines of some expressions. -/
def itemOutlines : List Expr → List Expr
  | [] => []
  | e :: rest => outline e :: itemOutlines rest
end

lemma itemOutlines_append (items more : List Expr) :
    itemOutlines (items ++ more) = itemOutlines items ++ itemOutlines more := by
  induction items with
  | nil => rfl
  | cons e items ih => simp [itemOutlines, ih]

lemma outline_andThen (acc e : Expr) :
    (acc.andThen e).outline = acc.outline.andThen e.outline := by
  cases acc <;> simp [andThen, outline, itemOutlines, itemOutlines_append]

lemma outline_orElse (acc e : Expr) :
    (acc.orElse e).outline = acc.outline.orElse e.outline := by
  cases acc <;> simp [orElse, outline, itemOutlines, itemOutlines_append]

lemma outline_join (acc : Option Expr) (e : Expr) (connective : Connective) :
    (join acc e connective).outline = join (acc.map outline) e.outline connective := by
  cases acc with
  | none => rfl
  | some acc =>
    simp only [join, Option.map_some]
    split
    · exact outline_orElse acc e
    · exact outline_andThen acc e

/-- Expressions of one outline that are joined to others can be told apart afterwards. -/
lemma andThen_inj {acc acc' e e' : Expr} (hacc : acc.outline = acc'.outline)
    (h : acc.andThen e = acc'.andThen e') : acc = acc' ∧ e = e' := by
  cases acc <;> cases acc' <;> simp_all [andThen, outline]

lemma orElse_inj {acc acc' e e' : Expr} (hacc : acc.outline = acc'.outline)
    (h : acc.orElse e = acc'.orElse e') : acc = acc' ∧ e = e' := by
  cases acc <;> cases acc' <;> simp_all [orElse, outline]

lemma join_inj {acc acc' : Option Expr} {e e' : Expr} {connective : Connective}
    (hacc : acc.map outline = acc'.map outline)
    (h : join acc e connective = join acc' e' connective) : acc = acc' ∧ e = e' := by
  cases acc with
  | none =>
    cases acc' with
    | none => exact ⟨rfl, h⟩
    | some acc' => cases hacc
  | some acc =>
    cases acc' with
    | none => cases hacc
    | some acc' =>
      have houtline : acc.outline = acc'.outline := by simpa using hacc
      simp only [join] at h
      split at h
      · obtain ⟨hacc, he⟩ := orElse_inj houtline h
        exact ⟨by rw [hacc], he⟩
      · obtain ⟨hacc, he⟩ := andThen_inj houtline h
        exact ⟨by rw [hacc], he⟩

end Expr

/-! ## One part in two contexts -/

namespace BasePart

variable {registry : Registry} {ctx ctx' : Context}

/-- A literal text does not depend on the context. -/
lemma requiredText_literal {s : Setting} (hs : s.isLiteral = true) (ctx ctx' : Context)
    (path : String) :
    requiredText registry ctx path s = requiredText registry ctx' path s := by
  obtain ⟨v, rfl⟩ := Setting.eq_literal_of_isLiteral hs
  rfl

/-- The operand that the value of an argument stands for, with the values bound after it. -/
def operandOf (bound : Bound) (v : Json) : Operand × Bound :=
  match v.str? with
  | some text => (.fragment text, bound)
  | none => Bound.bind Bound.config bound v

lemma toOperands_value (bound : Bound) (s : Setting) (rest : List BasePart) :
    toOperands registry ctx bound (value s :: rest) = (do
      let v ← s.resolve registry ctx
      let (operands, after) ← toOperands registry ctx (operandOf bound v).2 rest
      return ((operandOf bound v).1 :: operands, after)) := by
  rw [toOperands]
  refine bind_congr fun v => ?_
  cases v <;> rfl

lemma toOperands_value_eq_ok {bound after : Bound} {s : Setting} {rest : List BasePart}
    {operands : List Operand} :
    toOperands registry ctx bound (value s :: rest) = .ok (operands, after) ↔
      ∃ v others, s.resolve registry ctx = .ok v ∧
        toOperands registry ctx (operandOf bound v).2 rest = .ok (others, after) ∧
        operands = (operandOf bound v).1 :: others := by
  rw [toOperands_value]
  simp only [bind_eq_ok, pure_eq_ok, Except.ok.injEq, Prod.mk.injEq]
  constructor
  · rintro ⟨v, hv, ⟨others, _⟩, hothers, rfl, rfl⟩
    exact ⟨v, others, hv, hothers, rfl⟩
  · rintro ⟨v, others, hv, hothers, rfl⟩
    exact ⟨v, hv, (others, after), hothers, rfl, rfl⟩

lemma toOperands_expression_eq_ok {bound after : Bound} {operatorName : String}
    {arguments rest : List BasePart} {operands : List Operand} :
    toOperands registry ctx bound (expression operatorName arguments :: rest) =
        .ok (operands, after) ↔
      ∃ e between others,
        toExpr registry ctx bound (expression operatorName arguments) = .ok (e, between) ∧
          toOperands registry ctx between rest = .ok (others, after) ∧
          operands = .expr e :: others := by
  rw [toOperands]
  exact threaded_eq_ok (f := fun b => toOperands registry ctx b rest)
    (g := fun e others => .expr e :: others)

lemma toExprs_cons_eq_ok {bound after : Bound} {p : BasePart} {rest : List BasePart}
    {es : List Expr} :
    toExprs registry ctx bound (p :: rest) = .ok (es, after) ↔
      ∃ e between others, toExpr registry ctx bound p = .ok (e, between) ∧
        toExprs registry ctx between rest = .ok (others, after) ∧ es = e :: others := by
  rw [toExprs]
  exact threaded_eq_ok (f := fun b => toExprs registry ctx b rest)
    (g := List.cons)

lemma toExpr_value_eq_ok {bound after : Bound} {s : Setting} {e : Expr} :
    toExpr registry ctx bound (value s) = .ok (e, after) ↔
      ∃ text, requiredText registry ctx "query condition" s = .ok text ∧
        e = .fragment text ∧ after = bound := by
  rw [toExpr, bind_eq_ok]
  constructor
  · rintro ⟨text, htext, h⟩
    cases h
    exact ⟨text, htext, rfl, rfl⟩
  · rintro ⟨text, htext, rfl, rfl⟩
    exact ⟨text, htext, rfl⟩

/-- The combination that an operator makes of some expressions. -/
def combination (operator : Operator) (items : List Expr) : Expr :=
  if operator = .orX then .or items else .and items

lemma combination_inj {operator : Operator} {items items' : List Expr}
    (h : combination operator items = combination operator items') : items = items' := by
  unfold combination at h
  split at h
  · exact Expr.or.inj h
  · exact Expr.and.inj h

/-- How the expression of a part with an operator comes about: as a combination of conditions, or
as a test of a field. -/
inductive Made (registry : Registry) (ctx : Context) (bound : Bound) (operatorName : String)
    (operator : Operator) (after : Bound) : List BasePart → Expr → Prop where
  | combination (arguments : List BasePart) (items : List Expr)
      (hcombines : combines operatorName = true)
      (hitems : toExprs registry ctx bound arguments = .ok (items, after)) :
      Made registry ctx bound operatorName operator after arguments (combination operator items)
  | test (s : Setting) (rest : List BasePart) (field : String) (operands : List Operand)
      (hcombines : combines operatorName = false)
      (hfield : requiredText registry ctx "query condition field" s = .ok field)
      (hoperands : toOperands registry ctx bound rest = .ok (operands, after)) :
      Made registry ctx bound operatorName operator after (value s :: rest)
        (.predicate field operator operands)

lemma made_of_toExpr {bound after : Bound} {operatorName : String} {arguments : List BasePart}
    {e : Expr}
    (h : toExpr registry ctx bound (expression operatorName arguments) = .ok (e, after)) :
    ∃ operator, Operator.ofName? operatorName = some operator ∧
      Made registry ctx bound operatorName operator after arguments e := by
  rw [toExpr, bind_eq_ok] at h
  obtain ⟨operator, hoperator, h⟩ := h
  have hname : Operator.ofName? operatorName = some operator := by
    unfold Operator.ofName at hoperator
    split at hoperator <;> cases hoperator
    assumption
  have hcombines : combines operatorName = operator.isCombinator := by
    rw [combines, hname]
    rfl
  refine ⟨operator, hname, ?_⟩
  split at h
  · rename_i hcombinator
    obtain ⟨⟨items, _⟩, hitems, h⟩ := bind_eq_ok.mp h
    cases h
    exact .combination arguments items (hcombines.trans hcombinator) hitems
  · rename_i hcombinator
    split at h
    · rename_i s rest
      obtain ⟨field, hfield, h⟩ := bind_eq_ok.mp h
      obtain ⟨⟨operands, _⟩, hoperands, h⟩ := bind_eq_ok.mp h
      cases h
      exact .test s rest field operands (by simpa [hcombines] using hcombinator) hfield hoperands
    · cases h

mutual
/-- A part has one outline in all contexts. -/
theorem toExpr_outline : (p : BasePart) → ∀ {bound bound' after after' : Bound} {e e' : Expr},
    p.isFixed = true → toExpr registry ctx bound p = .ok (e, after) →
      toExpr registry ctx' bound' p = .ok (e', after') → e.outline = e'.outline
  | .value s, bound, bound', after, after', e, e', hfixed, h, h' => by
    obtain ⟨text, htext, rfl, -⟩ := toExpr_value_eq_ok.mp h
    obtain ⟨text', htext', rfl, -⟩ := toExpr_value_eq_ok.mp h'
    rw [requiredText_literal hfixed ctx ctx', htext'] at htext
    cases htext
    rfl
  | .expression operatorName arguments, bound, bound', after, after', e, e', hfixed, h, h' => by
    obtain ⟨operator, hname, hmade⟩ := made_of_toExpr h
    obtain ⟨_, hname', hmade'⟩ := made_of_toExpr h'
    cases hname.symm.trans hname'
    rw [isFixed] at hfixed
    cases hmade with
    | combination _ items hcombines hitems =>
      rw [if_pos hcombines] at hfixed
      cases hmade' with
      | combination _ items' _ hitems' =>
        have houtline := toExprs_outline arguments hfixed hitems hitems'
        unfold combination
        split <;> simp only [Expr.outline, houtline]
      | test _ _ _ _ hno => exact absurd (hcombines.symm.trans hno) (by decide)
    | test s rest field operands hcombines hfield hoperands =>
      rw [if_neg (by simp [hcombines]), testFixed, Bool.and_eq_true] at hfixed
      cases hmade' with
      | combination _ _ hyes => exact absurd (hcombines.symm.trans hyes) (by decide)
      | test _ _ field' operands' _ hfield' hoperands' =>
        rw [requiredText_literal hfixed.1 ctx ctx', hfield'] at hfield
        cases hfield
        simp only [Expr.outline, toOperands_outline rest hfixed.2 hoperands hoperands']

theorem toExprs_outline : (parts : List BasePart) →
    ∀ {bound bound' after after' : Bound} {es es' : List Expr},
    areFixed parts = true → toExprs registry ctx bound parts = .ok (es, after) →
      toExprs registry ctx' bound' parts = .ok (es', after') →
      Expr.itemOutlines es = Expr.itemOutlines es'
  | [], bound, bound', after, after', es, es', _, h, h' => by
    cases h
    cases h'
    rfl
  | p :: rest, bound, bound', after, after', es, es', hfixed, h, h' => by
    obtain ⟨e, _, others, he, hothers, rfl⟩ := toExprs_cons_eq_ok.mp h
    obtain ⟨e', _, others', he', hothers', rfl⟩ := toExprs_cons_eq_ok.mp h'
    rw [areFixed, Bool.and_eq_true] at hfixed
    simp only [Expr.itemOutlines, toExpr_outline p hfixed.1 he he',
      toExprs_outline rest hfixed.2 hothers hothers']

theorem toOperands_outline : (parts : List BasePart) →
    ∀ {bound bound' after after' : Bound} {operands operands' : List Operand},
    operandsFixed parts = true → toOperands registry ctx bound parts = .ok (operands, after) →
      toOperands registry ctx' bound' parts = .ok (operands', after') →
      Expr.operandOutlines operands = Expr.operandOutlines operands'
  | [], bound, bound', after, after', operands, operands', _, h, h' => by
    cases h
    cases h'
    rfl
  | .value s :: rest, bound, bound', after, after', operands, operands', hfixed, h, h' => by
    obtain ⟨v, others, -, hothers, rfl⟩ := toOperands_value_eq_ok.mp h
    obtain ⟨v', others', -, hothers', rfl⟩ := toOperands_value_eq_ok.mp h'
    rw [operandsFixed] at hfixed
    have houtline := toOperands_outline rest hfixed hothers hothers'
    -- whatever the argument resolves to, its operand is no expression
    cases v <;> cases v' <;>
      simp only [operandOf, Json.str?, Bound.bind, Expr.operandOutlines, houtline]
  | .expression operatorName arguments :: rest, bound, bound', after, after', operands, operands',
      hfixed, h, h' => by
    obtain ⟨e, _, others, he, hothers, rfl⟩ := toOperands_expression_eq_ok.mp h
    obtain ⟨e', _, others', he', hothers', rfl⟩ := toOperands_expression_eq_ok.mp h'
    rw [operandsFixed, Bool.and_eq_true] at hfixed
    simp only [Expr.operandOutlines,
      toExpr_outline (.expression operatorName arguments) hfixed.1 he he',
      toOperands_outline rest hfixed.2 hothers hothers']
end

/-! ## What the operands show -/

/-- Settings that resolve in two contexts to one text each, or in both to no text. -/
def ReadAlike (registry : Registry) (ctx ctx' : Context) (settings : List Setting) : Prop :=
  ∀ s ∈ settings, s.readText? registry ctx = s.readText? registry ctx'

lemma readAlike_append {settings more : List Setting} :
    ReadAlike registry ctx ctx' (settings ++ more) ↔
      ReadAlike registry ctx ctx' settings ∧ ReadAlike registry ctx ctx' more := by
  simp only [ReadAlike, List.mem_append, or_imp, forall_and]

lemma readAlike_cons {s : Setting} {settings : List Setting} :
    ReadAlike registry ctx ctx' (s :: settings) ↔
      s.readText? registry ctx = s.readText? registry ctx' ∧
        ReadAlike registry ctx ctx' settings := by
  simp only [ReadAlike, List.mem_cons, forall_eq_or_imp]

lemma readAlike_nil : ReadAlike registry ctx ctx' [] := by
  simp [ReadAlike]

/-- Values that stand for one operand are one text or no texts. -/
lemma str?_eq_of_operandOf {bound bound' : Bound} {v v' : Json}
    (h : (operandOf bound v).1 = (operandOf bound' v').1) : v.str? = v'.str? := by
  cases v <;> cases v' <;> simp_all [operandOf, Json.str?, Bound.bind]

/-- Where as many values are bound, values that are one text or no texts stand for one operand,
and as many are bound afterwards. -/
lemma operandOf_congr {bound bound' : Bound} {v v' : Json} (hbound : bound.length = bound'.length)
    (h : v.str? = v'.str?) :
    (operandOf bound v).1 = (operandOf bound' v').1 ∧
      (operandOf bound v).2.length = (operandOf bound' v').2.length := by
  rw [operandOf, operandOf, h]
  cases v'.str? with
  | none => simp [Bound.bind, hbound]
  | some text => exact ⟨rfl, hbound⟩

mutual
/-- If a part has one expression in two contexts, its arguments read alike in them. -/
theorem readAlike_of_toExpr : (p : BasePart) → ∀ {bound bound' after after' : Bound} {e : Expr},
    toExpr registry ctx bound p = .ok (e, after) →
      toExpr registry ctx' bound' p = .ok (e, after') →
      ReadAlike registry ctx ctx' p.argumentSettings
  | .value s, bound, bound', after, after', e, _, _ => by
    rw [argumentSettings]
    exact readAlike_nil
  | .expression operatorName arguments, bound, bound', after, after', e, h, h' => by
    obtain ⟨operator, hname, hmade⟩ := made_of_toExpr h
    obtain ⟨_, hname', hmade'⟩ := made_of_toExpr h'
    cases hname.symm.trans hname'
    rw [argumentSettings]
    cases hmade with
    | combination _ items hcombines hitems =>
      rw [if_pos hcombines]
      generalize hcombination : combination operator items = e at hmade'
      cases hmade' with
      | combination _ items' _ hitems' =>
        obtain rfl := combination_inj hcombination
        exact readAlike_of_toExprs arguments hitems hitems'
      | test _ _ _ _ hno => exact absurd (hcombines.symm.trans hno) (by decide)
    | test s rest field operands hcombines hfield hoperands =>
      rw [if_neg (by simp [hcombines]), testSettings]
      generalize htest : Expr.predicate field operator operands = e at hmade'
      cases hmade' with
      | combination _ _ hyes => exact absurd (hcombines.symm.trans hyes) (by decide)
      | test _ _ field' operands' _ _ hoperands' =>
        obtain ⟨-, -, rfl⟩ := Expr.predicate.inj htest
        exact readAlike_of_toOperands rest hoperands hoperands'

theorem readAlike_of_toExprs : (parts : List BasePart) →
    ∀ {bound bound' after after' : Bound} {es : List Expr},
    toExprs registry ctx bound parts = .ok (es, after) →
      toExprs registry ctx' bound' parts = .ok (es, after') →
      ReadAlike registry ctx ctx' (conditionSettings parts)
  | [], bound, bound', after, after', es, _, _ => by
    rw [conditionSettings]
    exact readAlike_nil
  | p :: rest, bound, bound', after, after', es, h, h' => by
    obtain ⟨e, _, others, he, hothers, rfl⟩ := toExprs_cons_eq_ok.mp h
    obtain ⟨e', _, others', he', hothers', heq⟩ := toExprs_cons_eq_ok.mp h'
    obtain ⟨rfl, rfl⟩ := List.cons.inj heq
    rw [conditionSettings, readAlike_append]
    exact ⟨readAlike_of_toExpr p he he', readAlike_of_toExprs rest hothers hothers'⟩

theorem readAlike_of_toOperands : (parts : List BasePart) →
    ∀ {bound bound' after after' : Bound} {operands : List Operand},
    toOperands registry ctx bound parts = .ok (operands, after) →
      toOperands registry ctx' bound' parts = .ok (operands, after') →
      ReadAlike registry ctx ctx' (operandSettings parts)
  | [], bound, bound', after, after', operands, _, _ => by
    rw [operandSettings]
    exact readAlike_nil
  | .value s :: rest, bound, bound', after, after', operands, h, h' => by
    obtain ⟨v, others, hv, hothers, rfl⟩ := toOperands_value_eq_ok.mp h
    obtain ⟨v', others', hv', hothers', heq⟩ := toOperands_value_eq_ok.mp h'
    obtain ⟨hoperand, rfl⟩ := List.cons.inj heq
    rw [operandSettings, readAlike_cons, Setting.readText?_of_resolve hv,
      Setting.readText?_of_resolve hv']
    exact ⟨str?_eq_of_operandOf hoperand, readAlike_of_toOperands rest hothers hothers'⟩
  | .expression operatorName arguments :: rest, bound, bound', after, after', operands, h, h' => by
    obtain ⟨e, _, others, he, hothers, rfl⟩ := toOperands_expression_eq_ok.mp h
    obtain ⟨e', _, others', he', hothers', heq⟩ := toOperands_expression_eq_ok.mp h'
    obtain ⟨hsame, rfl⟩ := List.cons.inj heq
    obtain rfl := Operand.expr.inj hsame
    rw [operandSettings, readAlike_append]
    exact ⟨readAlike_of_toExpr (.expression operatorName arguments) he he',
      readAlike_of_toOperands rest hothers hothers'⟩
end

mutual
/-- A part whose arguments read alike has one expression in two contexts, and binds as many
values, if as many were bound before. -/
theorem toExpr_congr : (p : BasePart) → ∀ {bound bound' after after' : Bound} {e e' : Expr},
    p.isFixed = true → ReadAlike registry ctx ctx' p.argumentSettings →
      bound.length = bound'.length → toExpr registry ctx bound p = .ok (e, after) →
      toExpr registry ctx' bound' p = .ok (e', after') → e = e' ∧ after.length = after'.length
  | .value s, bound, bound', after, after', e, e', hfixed, _, hbound, h, h' => by
    obtain ⟨text, htext, rfl, rfl⟩ := toExpr_value_eq_ok.mp h
    obtain ⟨text', htext', rfl, rfl⟩ := toExpr_value_eq_ok.mp h'
    rw [requiredText_literal hfixed ctx ctx', htext'] at htext
    cases htext
    exact ⟨rfl, hbound⟩
  | .expression operatorName arguments, bound, bound', after, after', e, e', hfixed, halike,
      hbound, h, h' => by
    obtain ⟨operator, hname, hmade⟩ := made_of_toExpr h
    obtain ⟨_, hname', hmade'⟩ := made_of_toExpr h'
    cases hname.symm.trans hname'
    rw [isFixed] at hfixed
    rw [argumentSettings] at halike
    cases hmade with
    | combination _ items hcombines hitems =>
      rw [if_pos hcombines] at hfixed halike
      cases hmade' with
      | combination _ items' _ hitems' =>
        obtain ⟨rfl, hafter⟩ := toExprs_congr arguments hfixed halike hbound hitems hitems'
        exact ⟨rfl, hafter⟩
      | test _ _ _ _ hno => exact absurd (hcombines.symm.trans hno) (by decide)
    | test s rest field operands hcombines hfield hoperands =>
      rw [if_neg (by simp [hcombines])] at hfixed halike
      rw [testFixed, Bool.and_eq_true] at hfixed
      cases hmade' with
      | combination _ _ hyes => exact absurd (hcombines.symm.trans hyes) (by decide)
      | test _ _ field' operands' _ hfield' hoperands' =>
        rw [requiredText_literal hfixed.1 ctx ctx', hfield'] at hfield
        cases hfield
        obtain ⟨rfl, hafter⟩ := toOperands_congr rest hfixed.2 halike hbound hoperands hoperands'
        exact ⟨rfl, hafter⟩

theorem toExprs_congr : (parts : List BasePart) →
    ∀ {bound bound' after after' : Bound} {es es' : List Expr},
    areFixed parts = true → ReadAlike registry ctx ctx' (conditionSettings parts) →
      bound.length = bound'.length → toExprs registry ctx bound parts = .ok (es, after) →
      toExprs registry ctx' bound' parts = .ok (es', after') →
      es = es' ∧ after.length = after'.length
  | [], bound, bound', after, after', es, es', _, _, hbound, h, h' => by
    cases h
    cases h'
    exact ⟨rfl, hbound⟩
  | p :: rest, bound, bound', after, after', es, es', hfixed, halike, hbound, h, h' => by
    obtain ⟨e, _, others, he, hothers, rfl⟩ := toExprs_cons_eq_ok.mp h
    obtain ⟨e', _, others', he', hothers', rfl⟩ := toExprs_cons_eq_ok.mp h'
    rw [areFixed, Bool.and_eq_true] at hfixed
    rw [conditionSettings, readAlike_append] at halike
    obtain ⟨rfl, hbetween⟩ := toExpr_congr p hfixed.1 halike.1 hbound he he'
    obtain ⟨rfl, hafter⟩ := toExprs_congr rest hfixed.2 halike.2 hbetween hothers hothers'
    exact ⟨rfl, hafter⟩

theorem toOperands_congr : (parts : List BasePart) →
    ∀ {bound bound' after after' : Bound} {operands operands' : List Operand},
    operandsFixed parts = true → ReadAlike registry ctx ctx' (operandSettings parts) →
      bound.length = bound'.length → toOperands registry ctx bound parts = .ok (operands, after) →
      toOperands registry ctx' bound' parts = .ok (operands', after') →
      operands = operands' ∧ after.length = after'.length
  | [], bound, bound', after, after', operands, operands', _, _, hbound, h, h' => by
    cases h
    cases h'
    exact ⟨rfl, hbound⟩
  | .value s :: rest, bound, bound', after, after', operands, operands', hfixed, halike, hbound,
      h, h' => by
    obtain ⟨v, others, hv, hothers, rfl⟩ := toOperands_value_eq_ok.mp h
    obtain ⟨v', others', hv', hothers', rfl⟩ := toOperands_value_eq_ok.mp h'
    rw [operandsFixed] at hfixed
    rw [operandSettings, readAlike_cons, Setting.readText?_of_resolve hv,
      Setting.readText?_of_resolve hv'] at halike
    obtain ⟨hoperand, hbetween⟩ := operandOf_congr hbound halike.1
    obtain ⟨rfl, hafter⟩ := toOperands_congr rest hfixed halike.2 hbetween hothers hothers'
    exact ⟨by rw [hoperand], hafter⟩
  | .expression operatorName arguments :: rest, bound, bound', after, after', operands, operands',
      hfixed, halike, hbound, h, h' => by
    obtain ⟨e, _, others, he, hothers, rfl⟩ := toOperands_expression_eq_ok.mp h
    obtain ⟨e', _, others', he', hothers', rfl⟩ := toOperands_expression_eq_ok.mp h'
    rw [operandsFixed, Bool.and_eq_true] at hfixed
    rw [operandSettings, readAlike_append] at halike
    obtain ⟨rfl, hbetween⟩ :=
      toExpr_congr (.expression operatorName arguments) hfixed.1 halike.1 hbound he he'
    obtain ⟨rfl, hafter⟩ := toOperands_congr rest hfixed.2 halike.2 hbetween hothers hothers'
    exact ⟨rfl, hafter⟩
end

end BasePart

end EntityGate
