/-
# Base conditions

The configured conditions of a read as an expression.  A condition that is plain text becomes a
fragment.  In a test, the first argument is the field and stands in the expression; each further
argument is trusted text if it resolves to a text, and a generated parameter otherwise.
-/
import EntityGate.Filter.Build
import EntityGate.Query.Spec

namespace EntityGate.BasePart

variable (registry : Registry) (ctx : Context)

/-- A text that has to be there. -/
def requiredText (path : String) (s : Setting) : Except Fault String := do
  match ← Resolve.text? registry ctx path (some s) with
  | some text => return text
  | none => throw (.invalidConfiguration path .resolvedToNull)

mutual
/-- The expression of a part, with the values bound after it. -/
def toExpr (bound : Bound) : BasePart → Except Fault (Expr × Bound)
  | value s => do return (.fragment (← requiredText registry ctx "query condition" s), bound)
  | expression operatorName arguments => do
    let operator ← Operator.ofName operatorName
    if operator.isCombinator then
      let (items, bound) ← toExprs bound arguments
      return (if operator = .orX then .or items else .and items, bound)
    else
      match arguments with
      | value s :: rest =>
        let field ← requiredText registry ctx "query condition field" s
        let (operands, bound) ← toOperands bound rest
        return (.predicate field operator operands, bound)
      | _ =>
        throw (.invalidConfiguration ("query condition '" ++ operatorName ++ "'") .fieldExpected)

/-- The expressions of some parts, in order. -/
def toExprs (bound : Bound) : List BasePart → Except Fault (List Expr × Bound)
  | [] => .ok ([], bound)
  | p :: rest => do
    let (e, bound) ← toExpr bound p
    let (es, bound) ← toExprs bound rest
    return (e :: es, bound)

/-- The operands that some parts stand for, in order. -/
def toOperands (bound : Bound) : List BasePart → Except Fault (List Operand × Bound)
  | [] => .ok ([], bound)
  | value s :: rest => do
    match ← s.resolve registry ctx with
    | .str text =>
      let (operands, bound) ← toOperands bound rest
      return (.fragment text :: operands, bound)
    | v =>
      let (operand, bound) := Bound.bind Bound.config bound v
      let (operands, bound) ← toOperands bound rest
      return (operand :: operands, bound)
  | expression operator arguments :: rest => do
    let (e, bound) ← toExpr bound (expression operator arguments)
    let (operands, bound) ← toOperands bound rest
    return (.expr e :: operands, bound)
end

/-- The clause that some base conditions make up: each is joined to those before it, and one
without a connective takes their place. -/
def clause (bound : Bound) (conditions : List BaseCondition) :
    Except Fault (Option Expr × Bound) :=
  conditions.foldlM (fun (acc, bound) c => do
    let (e, bound) ← toExpr registry ctx bound c.part
    return (some (if c.connective = .none then e else Expr.join acc e c.connective), bound))
    (none, bound)

end EntityGate.BasePart
