/-
# Building filter expressions

The second pass over front-end conditions.  Every test is put before the permissions of its
field, with its literal arguments as the value that the hooks see; what comes out of the hooks
is bound to generated parameters, so no value of a request stands in the expression itself.

The values bound so far are a list, and a generated name is a family with the position of its
value in that list; a build threads the list and thereby numbers the parameters without gaps.
-/
import EntityGate.Filter.Expr
import EntityGate.Permission.Check

namespace EntityGate

/-- Values bound to generated parameters, in order. -/
abbrev Bound : Type := List Json

namespace Bound

/-- The name of a generated parameter. -/
def paramName (family : String) (i : Nat) : String := family ++ toString i

/-- The family of the parameters that hold front-end values. -/
def frontEnd : String := "frontEndParam"

/-- The family of the parameters that hold configured values. -/
def config : String := "configParam"

/-- Whether a name is kept for generated parameters. -/
def isReserved (name : String) : Bool :=
  config.toList.isPrefixOf name.toList || frontEnd.toList.isPrefixOf name.toList

/-- The operand that a value is bound to, and the values bound then. -/
def bind (family : String) (bound : Bound) (value : Json) : Operand × Bound :=
  (.param (paramName family bound.length), bound ++ [value])

/-- The parameters of a family with their values. -/
def named (family : String) (bound : Bound) : List (String × Json) :=
  bound.mapIdx fun i v => (paramName family i, v)

end Bound

namespace Checked

/-- The literals among some arguments. -/
def literals : List CheckedArgument → List Json
  | [] => []
  | .literal v :: rest => v :: literals rest
  | .nested _ :: rest => literals rest

/-- The value that a membership test binds: the items, those that are lists flattened once. -/
def flattenOnce (items : List Json) : List Json := items.flatMap Json.toItems

/-- The context of the permission check of a test. -/
def testContext (ctx : Context) (field : String) (operator : Operator) : Context :=
  (ctx.withExtra "field" (.str field)).withExtra "operator" (.str operator.name)

/-- The value of a test's literals after its permission check. -/
def authorize (registry : Registry) (node : Node) (ctx : Context) (field : String)
    (operator : Operator) (arguments : List CheckedArgument) : Except Fault Json := do
  let verdict ← Permission.check registry node.toLayer (node.field? field) .operators
    operator.name (.arr (literals arguments)) (testContext ctx field operator)
  if verdict.vetoed then throw (.closureVeto field)
  else if verdict.allowed then return verdict.value
  else throw (.operatorNotAllowed field operator.name)

variable (registry : Registry) (node : Node) (ctx : Context)

mutual
/-- The expression of a condition, with the values bound after it. -/
def build (bound : Bound) : Checked → Except Fault (Expr × Bound)
  | group _ operator conditions => do
    let (items, bound) ← buildItems bound conditions
    return (if operator = .orX then .or items else .and items, bound)
  | leaf _ field operator arguments => do
    let value ← authorize registry node ctx field operator arguments
    if operator.isMembership then
      let (operand, bound) :=
        Bound.bind Bound.frontEnd bound (.arr (flattenOnce value.toItems))
      let (operands, bound) ← buildNested bound arguments
      return (.predicate field operator (operand :: operands), bound)
    else
      let (operands, bound) ← buildOperands bound value.toItems arguments
      return (.predicate field operator operands, bound)

/-- The expressions of some conditions, in order. -/
def buildItems (bound : Bound) : List Checked → Except Fault (List Expr × Bound)
  | [] => .ok ([], bound)
  | c :: rest => do
    let (e, bound) ← build bound c
    let (es, bound) ← buildItems bound rest
    return (e :: es, bound)

/-- The operands for the conditions among some arguments. -/
def buildNested (bound : Bound) : List CheckedArgument → Except Fault (List Operand × Bound)
  | [] => .ok ([], bound)
  | .literal _ :: rest => buildNested bound rest
  | .nested c :: rest => do
    let (e, bound) ← build bound c
    let (operands, bound) ← buildNested bound rest
    return (.expr e :: operands, bound)

/-- The operands for some arguments: a literal takes the next of the checked values, and keeps
its own where there are no more. -/
def buildOperands (bound : Bound) (values : List Json) :
    List CheckedArgument → Except Fault (List Operand × Bound)
  | [] => .ok ([], bound)
  | .literal v :: rest => do
    let (operand, bound) := Bound.bind Bound.frontEnd bound (values.headD v)
    let (operands, bound) ← buildOperands bound values.tail rest
    return (operand :: operands, bound)
  | .nested c :: rest => do
    let (e, bound) ← build bound c
    let (operands, bound) ← buildOperands bound values rest
    return (.expr e :: operands, bound)
end

/-- The expression of a list of conditions, each joined to those before it. -/
def buildAll (bound : Bound) (conditions : List Checked) :
    Except Fault (Option Expr × Bound) :=
  conditions.foldlM (fun (acc, bound) c => do
    let (e, bound) ← build registry node ctx bound c
    return (some (Expr.join acc e c.connective), bound)) (none, bound)

end Checked

end EntityGate
