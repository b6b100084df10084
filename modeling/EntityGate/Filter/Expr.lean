/-
# Filter expressions

The verified form of a filter.  A predicate tests a field against operands, each of which is a
named parameter, trusted text of the configuration or a nested expression; expressions are
combined by conjunction and disjunction.
-/
import EntityGate.Filter.Condition

namespace EntityGate

mutual
/-- A verified filter expression. -/
inductive Expr where
  /-- Text of the configuration that a backend reads as it is. -/
  | fragment (text : String)
  /-- A test of a field. -/
  | predicate (field : String) (operator : Operator) (arguments : List Operand)
  /-- All of the items. -/
  | and (items : List Expr)
  /-- At least one of the items. -/
  | or (items : List Expr)

/-- An operand of a predicate. -/
inductive Operand where
  /-- The parameter with a name. -/
  | param (name : String)
  /-- Text of the configuration, such as a column. -/
  | fragment (text : String)
  | expr (e : Expr)
end

namespace Expr

/-- The conjunction with another expression, put at the end of a conjunction. -/
def andThen : Expr → Expr → Expr
  | and items, e => and (items ++ [e])
  | first, e => and [first, e]

/-- The disjunction with another expression, put at the end of a disjunction. -/
def orElse : Expr → Expr → Expr
  | or items, e => or (items ++ [e])
  | first, e => or [first, e]

/-- Join an expression to those before it: only `or` makes a disjunction. -/
def join (before : Option Expr) (e : Expr) (connective : Connective) : Expr :=
  match before with
  | none => e
  | some acc => if connective = .or then acc.orElse e else acc.andThen e

/-- Narrow a clause by an expression that may be absent. -/
def narrow (clause : Option Expr) : Option Expr → Option Expr
  | none => clause
  | some e => some (match clause with | none => e | some acc => acc.andThen e)

mutual
/-- The parameters that an expression names, in order. -/
def parameterNames : Expr → List String
  | fragment _ => []
  | predicate _ _ arguments => operandNames arguments
  | and items => parameterNamesItems items
  | or items => parameterNamesItems items

/-- The parameters that some operands name. -/
def operandNames : List Operand → List String
  | [] => []
  | .param name :: rest => name :: operandNames rest
  | .fragment _ :: rest => operandNames rest
  | .expr e :: rest => parameterNames e ++ operandNames rest

/-- The parameters that some expressions name. -/
def parameterNamesItems : List Expr → List String
  | [] => []
  | e :: rest => parameterNames e ++ parameterNamesItems rest
end

mutual
/-- The value that describes an expression. -/
def toJson : Expr → Json
  | fragment text => .ofFields [("kind", .str "fragment"), ("text", .str text)]
  | predicate field operator arguments =>
    .ofFields [("kind", .str "predicate"), ("field", .str field),
      ("operator", .str operator.name), ("arguments", .arr (operandsToJson arguments))]
  | and items => .ofFields [("kind", .str "and"), ("items", .arr (itemsToJson items))]
  | or items => .ofFields [("kind", .str "or"), ("items", .arr (itemsToJson items))]

/-- The values that describe some operands. -/
def operandsToJson : List Operand → List Json
  | [] => []
  | .param name :: rest =>
    .ofFields [("kind", .str "param"), ("value", .str name)] :: operandsToJson rest
  | .fragment text :: rest =>
    .ofFields [("kind", .str "fragment"), ("value", .str text)] :: operandsToJson rest
  | .expr e :: rest =>
    .ofFields [("kind", .str "expr"), ("value", toJson e)] :: operandsToJson rest

/-- The values that describe some expressions. -/
def itemsToJson : List Expr → List Json
  | [] => []
  | e :: rest => toJson e :: itemsToJson rest
end

end Expr

end EntityGate
