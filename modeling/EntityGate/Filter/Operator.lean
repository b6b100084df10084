/-
# Operators and fields

The closed set of operators that a filter may use, the number of arguments each takes, and the
form of the fields it may name: an alias and a column, joined by one dot.
-/
import EntityGate.Json.Record
import EntityGate.Fault

namespace EntityGate

/-- The operators of filters. -/
inductive Operator where
  | andX
  | orX
  | eq
  | neq
  | lt
  | lte
  | gt
  | gte
  | isIn
  | notIn
  | isNull
  | isNotNull
  | like
  | notLike
  | between
deriving DecidableEq, Repr

namespace Operator

/-- All operators. -/
def all : List Operator :=
  [andX, orX, eq, neq, lt, lte, gt, gte, isIn, notIn, isNull, isNotNull, like, notLike, between]

/-- The name of an operator. -/
def name : Operator → String
  | andX => "andX"
  | orX => "orX"
  | eq => "eq"
  | neq => "neq"
  | lt => "lt"
  | lte => "lte"
  | gt => "gt"
  | gte => "gte"
  | isIn => "in"
  | notIn => "notIn"
  | isNull => "isNull"
  | isNotNull => "isNotNull"
  | like => "like"
  | notLike => "notLike"
  | between => "between"

/-- The operator with a name. -/
def ofName? (s : String) : Option Operator := all.find? fun op => op.name = s

/-- The operator with a name, any other name being unsafe. -/
def ofName (s : String) : Except Fault Operator :=
  match ofName? s with
  | some op => .ok op
  | none => .error (.unsafeOperator s)

/-- Whether an operator combines nested conditions instead of testing a field. -/
def isCombinator : Operator → Bool
  | andX | orX => true
  | _ => false

/-- Whether an operator tests for membership in a list. -/
def isMembership : Operator → Bool
  | isIn | notIn => true
  | _ => false

/-- The number of arguments that an operator takes, in words. -/
def arity : Operator → String
  | isNull | isNotNull => "0"
  | isIn | notIn => "at least 1"
  | between => "2"
  | _ => "1"

/-- Whether an operator takes some number of arguments. -/
def takes : Operator → Nat → Bool
  | andX, _ | orX, _ => true
  | isNull, n | isNotNull, n => n = 0
  | isIn, n | notIn, n => 1 ≤ n
  | between, n => n = 2
  | _, n => n = 1

end Operator

/-- How a condition is joined to the conditions before it. -/
inductive Connective where
  | and
  | or
  | none
deriving DecidableEq, Repr

namespace Connective

/-- The name of a connective. -/
def name : Connective → String
  | and => "and"
  | or => "or"
  | none => "none"

/-- The connective with a name. -/
def ofName? : String → Option Connective
  | "and" => some and
  | "or" => some or
  | "none" => some none
  | _ => Option.none

end Connective

namespace Field

/-- Whether a field is an alias and a column, each of word characters, joined by one dot. -/
def isQualified (field : String) : Bool :=
  match Text.splitChars '.' field.toList with
  | [scope, column] =>
    !scope.isEmpty && scope.all Text.isWord && !column.isEmpty && column.all Text.isWord
  | _ => false

/-- Refuse a field that is not qualified. -/
def verify (field : String) : Except Fault Unit :=
  if isQualified field then .ok () else .error (.malformedField field)

end Field

end EntityGate
